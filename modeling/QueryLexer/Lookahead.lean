import QueryLexer.Lexer
import QueryLexer.Lookahead.Ring

namespace QueryLexer

structure Lookahead (κ : Type) where
  lexer : Lexer κ
  ring : Ring

namespace Lookahead

variable {κ : Type}

def ofLexer (lexer : Lexer κ) : Lookahead κ := ⟨lexer, .empty⟩

def nextWith (fetch : Lexer κ → Lexeme × Lexer κ) (b : Lookahead κ) : Lexeme × Lookahead κ :=
  if 0 < b.ring.pending then
    let ring := b.ring.release
    (ring.current, { b with ring })
  else
    let r := fetch b.lexer
    let ring := b.ring.push r.1
    (ring.current, ⟨r.2, ring⟩)

def stepBack (b : Lookahead κ) : Lookahead κ :=
  if h : b.ring.pending < b.ring.filled then { b with ring := b.ring.hold h }
  else { b with lexer := b.lexer.log (.stepBackIgnored b.ring.pending) }

def passWhitespace (b : Lookahead κ) : Lookahead κ :=
  if b.ring.nextPending?.any (·.token = .whitespace) then { b with ring := b.ring.release }
  else b

variable [CharReader κ]

def next (b : Lookahead κ) : Lexeme × Lookahead κ := b.nextWith Lexer.next

def nextRegex (b : Lookahead κ) : Lexeme × Lookahead κ :=
  b.passWhitespace.nextWith fun l => l.skipWhitespace.nextRegex

def nextIgnoringWhitespace (b : Lookahead κ) : Lexeme × Lookahead κ :=
  let r := b.next
  if r.1.token = .whitespace then r.2.next else r

def peek (b : Lookahead κ) : Lexeme × Lookahead κ :=
  let r := b.next
  (r.1, r.2.stepBack)

end Lookahead

end QueryLexer
