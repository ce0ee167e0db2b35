import QueryLexer.Lookahead

namespace QueryLexer

inductive Session (κ : Type)
  | plain (lexer : Lexer κ)
  | buffered (lookahead : Lookahead κ)

namespace Session

inductive Request
  | next
  | nextRegex
  | tokens (limit : Option Nat)
  | addLookahead
  | dropLookahead
  | nextIgnoringWhitespace
  | peek
  | stepBack
  | pos
  | settings
  | diagnostics
  | counts
  | take
  | clear
  deriving DecidableEq

inductive Reply
  | done
  | lexeme (x : Lexeme)
  | tokens (xs : List (Option Lexeme))
  | pos (p : Position)
  | settings (s : Settings)
  | diagnostics (ds : List Diagnostic)
  | counts (errors warnings : Nat) (hasErrors : Bool)
  deriving DecidableEq

variable {κ : Type}

def lexer : Session κ → Lexer κ
  | plain l => l
  | buffered b => b.lexer

def mapLexer (f : Lexer κ → Lexer κ) : Session κ → Session κ
  | plain l => plain (f l)
  | buffered b => buffered { b with lexer := f b.lexer }

def takeJournal (s : Session κ) : List Event × Session κ :=
  (s.lexer.journal.toList, s.mapLexer fun l => { l with journal := #[] })

variable [CharReader κ]

def answer? : Request → Session κ → Option (Reply × Session κ)
  | .next, plain l =>
    let r := l.next
    some (.lexeme r.1, plain r.2)
  | .next, buffered b =>
    let r := b.next
    some (.lexeme r.1, buffered r.2)
  | .nextRegex, plain l =>
    let r := l.nextRegex
    some (.lexeme r.1, plain r.2)
  | .nextRegex, buffered b =>
    let r := b.nextRegex
    some (.lexeme r.1, buffered r.2)
  | .tokens none, plain l =>
    let r := l.tokens
    some (.tokens (r.1.map some ++ [none]), plain r.2)
  | .tokens (some n), plain l =>
    let r := l.tokensUpTo n
    some (.tokens r.1, plain r.2)
  | .addLookahead, plain l => some (.done, buffered (.ofLexer l))
  | .dropLookahead, buffered b => some (.done, plain b.lexer)
  | .nextIgnoringWhitespace, buffered b =>
    let r := b.nextIgnoringWhitespace
    some (.lexeme r.1, buffered r.2)
  | .peek, buffered b =>
    let r := b.peek
    some (.lexeme r.1, buffered r.2)
  | .stepBack, buffered b => some (.done, buffered b.stepBack)
  | .pos, s => some (.pos s.lexer.pos, s)
  | .settings, s => some (.settings s.lexer.settings, s)
  | .diagnostics, s => some (.diagnostics s.lexer.report.toList, s)
  | .counts, s =>
    let r := s.lexer.report
    some (.counts (r.count .error) (r.count .warning) r.hasErrors, s)
  | .take, s =>
    let r := s.lexer.report.take
    some (.diagnostics r.1, s.mapLexer fun l => { l with report := r.2 })
  | .clear, s => some (.done, s.mapLexer fun l => { l with report := l.report.clear })
  | _, _ => none

end Session

end QueryLexer
