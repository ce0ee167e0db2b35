import QueryLexer.Diagnostic.Report
import QueryLexer.Event
import QueryLexer.Lexeme.Read
import QueryLexer.Lexeme.Regex
import QueryLexer.Settings
import QueryLexer.Source.Text

/-!
The lexer gives out the lexemes of a text one by one, keeps a journal, and reports malformed
lexemes. Main statement: every lexeme but the end leaves less to read, so the list of all of
them exists.
-/

namespace QueryLexer

def Lexeme.diagnostic? (x : Lexeme) : Option Diagnostic :=
  match x.token with
  | .illegal =>
    some ((Diagnostic.error s!"unexpected character '{x.literal}'" x.pos).withCode
      .unexpectedCharacter)
  | .badString =>
    some ((Diagnostic.error "unterminated string literal" x.pos).withCode .unterminatedString)
  | .badEscape =>
    some (((Diagnostic.error s!"invalid escape sequence '{x.literal}'" x.pos).withCode
      .invalidEscape).withHelp "supported escapes are \\n, \\\\ and the enclosing quote")
  | _ => none

theorem Lexeme.isSome_diagnostic? (x : Lexeme) : x.diagnostic?.isSome = x.token.isError := by
  cases x with
  | mk token pos literal => cases token <;> rfl

def Diagnostic.notARegex (pos : Position) : Diagnostic :=
  (Diagnostic.warning "expected '/' to start a regular expression" pos).withCode .notARegex

structure Lexer (κ : Type) where
  reader : κ
  settings : Settings
  report : Report
  start : Position
  journal : Array Event

namespace Lexer

open CharReader

section

variable {κ : Type}

def ofReader (reader : κ) (settings : Settings) : Lexer κ :=
  ⟨reader, settings, .empty, .start, #[]⟩

def log (l : Lexer κ) (e : Event) : Lexer κ := { l with journal := l.journal.push e }

def emit (l : Lexer κ) (d : Diagnostic) : Lexer κ :=
  if l.settings.reportDiagnostics then { l with report := l.report.emit d } else l

def record (l : Lexer κ) (x : Lexeme) : Lexer κ :=
  match x.diagnostic? with
  | none => l.log (.scanned x)
  | some d => ((l.log (.scanned x)).log (.malformed x)).emit d

@[simp] theorem reader_log (l : Lexer κ) (e : Event) : (l.log e).reader = l.reader := rfl

@[simp] theorem settings_log (l : Lexer κ) (e : Event) : (l.log e).settings = l.settings := rfl

@[simp] theorem reader_emit (l : Lexer κ) (d : Diagnostic) : (l.emit d).reader = l.reader := by
  rw [emit]
  split <;> rfl

@[simp] theorem settings_emit (l : Lexer κ) (d : Diagnostic) :
    (l.emit d).settings = l.settings := by
  rw [emit]
  split <;> rfl

@[simp] theorem journal_emit (l : Lexer κ) (d : Diagnostic) : (l.emit d).journal = l.journal := by
  rw [emit]
  split <;> rfl

@[simp] theorem reader_record (l : Lexer κ) (x : Lexeme) : (l.record x).reader = l.reader := by
  rw [record]
  split <;> simp

@[simp] theorem settings_record (l : Lexer κ) (x : Lexeme) :
    (l.record x).settings = l.settings := by
  rw [record]
  split <;> simp

end

variable {κ : Type} [CharReader κ]

def pos (l : Lexer κ) : Position := CharReader.pos l.reader

def rest (l : Lexer κ) : List Char := CharReader.rest l.reader

def skipWhitespace (l : Lexer κ) : Lexer κ := { l with reader := skipWhile isWhitespace l.reader }

def mark (l : Lexer κ) : Lexer κ := { l with start := l.pos }

/-- Reads one lexeme, whitespace included, and keeps no record of it. -/
def scan (l : Lexer κ) : Lexeme × Lexer κ :=
  let r := Lexeme.read l.mark.start l.mark.reader
  (r.1, { l.mark with reader := r.2 })

@[simp] theorem settings_scan (l : Lexer κ) : l.scan.2.settings = l.settings := rfl

theorem scan_suffix (l : Lexer κ) : l.scan.2.rest <:+ l.rest := Lexeme.read_suffix l.pos l.reader

theorem token_scan_eq_eof_iff {l : Lexer κ} : l.scan.1.token = .eof ↔ l.rest = [] :=
  Lexeme.token_read_eq_eof_iff

theorem length_rest_scan_lt {l : Lexer κ} (h : l.scan.1.token ≠ .eof) :
    l.scan.2.rest.length < l.rest.length :=
  Lexeme.length_rest_read_lt l.pos (mt token_scan_eq_eof_iff.2 h)

def next (l : Lexer κ) : Lexeme × Lexer κ :=
  match _h : l.scan with
  | (x, l') =>
    if _hx : x.token = .whitespace ∧ l'.settings.skipWhitespace = true then next l'
    else (x, l'.record x)
termination_by l.rest.length
decreasing_by
  have hlt := length_rest_scan_lt (l := l) (by simp [_h, _hx.1])
  simpa [_h] using hlt

def settle (l : Lexer κ) : Lexer κ :=
  if l.settings.skipWhitespace then l.skipWhitespace else l

def nextRegexHere (l : Lexer κ) : Lexeme × Lexer κ :=
  let l := l.mark
  let slash := matchChar '/' l.reader
  if slash.1 then
    let body := Lexeme.readRegexBody "" slash.2
    let x : Lexeme := ⟨.regex, l.start, body.1⟩
    (x, { l with reader := body.2 }.record x)
  else
    ({ l with reader := slash.2 }.log (.notARegex l.start)).emit (.notARegex l.start) |>.next

/-- Reads a regular expression, for use where the grammar expects one: elsewhere a slash is a
symbol. -/
def nextRegex (l : Lexer κ) : Lexeme × Lexer κ := l.settle.nextRegexHere

def next? (l : Lexer κ) : Option Lexeme × Lexer κ :=
  let r := l.next
  (if r.1.token = .eof then none else some r.1, r.2)

theorem rest_record (l : Lexer κ) (x : Lexeme) : (l.record x).rest = l.rest :=
  congrArg CharReader.rest (reader_record l x)

theorem next_suffix (l : Lexer κ) : l.next.2.rest <:+ l.rest := by
  fun_induction next l with
  | case1 l x l' h _ ih =>
    have hscan := l.scan_suffix
    rw [h] at hscan
    exact ih.trans hscan
  | case2 l x l' h _ =>
    have hscan := l.scan_suffix
    rw [h] at hscan
    rwa [rest_record]

theorem length_rest_next_lt (l : Lexer κ) (h : l.next.1.token ≠ .eof) :
    l.next.2.rest.length < l.rest.length := by
  fun_induction next l with
  | case1 l x l' hl _ ih =>
    have hscan := l.scan_suffix.length_le
    rw [hl] at hscan
    exact Nat.lt_of_lt_of_le (ih h) hscan
  | case2 l x l' hl _ =>
    have hscan := length_rest_scan_lt (l := l) (by rwa [hl])
    rw [hl] at hscan
    rwa [rest_record]

def tokens (l : Lexer κ) : List Lexeme × Lexer κ :=
  match _h : l.next with
  | (x, l') =>
    if _hx : x.token = .eof then ([], l')
    else
      let r := l'.tokens
      (x :: r.1, r.2)
termination_by l.rest.length
decreasing_by
  have := l.length_rest_next_lt (by simp [_h, _hx])
  simpa [_h] using this

def tokensUpTo : Nat → Lexer κ → List (Option Lexeme) × Lexer κ
  | 0, l => ([], l)
  | n + 1, l =>
    let first := l.next?
    let others := tokensUpTo n first.2
    (first.1 :: others.1, others.2)

end Lexer

def Lexer.ofString (text : String) (settings : Settings) : Lexer (Cursor (List Char)) :=
  .ofReader (.ofSource text.toList) settings

def Lexer.ofText (text : Text) (settings : Settings) : Lexer (Cursor Text) :=
  .ofReader (.ofSource text) settings

end QueryLexer
