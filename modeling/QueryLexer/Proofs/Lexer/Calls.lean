import QueryLexer.Proofs.Lexer.Scan
import QueryLexer.Proofs.Run

namespace QueryLexer.Lexer

inductive Call
  | next
  | nextRegex
  deriving DecidableEq

variable {κ : Type} [CharReader κ]

def answer : Call → Lexer κ → (Lexeme × Position) × Lexer κ
  | .next, l => ((l.next.1, l.next.2.pos), l.next.2)
  | .nextRegex, l => ((l.nextRegex.1, l.nextRegex.2.pos), l.nextRegex.2)

theorem pos_answer (call : Call) (l : Lexer κ) : (answer call l).1.2 = (answer call l).2.pos := by
  cases call with
  | next => rfl
  | nextRegex => rfl

theorem rest_log (l : Lexer κ) (e : Event) : (l.log e).rest = l.rest := rfl

theorem rest_emit (l : Lexer κ) (d : Diagnostic) : (l.emit d).rest = l.rest :=
  congrArg CharReader.rest (reader_emit l d)

theorem settle_suffix (l : Lexer κ) : l.settle.rest <:+ l.rest := by
  rw [settle]
  split
  · exact CharReader.readWhile_suffix isWhitespace "" l.reader
  · exact List.suffix_rfl

@[simp] theorem settings_settle (l : Lexer κ) : l.settle.settings = l.settings := by
  rw [settle]
  split
  · rfl
  · rfl

theorem nextRegexHere_of_slash {l : Lexer κ} (h : l.rest.head? = some '/') :
    l.nextRegexHere =
      let body := Lexeme.readRegexBody "" (CharReader.matchChar '/' l.reader).2
      let x : Lexeme := ⟨.regex, l.pos, body.1⟩
      (x, { l.mark with reader := body.2 }.record x) := by
  have hslash : (CharReader.matchChar '/' l.mark.reader).1 = true :=
    CharReader.matchChar_fst_of_head h
  simp only [nextRegexHere, hslash, if_true]
  rfl

theorem nextRegexHere_of_ne {l : Lexer κ} (h : l.rest.head? ≠ some '/') :
    l.nextRegexHere =
      (({ l.mark with reader := (CharReader.matchChar '/' l.reader).2 }.log
        (.notARegex l.pos)).emit (.notARegex l.pos)).next := by
  have hslash : (CharReader.matchChar '/' l.mark.reader).1 = false :=
    CharReader.matchChar_fst_of_ne h
  simp only [nextRegexHere, hslash, Bool.false_eq_true, if_false]
  rfl

theorem nextRegexHere_suffix (l : Lexer κ) : l.nextRegexHere.2.rest <:+ l.rest := by
  have hslash := CharReader.matchChar_suffix '/' l.reader
  simp only [nextRegexHere]
  split
  · rw [rest_record]
    exact (Lexeme.readRegexBody_suffix "" _).trans hslash
  · refine (next_suffix _).trans ?_
    rw [rest_emit, rest_log]
    exact hslash

@[simp] theorem settings_nextRegexHere (l : Lexer κ) :
    l.nextRegexHere.2.settings = l.settings := by
  simp only [nextRegexHere]
  split
  · rw [settings_record]
    rfl
  · rw [settings_next, settings_emit, settings_log]
    rfl

theorem answer_suffix (call : Call) (l : Lexer κ) : (answer call l).2.rest <:+ l.rest := by
  cases call with
  | next => exact l.next_suffix
  | nextRegex => exact l.settle.nextRegexHere_suffix.trans l.settle_suffix

@[simp] theorem settings_answer (call : Call) (l : Lexer κ) :
    (answer call l).2.settings = l.settings := by
  cases call with
  | next => exact l.settings_next
  | nextRegex => exact l.settle.settings_nextRegexHere.trans l.settings_settle

theorem run_suffix (calls : List Call) (l : Lexer κ) :
    (run answer calls l).2.rest <:+ l.rest :=
  run_preserves (P := fun m : Lexer κ => m.rest <:+ l.rest)
    (fun call m hm => (answer_suffix call m).trans hm) calls List.suffix_rfl

theorem settings_run (calls : List Call) (l : Lexer κ) :
    (run answer calls l).2.settings = l.settings :=
  run_preserves (P := fun m : Lexer κ => m.settings = l.settings)
    (fun call m hm => (settings_answer call m).trans hm) calls rfl

end QueryLexer.Lexer
