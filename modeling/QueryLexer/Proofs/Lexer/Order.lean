import Mathlib.Data.List.Chain
import QueryLexer.Proofs.Lexer.Progress
import QueryLexer.Proofs.Newline
import QueryLexer.Proofs.Position

namespace QueryLexer.Lexer

variable {κ : Type} [CharReader κ] {l l' l'' : Lexer κ} {x y : Lexeme}

/-- The counters have room for all that is left to read. -/
def Roomy (l : Lexer κ) : Prop := l.pos.extent + l.rest.length ≤ 0xFFFFFFFF

namespace Gives

theorem roomy (h : Gives l x l') (room : l.Roomy) : l'.Roomy := by
  obtain ⟨slice, htakes⟩ := h.exists_takes
  have hextent := l.pos.extent_afterAll_le slice
  rw [Roomy, show l.rest = slice ++ l'.rest from htakes.rest_eq, List.length_append] at room
  rw [Roomy, show l'.pos = l.pos.afterAll slice from htakes.pos_eq]
  omega

theorem exists_pos_eq (h : Gives l x l') :
    ∃ before behind, l.rest = before ++ behind ∧ x.pos = l.pos.afterAll before := by
  cases h with
  | @eof gap _ skipped takes atEnd => exact ⟨gap, l'.rest, takes.rest_eq, takes.pos_eq⟩
  | @lexeme gap before behind _ _ skipped takes pos_eq nonempty token =>
    refine ⟨gap ++ before, behind ++ l'.rest, ?_, pos_eq⟩
    rw [show l.rest = gap ++ (before ++ behind) ++ l'.rest from takes.rest_eq]
    simp

theorem exists_behind (h : Gives l x l') (hx : x.token ≠ .eof) :
    ∃ before behind, behind ≠ [] ∧ l.rest = before ++ behind ++ l'.rest ∧
      x.pos = l.pos.afterAll before ∧ l'.pos = x.pos.afterAll behind := by
  cases h with
  | eof => exact absurd rfl hx
  | @lexeme gap before behind _ _ skipped takes pos_eq nonempty token =>
    refine ⟨gap ++ before, behind, nonempty, ?_, pos_eq, ?_⟩
    · rw [List.append_assoc gap]
      exact takes.rest_eq
    · rw [pos_eq, ← Position.afterAll_append, List.append_assoc]
      exact takes.pos_eq

theorem pos_lt (h : Gives l x l') (h' : Gives l' y l'') (hx : x.token ≠ .eof) (room : l.Roomy) :
    x.pos < y.pos := by
  -- Between the two positions stands at least the rest of the first slice.
  obtain ⟨before, behind, hne, hrest, hpos, hpos'⟩ := h.exists_behind hx
  obtain ⟨before', behind', hrest', hy⟩ := h'.exists_pos_eq
  have hextent := l.pos.extent_afterAll_le before
  rw [Roomy, hrest, hrest', List.length_append, List.length_append, List.length_append] at room
  rw [hy, hpos', ← Position.afterAll_append]
  apply Position.lt_afterAll
  · exact List.append_ne_nil_of_left_ne_nil hne before'
  · rw [hpos, List.length_append]
    omega

end Gives

theorem isChain_run (calls : List Call) (room : l.Roomy) :
    (run answer calls l).1.IsChain fun a b => a.1.token ≠ .eof → a.1.pos < b.1.pos := by
  induction calls generalizing l with
  | nil => exact .nil
  | cons call calls ih =>
    have hfirst := gives_answer call l
    have hothers := ih (hfirst.roomy room)
    cases calls with
    | nil => exact .singleton _
    | cons call' calls =>
      exact .cons_cons (fun hx => hfirst.pos_lt (gives_answer call' _) hx room) hothers

/-- Each call answers with a greater position than the call before, unless that gave the end. -/
theorem isChain_positions {σ : Type} [Source σ] (source : σ) (settings : Settings)
    (calls : List Call) (few : (Source.toList source).length ≤ 0xFFFFFFFF) :
    (run answer calls (ofReader (Cursor.ofSource source) settings)).1.IsChain
      fun a b => a.1.token ≠ .eof → a.1.pos < b.1.pos := by
  apply isChain_run
  have hlength := Newline.length_normalize_le (Source.toList source)
  rw [Roomy, rest_ofReader]
  change 0 + (Newline.normalize (Source.toList source)).length ≤ 0xFFFFFFFF
  omega

theorem isChain_positions_badEscape :
    let text := "x 'a\\\r\n/b\\/\n=#"
    let calls := [.next, .nextRegex, .next, .nextRegex, .next, .next, .next, .next, .next]
    let answers := (run answer calls (Lexer.ofString text ⟨false, true⟩)).1
    text.toList.length ≤ 0xFFFFFFFF ∧
      answers.map (fun a => (a.1.token, a.1.pos)) =
        [(.ident, ⟨0, 0⟩), (.whitespace, ⟨0, 1⟩), (.badEscape, ⟨0, 4⟩), (.regex, ⟨1, 0⟩),
          (.whitespace, ⟨1, 4⟩), (.symbol .eq, ⟨2, 0⟩), (.illegal, ⟨2, 1⟩), (.eof, ⟨2, 2⟩),
          (.eof, ⟨2, 2⟩)] ∧
      answers.IsChain fun a b => a.1.token ≠ .eof → a.1.pos < b.1.pos := by
  intro text calls answers
  have few : text.toList.length ≤ 0xFFFFFFFF := by decide
  exact ⟨few, by decide +kernel, isChain_positions text.toList ⟨false, true⟩ calls few⟩

end QueryLexer.Lexer
