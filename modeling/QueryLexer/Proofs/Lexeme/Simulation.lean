import QueryLexer.Lexeme.Read
import QueryLexer.Proofs.CharReader.Simulation
import QueryLexer.Proofs.Lexeme.Regex
import QueryLexer.Proofs.Quoted.Body

namespace QueryLexer

namespace CharReader.Simulation

variable {κ κ' : Type} [CharReader κ] [CharReader κ'] {R : κ → κ' → Prop} (sim : Simulation R)
  {k : κ} {k' : κ'}

include sim

theorem readBody (quote : Char) (content : String) {k : κ} {k' : κ'} (h : R k k') :
    SameStep R (Quoted.readBody quote content k) (Quoted.readBody quote content k') := by
  have hread := sim.read h
  have hpos := sim.pos_eq h
  rw [Quoted.readBody_eq, Quoted.readBody_eq, hpos]
  generalize hk : CharReader.read k = r, CharReader.read k' = r' at hread ⊢
  cases hread with
  | atEnd behind => exact ⟨rfl, behind⟩
  | @char m m' c behind back =>
    dsimp only
    split
    · exact ⟨rfl, behind⟩
    split
    · exact ⟨rfl, back⟩
    split
    · have hread₁ := sim.read behind
      generalize hm : CharReader.read m = r, CharReader.read m' = r' at hread₁ ⊢
      cases hread₁ with
      | atEnd behind₁ => exact ⟨rfl, behind₁⟩
      | char e behind₁ back₁ =>
        dsimp only
        split
        · exact readBody quote _ behind₁
        · exact ⟨rfl, behind₁⟩
    · exact readBody quote _ behind
termination_by (rest k).length
decreasing_by
  · exact length_rest_lt hk
  · exact Nat.lt_trans (length_rest_lt hm) (length_rest_lt hk)

theorem readRegexBody (body : String) {k : κ} {k' : κ'} (h : R k k') :
    SameStep R (Lexeme.readRegexBody body k) (Lexeme.readRegexBody body k') := by
  have hread := sim.read h
  rw [Lexeme.readRegexBody_eq, Lexeme.readRegexBody_eq]
  generalize hk : CharReader.read k = r, CharReader.read k' = r' at hread ⊢
  cases hread with
  | atEnd behind => exact ⟨rfl, behind⟩
  | @char m m' c behind back =>
    dsimp only
    split
    · exact ⟨rfl, behind⟩
    split
    · exact ⟨rfl, back⟩
    split
    · have hslash := sim.matchChar '/' behind
      rw [hslash.eq]
      exact readRegexBody _ hslash.related
    · exact readRegexBody _ behind
termination_by (rest k).length
decreasing_by
  · exact length_rest_lt hk
  · exact Nat.lt_of_le_of_lt (matchChar_suffix '/' m).length_le (length_rest_lt hk)

theorem readNumber (start : Position) (h : R k k') :
    SameStep R (Lexeme.readNumber start k) (Lexeme.readNumber start k') := by
  have hdigits := sim.readWhile Char.isDigit "" h
  have hdot := sim.matchChar '.' hdigits.related
  simp only [Lexeme.readNumber, hdigits.eq, hdot.eq]
  split
  · exact (sim.readWhile _ _ hdot.related).map (Lexeme.mk .float start) fun _ _ => id
  · exact ⟨rfl, hdot.related⟩

theorem readWord (start : Position) (h : R k k') :
    SameStep R (Lexeme.readWord start k) (Lexeme.readWord start k') := by
  have hfirst := sim.sameStep_read h
  simp only [Lexeme.readWord, hfirst.eq]
  exact (sim.readWhile _ _ hfirst.related).map (Lexeme.ofWord start) fun _ _ => id

theorem matchSecond (seconds : List (Char × Symbol)) (h : R k k') :
    SameStep R (Lexeme.matchSecond seconds k) (Lexeme.matchSecond seconds k') := by
  induction seconds generalizing k k' with
  | nil => exact ⟨rfl, h⟩
  | cons second others ih =>
    have hsecond := sim.matchChar second.1 h
    simp only [Lexeme.matchSecond, hsecond.eq]
    split
    · exact ⟨rfl, hsecond.related⟩
    · exact ih hsecond.related

theorem readSymbol (first : Char) (start : Position) (h : R k k') :
    SameStep R (Lexeme.readSymbol first start k) (Lexeme.readSymbol first start k') := by
  have hsecond := sim.matchSecond (Symbol.longer first) h
  simp only [Lexeme.readSymbol, hsecond.eq]
  split
  · exact ⟨rfl, hsecond.related⟩
  · exact ⟨rfl, hsecond.related⟩

theorem readFrom (first : Char) (start : Position) (h : R k k') (back : R (unread k) (unread k')) :
    SameStep R (Lexeme.readFrom first start k) (Lexeme.readFrom first start k') := by
  -- The first character has just been read, so that it can be given back to readers of runs.
  rw [Lexeme.readFrom, Lexeme.readFrom]
  split
  · exact (sim.readWhile _ _ back).map (Lexeme.mk .whitespace start) fun _ _ => id
  split
  · exact (sim.readBody _ _ h).map (Lexeme.ofEnding start) fun _ _ => id
  split
  · exact sim.readNumber start back
  split
  · exact sim.readWord start back
  · exact sim.readSymbol first start h

theorem readLexeme (start : Position) (h : R k k') :
    SameStep R (Lexeme.read start k) (Lexeme.read start k') := by
  have hread := sim.read h
  rw [Lexeme.read, Lexeme.read]
  generalize CharReader.read k = r, CharReader.read k' = r' at hread ⊢
  cases hread with
  | atEnd behind => exact ⟨rfl, behind⟩
  | char c behind back => exact sim.readFrom c start behind back

end CharReader.Simulation

end QueryLexer
