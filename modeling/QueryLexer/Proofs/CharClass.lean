import QueryLexer.CharClass

namespace QueryLexer

theorem isWhitespace_iff {c : Char} : isWhitespace c = true ↔ c = ' ' ∨ c = '\t' ∨ c = '\n' := by
  simp [isWhitespace, or_assoc]

theorem isQuote_iff {c : Char} : isQuote c = true ↔ c = '"' ∨ c = '\'' := by
  simp [isQuote]

theorem isIdentStart_iff {c : Char} :
    isIdentStart c = true ↔ isLetter c = true ∨ c = '_' ∨ c = '@' := by
  simp [isIdentStart, or_assoc]

theorem isIdentContinue_iff {c : Char} :
    isIdentContinue c = true ↔ isLetter c = true ∨ c.isDigit = true ∨ c = '_' := by
  simp [isIdentContinue, or_assoc]

theorem isLetter_of_isDigit {c : Char} (h : c.isDigit = true) : isLetter c = false := by
  have h48 : '0'.val.toNat = 48 := rfl
  have h57 : '9'.val.toNat = 57 := rfl
  have h65 : 'A'.val.toNat = 65 := rfl
  have h97 : 'a'.val.toNat = 97 := rfl
  simp only [Char.isDigit, Bool.and_eq_true, decide_eq_true_eq, UInt32.le_iff_toNat_le] at h
  have hlt : c.toNat < 0x80 := by
    change c.val.toNat < 0x80
    omega
  rw [isLetter, if_pos hlt]
  delta Char.isAlpha Char.isUpper Char.isLower
  simp only [Bool.or_eq_false_iff, Bool.and_eq_false_iff, decide_eq_false_iff_not,
    UInt32.le_iff_toNat_le]
  omega

inductive FirstClass
  | whitespace
  | quote
  | digit
  | identStart
  | other
  deriving DecidableEq

namespace FirstClass

variable {c : Char}

def of (c : Char) : FirstClass :=
  if isWhitespace c then whitespace
  else if isQuote c then quote
  else if c.isDigit then digit
  else if isIdentStart c then identStart
  else other

theorem of_isWhitespace (h : isWhitespace c = true) : of c = whitespace := if_pos h

theorem of_isQuote (h : isQuote c = true) : of c = quote := by
  cases isQuote_iff.1 h with
  | inl h => rw [h]; rfl
  | inr h => rw [h]; rfl

theorem of_isDigit (h : c.isDigit = true) : of c = digit := by
  have hw : ¬ isWhitespace c = true := by
    intro hw
    rcases isWhitespace_iff.1 hw with rfl | rfl | rfl <;> exact absurd h (by decide)
  have hq : ¬ isQuote c = true := by
    intro hq
    rcases isQuote_iff.1 hq with rfl | rfl <;> exact absurd h (by decide)
  rw [of, if_neg hw, if_neg hq, if_pos h]

theorem of_isIdentStart (h : isIdentStart c = true) : of c = identStart := by
  have hw : ¬ isWhitespace c = true := by
    intro hw
    rcases isWhitespace_iff.1 hw with rfl | rfl | rfl <;> exact absurd h (by decide)
  have hq : ¬ isQuote c = true := by
    intro hq
    rcases isQuote_iff.1 hq with rfl | rfl <;> exact absurd h (by decide)
  have hd : ¬ c.isDigit = true := by
    intro hd
    rcases isIdentStart_iff.1 h with hl | rfl | rfl
    · rw [isLetter_of_isDigit hd] at hl
      exact absurd hl (by decide)
    · exact absurd hd (by decide)
    · exact absurd hd (by decide)
  rw [of, if_neg hw, if_neg hq, if_neg hd, if_pos h]

theorem cases_of (c : Char) :
    isWhitespace c = true ∨ isQuote c = true ∨ c.isDigit = true ∨ isIdentStart c = true ∨
      of c = other := by
  rw [of]
  split
  · next hw => exact .inl hw
  split
  · next hq => exact .inr (.inl hq)
  split
  · next hd => exact .inr (.inr (.inl hd))
  split
  · next hi => exact .inr (.inr (.inr (.inl hi)))
  · exact .inr (.inr (.inr (.inr rfl)))

end FirstClass

end QueryLexer
