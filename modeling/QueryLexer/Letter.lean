import QueryLexer.Letter.Table

namespace QueryLexer

def inRanges (n : Nat) : List (Nat × Nat) → Bool
  | [] => false
  | (lo, hi) :: ranges => if n < lo then false else n ≤ hi || inRanges n ranges

def isLetter (c : Char) : Bool :=
  if c.toNat < 0x80 then c.isAlpha else inRanges c.toNat Letter.ranges

theorem isLetter_of_isAlpha {c : Char} (h : c.isAlpha = true) : isLetter c = true := by
  have hc : c.val ≤ 90 ∨ c.val ≤ 122 := by
    rcases Bool.or_eq_true_iff.1 h with h | h
    · exact .inl (of_decide_eq_true h).2
    · exact .inr (of_decide_eq_true (Bool.and_eq_true_iff.1 h).2)
  have hlt : c.toNat < 0x80 := by
    rcases hc with hc | hc
    · exact Nat.lt_of_le_of_lt (UInt32.le_iff_toNat_le.1 hc) (by decide)
    · exact Nat.lt_of_le_of_lt (UInt32.le_iff_toNat_le.1 hc) (by decide)
  rw [isLetter, if_pos hlt, h]

end QueryLexer
