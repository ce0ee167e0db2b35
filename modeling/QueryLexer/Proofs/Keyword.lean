import QueryLexer.Keyword

namespace QueryLexer

theorem utf8Size_toUpper (c : Char) : c.toUpper.utf8Size = c.utf8Size := by
  have h97 : 'a'.val.toNat = 97 := rfl
  have h122 : 'z'.val.toNat = 122 := rfl
  have h127 : (127 : UInt32).toNat = 127 := rfl
  have hsub : ('A'.val - 'a'.val).toNat = 2 ^ 32 - 32 := rfl
  delta Char.toUpper
  split
  · next h =>
    simp only [UInt32.le_iff_toNat_le] at h
    have hlower : c.utf8Size = 1 := by
      rw [Char.utf8Size_eq_one_iff, UInt32.le_iff_toNat_le]
      omega
    rw [hlower, Char.utf8Size_eq_one_iff, UInt32.le_iff_toNat_le, UInt32.toNat_add]
    omega
  · rfl

theorem map_ofList (f : Char → Char) (cs : List Char) :
    (String.ofList cs).map f = String.ofList (cs.map f) := by
  rw [← String.toList_inj]
  simp

theorem utf8ByteSize_map_toUpper (text : String) :
    (text.map Char.toUpper).utf8ByteSize = text.utf8ByteSize := by
  rw [← String.ofList_toList (s := text), map_ofList]
  generalize text.toList = cs
  induction cs with
  | nil => rfl
  | cons c cs ih =>
    rw [List.map_cons, String.ofList_cons, String.ofList_cons, String.utf8ByteSize_append,
      String.utf8ByteSize_append, String.utf8ByteSize_singleton, String.utf8ByteSize_singleton,
      utf8Size_toUpper, ih]

theorem isAlpha_of_toUpper {c : Char} (h : c.toUpper.isAlpha = true) : c.isAlpha = true := by
  delta Char.toUpper at h
  split at h
  · next hlower =>
    have hlow : c.isLower = true :=
      Bool.and_eq_true_iff.2 ⟨decide_eq_true hlower.1, decide_eq_true hlower.2⟩
    exact Bool.or_eq_true_iff.2 (.inr hlow)
  · exact h

theorem isAlpha_of_mem_spelling {k : Keyword} {c : Char} (h : c ∈ k.spelling.toList) :
    c.isAlpha = true := by
  have hall : k.spelling.toList.all Char.isAlpha = true := by cases k <;> rfl
  exact List.all_eq_true.1 hall c h

theorem map_toUpper_of_spelled {k : Keyword} {cs : List Char}
    (h : (String.ofList cs).map Char.toUpper = k.spelling) :
    cs.map Char.toUpper = k.spelling.toList := by
  rw [← h, map_ofList, String.toList_ofList]

theorem isAlpha_of_spelled {k : Keyword} {cs : List Char}
    (h : (String.ofList cs).map Char.toUpper = k.spelling) : ∀ c ∈ cs, c.isAlpha = true := by
  intro c hc
  apply isAlpha_of_toUpper
  apply isAlpha_of_mem_spelling (k := k)
  rw [← map_toUpper_of_spelled h]
  exact List.mem_map_of_mem hc

namespace Keyword

theorem eq_spelling_of_ofCapitals? {text : String} {k : Keyword} (h : ofCapitals? text = some k) :
    text = k.spelling := by
  rw [ofCapitals?.eq_def] at h
  split at h <;> cases h <;> rfl

theorem utf8ByteSize_spelling_le (k : Keyword) : k.spelling.utf8ByteSize ≤ 6 := by
  cases k <;> decide

theorem ofIdent?_eq_some_iff {text : String} {k : Keyword} :
    ofIdent? text = some k ↔ text.map Char.toUpper = k.spelling := by
  rw [ofIdent?]
  constructor
  · intro h
    split at h
    · contradiction
    · exact eq_spelling_of_ofCapitals? h
  · intro h
    have hle := k.utf8ByteSize_spelling_le
    rw [← h, utf8ByteSize_map_toUpper] at hle
    rw [if_neg (Nat.not_lt.2 hle), h, ofCapitals?_spelling]

theorem ofIdent?_eq_none_iff {text : String} :
    ofIdent? text = none ↔ ∀ k : Keyword, text.map Char.toUpper ≠ k.spelling := by
  rw [Option.eq_none_iff_forall_ne_some]
  simp only [ne_eq, ofIdent?_eq_some_iff]

end Keyword

end QueryLexer
