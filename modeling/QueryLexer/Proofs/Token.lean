import QueryLexer.Token
import QueryLexer.Proofs.Keyword

namespace QueryLexer

def SameWord (s t : String) : Prop := s.map Char.toUpper = t.map Char.toUpper

theorem sameWord_iff {s t : String} :
    SameWord s t ↔ s.toList.map Char.toUpper = t.toList.map Char.toUpper := by
  rw [SameWord, ← String.toList_inj, String.toList_map, String.toList_map]

instance (s t : String) : Decidable (SameWord s t) := decidable_of_iff _ sameWord_iff.symm

theorem toNat_lt_of_isAlpha {c : Char} (h : c.isAlpha = true) : c.toNat < 128 := by
  have hz : 'z'.val.toNat = 122 := rfl
  have hZ : 'Z'.val.toNat = 90 := rfl
  change c.val.toNat < 128
  delta Char.isAlpha Char.isUpper Char.isLower at h
  simp only [Bool.or_eq_true, Bool.and_eq_true, decide_eq_true_eq, UInt32.le_iff_toNat_le] at h
  omega

namespace Keyword

variable {text : String} {k : Keyword}

theorem map_toUpper_spelling (k : Keyword) : k.spelling.map Char.toUpper = k.spelling := by
  rw [← String.toList_inj, String.toList_map]
  cases k <;> rfl

theorem sameWord_spelling_iff : SameWord text k.spelling ↔ ofIdent? text = some k := by
  rw [ofIdent?_eq_some_iff, SameWord, map_toUpper_spelling]

theorem ofIdent?_eq_ofCapitals? (text : String) :
    ofIdent? text = ofCapitals? (text.map Char.toUpper) := by
  cases h : ofCapitals? (text.map Char.toUpper) with
  | some k => exact ofIdent?_eq_some_iff.2 (eq_spelling_of_ofCapitals? h)
  | none =>
    rw [ofIdent?_eq_none_iff]
    intro k hk
    rw [hk, ofCapitals?_spelling] at h
    cases h

theorem utf8ByteSize_le_of_ofIdent? (h : ofIdent? text = some k) : text.utf8ByteSize ≤ 6 := by
  rw [← utf8ByteSize_map_toUpper, ofIdent?_eq_some_iff.1 h]
  exact k.utf8ByteSize_spelling_le

theorem toNat_lt_of_ofIdent? (h : ofIdent? text = some k) {c : Char} (hc : c ∈ text.toList) :
    c.toNat < 128 := by
  rw [ofIdent?_eq_some_iff, ← String.ofList_toList (s := text)] at h
  exact toNat_lt_of_isAlpha (isAlpha_of_spelled h c hc)

end Keyword

namespace Token

def keywords : List Token := Keyword.all.map keyword

variable {text : String} {t : Token}

theorem mem_keywords_iff : t ∈ keywords ↔ ∃ k, t = keyword k := by
  rw [keywords, List.mem_map]
  constructor
  · rintro ⟨k, -, rfl⟩
    exact ⟨k, rfl⟩
  · rintro ⟨k, rfl⟩
    exact ⟨k, k.mem_all, rfl⟩

theorem map_ofIdent?_eq_some_iff :
    (Keyword.ofIdent? text).map keyword = some t ↔ t ∈ keywords ∧ SameWord text t.render := by
  rw [Option.map_eq_some_iff, mem_keywords_iff]
  constructor
  · rintro ⟨k, hk, rfl⟩
    exact ⟨⟨k, rfl⟩, Keyword.sameWord_spelling_iff.2 hk⟩
  · rintro ⟨⟨k, rfl⟩, hk⟩
    exact ⟨k, Keyword.sameWord_spelling_iff.1 hk, rfl⟩

theorem ofIdent_of_sameWord (ht : t ∈ keywords) (h : SameWord text t.render) :
    ofIdent text = t := by
  obtain ⟨k, rfl⟩ := mem_keywords_iff.1 ht
  rw [ofIdent, Keyword.sameWord_spelling_iff.1 h]

theorem ofIdent_of_not_sameWord (h : ∀ t ∈ keywords, ¬ SameWord text t.render) :
    ofIdent text = .ident := by
  cases hk : Keyword.ofIdent? text with
  | some k => exact absurd (Keyword.sameWord_spelling_iff.2 hk) (h _ (mem_keywords_iff.2 ⟨k, rfl⟩))
  | none => rw [ofIdent, hk]

theorem ofIdent_eq_cases :
    ofIdent text = t ↔ (t ∈ keywords ∧ SameWord text t.render) ∨
      (t = .ident ∧ ∀ k ∈ keywords, ¬ SameWord text k.render) := by
  constructor
  · rintro rfl
    by_cases h : ∃ k ∈ keywords, SameWord text k.render
    · obtain ⟨k, hk, hword⟩ := h
      rw [ofIdent_of_sameWord hk hword]
      exact .inl ⟨hk, hword⟩
    · have hnone : ∀ k ∈ keywords, ¬ SameWord text k.render := fun k hk hword => h ⟨k, hk, hword⟩
      exact .inr ⟨ofIdent_of_not_sameWord hnone, hnone⟩
  · rintro (⟨ht, h⟩ | ⟨rfl, h⟩)
    · exact ofIdent_of_sameWord ht h
    · exact ofIdent_of_not_sameWord h

/-- Keywords are told from identifiers by their letters alone, in either case. -/
theorem ofIdent_eq_iff (text : String) (t : Token) :
    ((Keyword.ofIdent? text).map keyword = some t ↔ t ∈ keywords ∧ SameWord text t.render) ∧
    (∀ t' ∈ keywords, t ∈ keywords → SameWord text t.render → SameWord text t'.render → t = t') ∧
    (ofIdent text = t ↔ (t ∈ keywords ∧ SameWord text t.render) ∨
      (t = .ident ∧ ∀ k ∈ keywords, ¬ SameWord text k.render)) ∧
    Keyword.ofIdent? text = Keyword.ofCapitals? (text.map Char.toUpper) ∧
    (t ∈ keywords → SameWord text t.render → text.utf8ByteSize ≤ 6) ∧
    ((∃ c ∈ text.toList, 128 ≤ c.toNat) → Keyword.ofIdent? text = none) := by
  refine ⟨map_ofIdent?_eq_some_iff, ?_, ofIdent_eq_cases, Keyword.ofIdent?_eq_ofCapitals? text,
    ?_, ?_⟩
  · intro t' ht' ht h h'
    rw [← ofIdent_of_sameWord ht h, ofIdent_of_sameWord ht' h']
  · intro ht h
    obtain ⟨k, rfl⟩ := mem_keywords_iff.1 ht
    exact Keyword.utf8ByteSize_le_of_ofIdent? (Keyword.sameWord_spelling_iff.1 h)
  · rintro ⟨c, hc, hlarge⟩
    rw [Option.eq_none_iff_forall_ne_some]
    intro k hk
    exact absurd (Keyword.toNat_lt_of_ofIdent? hk hc) (Nat.not_lt.2 hlarge)

theorem ofIdent_eq_iff_longS :
    (.keyword .having ∈ keywords ∧ SameWord "hAviNg" (keyword .having).render ∧
      (Keyword.ofIdent? "hAviNg").map keyword = some (.keyword .having) ∧
      "hAviNg".utf8ByteSize ≤ 6) ∧
    (∃ c ∈ "aſ".toList, 128 ≤ c.toNat) ∧ Keyword.ofIdent? "aſ" = none := by
  have hmem : keyword .having ∈ keywords := by decide +kernel
  have hword : SameWord "hAviNg" (keyword .having).render := by decide +kernel
  have hlarge : ∃ c ∈ "aſ".toList, 128 ≤ c.toNat := ⟨'ſ', by decide +kernel, by decide⟩
  have hhaving := ofIdent_eq_iff "hAviNg" (.keyword .having)
  exact ⟨⟨hmem, hword, hhaving.1.2 ⟨hmem, hword⟩, hhaving.2.2.2.2.1 hmem hword⟩,
    hlarge, (ofIdent_eq_iff "aſ" .ident).2.2.2.2.2 hlarge⟩

end Token

end QueryLexer
