import QueryLexer.Position

namespace QueryLexer.Position

variable {p q r : Position} {cs : List Char}

theorem lt_iff : p < q ↔ p.line < q.line ∨ p.line = q.line ∧ p.column < q.column := by
  change (compare p.line q.line).then (compare p.column q.column) = .lt ↔ _
  rw [Ordering.then_eq_lt, Std.compare_eq_lt, Std.compare_eq_lt, Std.compare_eq_iff_eq]

theorem lt_trans (h : p < q) (h' : q < r) : p < r := by
  rw [lt_iff] at h h' ⊢
  rcases h with h | ⟨h, hc⟩
  · rcases h' with h' | ⟨h', -⟩
    · exact .inl (UInt32.lt_trans h h')
    · exact .inl (h' ▸ h)
  · rcases h' with h' | ⟨h', hc'⟩
    · exact .inl (h ▸ h')
    · exact .inr ⟨h.trans h', UInt32.lt_trans hc hc'⟩

def extent (p : Position) : Nat := p.line.toNat + p.column.toNat

theorem extent_after_le (p : Position) (c : Char) : (p.after c).extent ≤ p.extent + 1 := by
  by_cases hc : c = '\n'
  · rw [hc, after_newline, extent, extent, toNat_bump]
    change min (p.line.toNat + 1) 0xFFFFFFFF + 0 ≤ _
    omega
  · rw [after_of_ne _ hc, extent, extent, toNat_bump]
    change p.line.toNat + min (p.column.toNat + 1) 0xFFFFFFFF ≤ _
    omega

theorem extent_afterAll_le (p : Position) (cs : List Char) :
    (p.afterAll cs).extent ≤ p.extent + cs.length := by
  induction cs generalizing p with
  | nil => exact Nat.le_refl _
  | cons c cs ih =>
    have hc := p.extent_after_le c
    have hcs := ih (p.after c)
    rw [afterAll_cons, List.length_cons]
    omega

theorem lt_bump {n : UInt32} (h : n.toNat < 0xFFFFFFFF) : n < bump n := by
  rw [UInt32.lt_iff_toNat_lt, toNat_bump]
  omega

theorem lt_after (c : Char) (h : p.extent < 0xFFFFFFFF) : p < p.after c := by
  rw [extent] at h
  rw [lt_iff]
  by_cases hc : c = '\n'
  · rw [hc, after_newline]
    exact .inl (lt_bump (by omega))
  · rw [after_of_ne _ hc]
    exact .inr ⟨rfl, lt_bump (by omega)⟩

theorem lt_afterAll (ne : cs ≠ []) (h : p.extent + cs.length ≤ 0xFFFFFFFF) :
    p < p.afterAll cs := by
  induction cs generalizing p with
  | nil => exact absurd rfl ne
  | cons c cs ih =>
    rw [List.length_cons] at h
    have hc : p < p.after c := lt_after c (by omega)
    cases cs with
    | nil => exact hc
    | cons d ds =>
      have hafter := p.extent_after_le c
      exact lt_trans hc (ih (List.cons_ne_nil d ds) (by omega))

example : ¬ (⟨0, 0xFFFFFFFF⟩ : Position) < afterAll ⟨0, 0xFFFFFFFF⟩ ['a'] := by decide

end QueryLexer.Position
