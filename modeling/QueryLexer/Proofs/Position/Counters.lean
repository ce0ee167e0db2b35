import Mathlib.Data.List.DropRight
import Mathlib.Data.List.Induction
import QueryLexer.Position

/-!
The counters of a position as counts of characters. Main statement: after a text, each counter is
what an unlimited one would count, or the greatest value where that is greater.
-/

namespace QueryLexer.Position

variable {c : Char}

theorem afterAll_concat (p : Position) (cs : List Char) (c : Char) :
    p.afterAll (cs ++ [c]) = (p.afterAll cs).after c := by
  rw [afterAll_append, afterAll_cons, afterAll_nil]

theorem le_bump (n : UInt32) : n ≤ bump n := by
  have hn := n.toNat_lt
  rw [UInt32.le_iff_toNat_le, toNat_bump]
  omega

theorem line_le_after (p : Position) (c : Char) : p.line ≤ (p.after c).line := by
  by_cases hc : c = '\n'
  · rw [hc, after_newline]
    exact le_bump p.line
  · rw [after_of_ne _ hc]
    exact UInt32.le_refl p.line

theorem column_le_after (p : Position) (hc : c ≠ '\n') : p.column ≤ (p.after c).column := by
  rw [after_of_ne _ hc]
  exact le_bump p.column

theorem toNat_line_after (p : Position) (c : Char) :
    (p.after c).line.toNat = min (p.line.toNat + [c].count '\n') 0xFFFFFFFF := by
  have hline := p.line.toNat_lt
  by_cases hc : c = '\n'
  · rw [hc, after_newline, toNat_bump, List.count_singleton_self]
  · rw [after_of_ne _ hc, List.count_eq_zero.2 (by simpa using Ne.symm hc)]
    change p.line.toNat = _
    omega

theorem toNat_column_after (p : Position) (hc : c ≠ '\n') :
    (p.after c).column.toNat = min (p.column.toNat + 1) 0xFFFFFFFF := by
  rw [after_of_ne _ hc, toNat_bump]

theorem toNat_line_afterAll (p : Position) (cs : List Char) :
    (p.afterAll cs).line.toNat = min (p.line.toNat + cs.count '\n') 0xFFFFFFFF := by
  have hline := p.line.toNat_lt
  induction cs using List.reverseRecOn with
  | nil =>
    rw [afterAll_nil, List.count_nil]
    omega
  | append_singleton cs c ih =>
    rw [afterAll_concat, toNat_line_after, ih, List.count_append]
    omega

theorem toNat_column_afterAll (p : Position) (cs : List Char) :
    (p.afterAll cs).column.toNat =
      min (if '\n' ∈ cs then (cs.rtakeWhile (· ≠ '\n')).length else p.column.toNat + cs.length)
        0xFFFFFFFF := by
  have hcolumn := p.column.toNat_lt
  -- From the end, since it is the last line feed that the column is counted from.
  induction cs using List.reverseRecOn with
  | nil =>
    rw [afterAll_nil, if_neg List.not_mem_nil, List.length_nil]
    omega
  | append_singleton cs c ih =>
    by_cases hc : c = '\n'
    · rw [afterAll_concat, hc, after_newline, if_pos List.mem_concat_self,
        List.rtakeWhile_concat_neg _ _ _ (by decide)]
      rfl
    · have hmem : '\n' ∈ cs ++ [c] ↔ '\n' ∈ cs := by simp [Ne.symm hc]
      have htail : (cs ++ [c]).rtakeWhile (· ≠ '\n') = cs.rtakeWhile (· ≠ '\n') ++ [c] :=
        List.rtakeWhile_concat_pos _ _ _ (decide_eq_true hc)
      rw [afterAll_concat, toNat_column_after _ hc, ih, htail, List.length_append,
        List.length_append, List.length_singleton]
      simp only [hmem]
      split
      · omega
      · omega

theorem afterAll_map_return (p : Position) (cs : List Char) :
    p.afterAll (cs.map fun c => if c = '\n' then c else '\r') = p.afterAll cs := by
  induction cs generalizing p with
  | nil => rfl
  | cons c cs ih =>
    rw [List.map_cons, afterAll_cons, afterAll_cons, ih]
    split
    · rfl
    · next hc => rw [after_of_ne p hc, after_of_ne p (by decide)]

theorem afterAll_take_le (p : Position) (cs : List Char) (n : Nat) :
    (p.afterAll (cs.take n)).line ≤ (p.afterAll (cs.take (n + 1))).line ∧
      (cs[n]? = some '\n' ∨
        (p.afterAll (cs.take n)).column ≤ (p.afterAll (cs.take (n + 1))).column) := by
  rw [List.take_add_one]
  cases cs[n]? with
  | none =>
    rw [Option.toList_none, List.append_nil]
    exact ⟨UInt32.le_refl _, .inr (UInt32.le_refl _)⟩
  | some c =>
    rw [Option.toList_some, afterAll_concat]
    refine ⟨line_le_after _ c, ?_⟩
    by_cases hc : c = '\n'
    · exact .inl (congrArg some hc)
    · exact .inr (column_le_after _ hc)

/-- Lines are counted by line feeds, columns by the characters behind the last one, carriage
returns and characters of any width alike. -/
theorem counters_afterAll (p : Position) (cs : List Char) :
    let q := p.afterAll cs
    q.line.toNat = min (p.line.toNat + cs.count '\n') 0xFFFFFFFF ∧
      q.column.toNat =
        min (if '\n' ∈ cs then (cs.rtakeWhile (· ≠ '\n')).length else p.column.toNat + cs.length)
          0xFFFFFFFF ∧
      (∀ n, (p.afterAll (cs.take n)).line ≤ (p.afterAll (cs.take (n + 1))).line ∧
        (cs[n]? = some '\n' ∨
          (p.afterAll (cs.take n)).column ≤ (p.afterAll (cs.take (n + 1))).column)) ∧
      p.afterAll (cs.map fun c => if c = '\n' then c else '\r') = q := by
  intro q
  exact ⟨p.toNat_line_afterAll cs, p.toNat_column_afterAll cs, p.afterAll_take_le cs,
    p.afterAll_map_return cs⟩

example : afterAll ⟨0xFFFFFFFE, 0xFFFFFFFF⟩ "a\n\r€\n\n\r𝕊".toList = ⟨0xFFFFFFFF, 2⟩ := by decide

end QueryLexer.Position
