import QueryLexer.Newline

namespace QueryLexer.Newline

/-- The lines of a text without what ends them. The last one is ended by the text alone. -/
def lines : List Char → List (List Char)
  | [] => [[]]
  | '\r' :: '\n' :: cs => [] :: lines cs
  | c :: cs => if c = '\r' ∨ c = '\n' then [] :: lines cs else (lines cs).modifyHead (c :: ·)

theorem length_normalize_le (cs : List Char) : (normalize cs).length ≤ cs.length := by
  fun_induction normalize cs with
  | case1 => exact Nat.le_refl _
  | case2 cs ih => exact Nat.le_succ_of_le (Nat.succ_le_succ ih)
  | case3 c cs _ ih => exact Nat.succ_le_succ ih

theorem exists_lines (cs : List Char) : ∃ line others, lines cs = line :: others := by
  fun_induction lines cs with
  | case1 => exact ⟨[], [], rfl⟩
  | case2 cs => exact ⟨[], lines cs, rfl⟩
  | case3 c cs => exact ⟨[], lines cs, rfl⟩
  | case4 c cs _ _ ih =>
    obtain ⟨line, others, h⟩ := ih
    exact ⟨c :: line, others, by rw [h, List.modifyHead_cons]⟩

theorem plain_of_mem_lines {cs line : List Char} (h : line ∈ lines cs) :
    '\r' ∉ line ∧ '\n' ∉ line := by
  fun_induction lines cs generalizing line with
  | case1 => simp_all
  | case2 cs ih =>
    rcases List.mem_cons.1 h with rfl | h
    · simp
    · exact ih h
  | case3 c cs _ _ ih =>
    rcases List.mem_cons.1 h with rfl | h
    · simp
    · exact ih h
  | case4 c cs _ hc ih =>
    obtain ⟨first, others, hlines⟩ := exists_lines cs
    rw [hlines, List.modifyHead_cons] at h
    rw [hlines] at ih
    rw [not_or] at hc
    rcases List.mem_cons.1 h with rfl | h
    · have hfirst := ih List.mem_cons_self
      simp [hfirst, Ne.symm hc.1, Ne.symm hc.2]
    · exact ih (List.mem_cons_of_mem first h)

theorem intercalate_modifyHead {sep : List Char} (c : Char) {ls : List (List Char)}
    (h : ls ≠ []) : sep.intercalate (ls.modifyHead (c :: ·)) = c :: sep.intercalate ls := by
  rcases ls with _ | ⟨line, _ | ⟨next, others⟩⟩
  · exact absurd rfl h
  · simp
  · simp [List.intercalate_cons_cons]

theorem intercalate_cons (line : List Char) {ls : List (List Char)} (h : ls ≠ []) :
    ['\n'].intercalate (line :: ls) = line ++ '\n' :: ['\n'].intercalate ls := by
  cases ls with
  | nil => exact absurd rfl h
  | cons next others =>
    rw [List.intercalate_cons_cons, List.append_assoc]
    rfl

theorem lines_ne_nil (cs : List Char) : lines cs ≠ [] := by
  obtain ⟨line, others, h⟩ := exists_lines cs
  rw [h]
  exact List.cons_ne_nil line others

theorem normalize_eq_intercalate_lines (cs : List Char) :
    normalize cs = ['\n'].intercalate (lines cs) := by
  fun_induction lines cs with
  | case1 => rfl
  | case2 cs ih =>
    rw [normalize_return_newline, ih, intercalate_cons [] (lines_ne_nil cs), List.nil_append]
  | case3 c cs hpair hc ih =>
    rw [normalize.eq_3 _ _ hpair, ih, intercalate_cons [] (lines_ne_nil cs), List.nil_append]
    rcases hc with rfl | rfl
    · rfl
    · rfl
  | case4 c cs hpair hc ih =>
    rw [not_or] at hc
    rw [normalize_cons_of_ne _ hc.1, ih, intercalate_modifyHead c (lines_ne_nil cs)]

example : lines "a\r\nb\r\n\nc\r".toList = [['a'], ['b'], [], ['c'], []] := by decide

theorem normalize_ne_nil {cs : List Char} (h : cs ≠ []) : normalize cs ≠ [] := by
  fun_cases normalize cs with
  | case1 => exact absurd rfl h
  | case2 => exact List.cons_ne_nil _ _
  | case3 => exact List.cons_ne_nil _ _

theorem mem_normalize {c : Char} {cs : List Char} (h : c ∈ normalize cs) : c = '\n' ∨ c ∈ cs := by
  fun_induction normalize cs with
  | case1 => exact .inr h
  | case2 cs ih =>
    rcases List.mem_cons.1 h with rfl | h
    · exact .inl rfl
    · exact (ih h).imp_right fun h => List.mem_cons_of_mem _ (List.mem_cons_of_mem _ h)
  | case3 d cs _ ih =>
    rcases List.mem_cons.1 h with rfl | h
    · split
      · exact .inl rfl
      · exact .inr List.mem_cons_self
    · exact (ih h).imp_right (List.mem_cons_of_mem d)

theorem getLast?_ne_of_cons {c d : Char} {cs : List Char} (h : (c :: cs).getLast? ≠ some d) :
    cs.getLast? ≠ some d := by
  cases cs with
  | nil => simp
  | cons c' cs => rwa [List.getLast?_cons_cons] at h

theorem normalize_append_of_ne {cs ds : List Char}
    (h : cs.getLast? ≠ some '\r' ∨ ds.head? ≠ some '\n') :
    normalize (cs ++ ds) = normalize cs ++ normalize ds := by
  fun_induction normalize cs with
  | case1 => rfl
  | case2 cs ih =>
    rw [List.cons_append, List.cons_append, normalize_return_newline,
      ih (h.imp_left fun h => getLast?_ne_of_cons (getLast?_ne_of_cons h)), List.cons_append]
  | case3 c cs hpair ih =>
    -- A carriage return and a line feed that meet would be one line terminator.
    have hmeet : ∀ es, c = '\r' → cs ++ ds = '\n' :: es → False := by
      rintro es rfl hes
      cases cs with
      | nil => simp_all
      | cons d cs => exact hpair cs rfl (by rw [(List.cons.inj hes).1])
    rw [List.cons_append, normalize.eq_3 _ _ hmeet, ih (h.imp_left getLast?_ne_of_cons),
      List.cons_append]

theorem head?_of_normalize {cs ds : List Char} (h : normalize cs = '\n' :: ds) :
    cs.head? = some '\r' ∨ cs.head? = some '\n' := by
  rw [normalize.eq_def] at h
  split at h
  · cases h
  · exact .inl rfl
  · next c cs hpair =>
    by_cases hc : c = '\r'
    · exact .inl (congrArg some hc)
    · rw [if_neg hc] at h
      exact .inr (congrArg some (List.cons.inj h).1)

theorem infix_of_head? {c d : Char} {cs : List Char} (h : cs.head? = some d) :
    [c, d] <:+: c :: cs := by
  obtain ⟨ds, rfl⟩ := List.head?_eq_some_iff.1 h
  exact (List.prefix_append [c, d] ds).isInfix

theorem infix_of_normalize {cs : List Char} (h : ['\\', '\n'] <:+: normalize cs) :
    ['\\', '\r'] <:+: cs ∨ ['\\', '\n'] <:+: cs := by
  fun_induction normalize cs with
  | case1 => simp at h
  | case2 cs ih =>
    rw [List.infix_cons_iff] at h
    rcases h with h | h
    · simp at h
    · exact (ih h).imp (fun h => List.infix_cons (List.infix_cons h))
        (fun h => List.infix_cons (List.infix_cons h))
  | case3 c cs hpair ih =>
    rw [List.infix_cons_iff] at h
    rcases h with ⟨ds, h⟩ | h
    · obtain ⟨hc, hcs⟩ := List.cons.inj h
      have hc' : c = '\\' := by
        by_cases hr : c = '\r'
        · rw [if_pos hr] at hc
          cases hc
        · rw [if_neg hr] at hc
          exact hc.symm
      subst hc'
      exact (head?_of_normalize hcs.symm).imp infix_of_head? infix_of_head?
    · exact (ih h).imp List.infix_cons List.infix_cons

end QueryLexer.Newline
