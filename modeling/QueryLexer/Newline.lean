/-!
Line terminators. A carriage return with a line feed, a carriage return alone and a line feed
alone each count as one line feed. Main statement: normal text holds no carriage return.
-/

namespace QueryLexer.Newline

def normalize : List Char → List Char
  | [] => []
  | '\r' :: '\n' :: cs => '\n' :: normalize cs
  | c :: cs => (if c = '\r' then '\n' else c) :: normalize cs

@[simp] theorem normalize_nil : normalize [] = [] := rfl

@[simp] theorem normalize_return_newline (cs : List Char) :
    normalize ('\r' :: '\n' :: cs) = '\n' :: normalize cs := rfl

theorem normalize_cons_of_ne {c : Char} (cs : List Char) (h : c ≠ '\r') :
    normalize (c :: cs) = c :: normalize cs := by
  rw [normalize.eq_def]
  split
  · contradiction
  · simp_all
  · simp_all

@[simp] theorem normalize_return_nil : normalize ['\r'] = ['\n'] := rfl

theorem normalize_return_cons {d : Char} (cs : List Char) (h : d ≠ '\n') :
    normalize ('\r' :: d :: cs) = '\n' :: normalize (d :: cs) := by
  rw [normalize.eq_def]
  split
  · contradiction
  · simp_all
  · rename_i heq
    obtain ⟨rfl, rfl⟩ := List.cons.inj heq
    simp

theorem return_notMem_normalize (cs : List Char) : '\r' ∉ normalize cs := by
  fun_induction normalize cs with
  | case1 => simp
  | case2 cs ih => simp [ih]
  | case3 c cs _ ih => split <;> simp_all [eq_comm]

theorem normalize_append {cs : List Char} (h : '\r' ∉ cs) (ds : List Char) :
    normalize (cs ++ ds) = cs ++ normalize ds := by
  induction cs with
  | nil => rfl
  | cons c cs ih =>
    rw [List.mem_cons, not_or] at h
    rw [List.cons_append, normalize_cons_of_ne _ (Ne.symm h.1), ih h.2, List.cons_append]

theorem normalize_of_notMem {cs : List Char} (h : '\r' ∉ cs) : normalize cs = cs := by
  simpa using normalize_append h []

theorem exists_normalize_return (cs : List Char) : ∃ ds, normalize ('\r' :: cs) = '\n' :: ds := by
  cases cs with
  | nil => exact ⟨[], rfl⟩
  | cons c cs =>
    by_cases hc : c = '\n'
    · exact ⟨normalize cs, by rw [hc, normalize_return_newline]⟩
    · exact ⟨normalize (c :: cs), normalize_return_cons cs hc⟩

end QueryLexer.Newline
