import QueryLexer.CharReader

namespace QueryLexer

def Stops (p : Char → Bool) (following : List Char) : Prop :=
  ∀ c, following.head? = some c → p c = false

theorem Stops.nil (p : Char → Bool) : Stops p [] := by
  intro c h
  cases h

theorem stops_cons {p : Char → Bool} {c : Char} {cs : List Char} (h : p c = false) :
    Stops p (c :: cs) := by
  intro d hd
  cases hd
  exact h

theorem stops_dropWhile (p : Char → Bool) (cs : List Char) : Stops p (cs.dropWhile p) := by
  intro c h
  have hnot := List.head?_dropWhile_not p cs
  rw [h] at hnot
  exact hnot

theorem takeWhile_of_stops {p : Char → Bool} {run following : List Char}
    (hrun : ∀ c ∈ run, p c = true) (stops : Stops p following) :
    (run ++ following).takeWhile p = run := by
  rw [List.takeWhile_append_of_pos hrun]
  cases following with
  | nil => simp
  | cons c cs => simp [stops c rfl]

theorem dropWhile_of_stops {p : Char → Bool} {run following : List Char}
    (hrun : ∀ c ∈ run, p c = true) (stops : Stops p following) :
    (run ++ following).dropWhile p = following := by
  rw [List.dropWhile_append_of_pos hrun]
  cases following with
  | nil => rfl
  | cons c cs => simp [stops c rfl]

theorem exists_run (p : Char → Bool) (cs : List Char) :
    ∃ run following, cs = run ++ following ∧ (∀ c ∈ run, p c = true) ∧ Stops p following :=
  ⟨cs.takeWhile p, cs.dropWhile p, List.takeWhile_append_dropWhile.symm,
    List.all_eq_true.1 List.all_takeWhile, stops_dropWhile p cs⟩

theorem push_append_ofList (text : String) (c : Char) (cs : List Char) :
    text.push c ++ String.ofList cs = text ++ String.ofList (c :: cs) := by
  rw [← String.append_singleton, String.append_assoc, String.ofList_cons]

namespace CharReader

variable {κ : Type} [CharReader κ]

structure Takes (k : κ) (slice : List Char) (k' : κ) : Prop where
  rest_eq : rest k = slice ++ rest k'
  pos_eq : pos k' = (pos k).afterAll slice

namespace Takes

variable {k k' k'' : κ} {c : Char} {slice slice' following : List Char}

theorem refl (k : κ) : Takes k [] k := ⟨rfl, rfl⟩

theorem trans (h : Takes k slice k') (h' : Takes k' slice' k'') :
    Takes k (slice ++ slice') k'' where
  rest_eq := by rw [h.rest_eq, h'.rest_eq, List.append_assoc]
  pos_eq := by rw [h'.pos_eq, h.pos_eq, Position.afterAll_append]

theorem rest_eq_of_append (h : Takes k slice k') (hr : rest k = slice ++ following) :
    rest k' = following :=
  List.append_cancel_left (h.rest_eq.symm.trans hr)

theorem of_none (h : read k = (none, k')) : Takes k [] k' where
  rest_eq := by rw [rest_of_none h, rest_read_of_none h, List.append_nil]
  pos_eq := pos_of_none h

theorem of_some (h : read k = (some c, k')) : Takes k [c] k' where
  rest_eq := rest_of_some h
  pos_eq := pos_of_some h

theorem unread (h : read k = (some c, k')) : Takes k [] (CharReader.unread k') where
  rest_eq := by rw [rest_of_some h, rest_unread_of_some h, List.nil_append]
  pos_eq := pos_unread_of_some h

theorem matchChar_of_head (h : (rest k).head? = some c) : Takes k [c] (matchChar c k).2 where
  rest_eq := by
    rw [rest_matchChar, if_pos h]
    cases hr : rest k with
    | nil => simp [hr] at h
    | cons d ds =>
      rw [hr] at h
      cases h
      rfl
  pos_eq := by rw [pos_matchChar, if_pos h, Position.afterAll_cons, Position.afterAll_nil]

theorem matchChar_of_ne (h : (rest k).head? ≠ some c) : Takes k [] (matchChar c k).2 where
  rest_eq := by rw [rest_matchChar, if_neg h, List.nil_append]
  pos_eq := by rw [pos_matchChar, if_neg h, Position.afterAll_nil]

theorem readWhile {p : Char → Bool} {run : List Char} (text : String)
    (hrun : ∀ c ∈ run, p c = true) (stops : Stops p following)
    (h : rest k = run ++ following) : Takes k run (CharReader.readWhile p text k).2 where
  rest_eq := by rw [rest_readWhile, h, dropWhile_of_stops hrun stops]
  pos_eq := by rw [pos_readWhile, h, takeWhile_of_stops hrun stops]

end Takes

theorem read_of_rest_cons {k : κ} {c : Char} {cs : List Char} (h : rest k = c :: cs) :
    read k = (some c, (read k).2) := by
  apply Prod.ext
  · rw [read_fst, h]
    rfl
  · rfl

theorem read_of_rest_nil {k : κ} (h : rest k = []) : read k = (none, (read k).2) := by
  apply Prod.ext
  · rw [read_fst, h]
    rfl
  · rfl

theorem readWhile_fst_of_stops {k : κ} {p : Char → Bool} {run following : List Char}
    (text : String) (hrun : ∀ c ∈ run, p c = true) (stops : Stops p following)
    (h : rest k = run ++ following) : (readWhile p text k).1 = text ++ String.ofList run := by
  rw [readWhile_fst, h, takeWhile_of_stops hrun stops]

theorem matchChar_fst_of_head {k : κ} {c : Char} (h : (rest k).head? = some c) :
    (matchChar c k).1 = true := by
  rw [matchChar_fst, h, beq_self_eq_true]

theorem matchChar_fst_of_ne {k : κ} {c : Char} (h : (rest k).head? ≠ some c) :
    (matchChar c k).1 = false := by
  rw [matchChar_fst]
  exact beq_false_of_ne h

end CharReader

end QueryLexer
