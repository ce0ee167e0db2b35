import QueryLexer.Position

namespace QueryLexer

class CharReader (κ : Type) where
  read : κ → Option Char × κ
  /-- Gives back the character that has just been read. -/
  unread : κ → κ
  pos : κ → Position
  rest : κ → List Char
  read_fst (k : κ) : (read k).1 = (rest k).head?
  rest_read (k : κ) : rest (read k).2 = (rest k).tail
  pos_read (k : κ) : pos (read k).2 = (pos k).afterAll ((rest k).take 1)
  rest_unread {k : κ} {c : Char} : (read k).1 = some c → rest (unread (read k).2) = rest k
  pos_unread {k : κ} {c : Char} : (read k).1 = some c → pos (unread (read k).2) = pos k

namespace CharReader

variable {κ : Type} [CharReader κ] {k k' : κ} {c : Char}

theorem rest_of_none (h : read k = (none, k')) : rest k = [] := by
  have hc := read_fst k
  rw [h] at hc
  exact List.head?_eq_none_iff.1 hc.symm

theorem rest_of_some (h : read k = (some c, k')) : rest k = c :: rest k' := by
  have hc : (rest k).head? = some c := by rw [← read_fst, h]
  have hr : rest k' = (rest k).tail := by rw [← rest_read, h]
  obtain ⟨cs, hcs⟩ := List.head?_eq_some_iff.1 hc
  rw [hr, hcs, List.tail_cons]

theorem rest_read_of_none (h : read k = (none, k')) : rest k' = [] := by
  have hr : rest k' = (rest k).tail := by rw [← rest_read, h]
  rw [hr, rest_of_none h, List.tail_nil]

theorem pos_of_none (h : read k = (none, k')) : pos k' = pos k := by
  have hp := pos_read k
  rwa [h, rest_of_none h] at hp

theorem pos_of_some (h : read k = (some c, k')) : pos k' = (pos k).after c := by
  have hp := pos_read k
  rwa [h, rest_of_some h] at hp

theorem rest_unread_of_some (h : read k = (some c, k')) : rest (unread k') = c :: rest k' := by
  have hr := rest_unread (k := k) (c := c) (by rw [h])
  rwa [h, rest_of_some h] at hr

theorem pos_unread_of_some (h : read k = (some c, k')) : pos (unread k') = pos k := by
  have hp := pos_unread (k := k) (c := c) (by rw [h])
  rwa [h] at hp

theorem length_rest_lt (h : read k = (some c, k')) : (rest k').length < (rest k).length := by
  simp [rest_of_some h]

theorem suffix_of_some (h : read k = (some c, k')) : rest k' <:+ rest k := by
  rw [rest_of_some h]
  exact List.suffix_cons c (rest k')

def peek (k : κ) : Option Char × κ :=
  match read k with
  | (none, k) => (none, k)
  | (some c, k) => (some c, unread k)

def isAtEnd (k : κ) : Bool × κ :=
  let next := peek k
  (next.1.isNone, next.2)

def matchChar (expected : Char) (k : κ) : Bool × κ :=
  match read k with
  | (none, k) => (false, k)
  | (some c, k) => if c = expected then (true, k) else (false, unread k)

def readWhile (p : Char → Bool) (text : String) (k : κ) : String × κ :=
  match _h : read k with
  | (none, k') => (text, k')
  | (some c, k') => if p c then readWhile p (text.push c) k' else (text, unread k')
termination_by (rest k).length
decreasing_by exact length_rest_lt _h

def skipWhile (p : Char → Bool) (k : κ) : κ := (readWhile p "" k).2

theorem peek_fst (k : κ) : (peek k).1 = (rest k).head? := by
  rw [peek]
  split <;> rename_i h
  · simp [rest_of_none h]
  · simp [rest_of_some h]

@[simp] theorem rest_peek (k : κ) : rest (peek k).2 = rest k := by
  rw [peek]
  split <;> rename_i h
  · simp [rest_of_none h, rest_read_of_none h]
  · simp [rest_of_some h, rest_unread_of_some h]

@[simp] theorem pos_peek (k : κ) : pos (peek k).2 = pos k := by
  rw [peek]
  split <;> rename_i h
  · exact pos_of_none h
  · exact pos_unread_of_some h

theorem matchChar_fst (x : Char) (k : κ) : (matchChar x k).1 = ((rest k).head? == some x) := by
  rw [matchChar]
  split <;> rename_i h
  · simp [rest_of_none h]
  · split <;> simp_all [rest_of_some h]

theorem rest_matchChar (x : Char) (k : κ) :
    rest (matchChar x k).2 = if (rest k).head? = some x then (rest k).tail else rest k := by
  rw [matchChar]
  split <;> rename_i h
  · simp [rest_of_none h, rest_read_of_none h]
  · split <;> rename_i hc
    · simp [rest_of_some h, hc]
    · simp [rest_unread_of_some h, rest_of_some h, hc]

theorem pos_matchChar (x : Char) (k : κ) :
    pos (matchChar x k).2 = if (rest k).head? = some x then (pos k).after x else pos k := by
  rw [matchChar]
  split <;> rename_i h
  · simp [rest_of_none h, pos_of_none h]
  · split <;> rename_i hc
    · simp [rest_of_some h, pos_of_some h, hc]
    · simp [pos_unread_of_some h, rest_of_some h, hc]

theorem matchChar_suffix (x : Char) (k : κ) : rest (matchChar x k).2 <:+ rest k := by
  rw [rest_matchChar]
  split
  · exact List.tail_suffix _
  · exact List.suffix_rfl

theorem readWhile_fst (p : Char → Bool) (text : String) (k : κ) :
    (readWhile p text k).1 = text ++ String.ofList ((rest k).takeWhile p) := by
  fun_induction readWhile p text k with
  | case1 text k k' h => simp [rest_of_none h]
  | case2 text k c k' h hp ih =>
    rw [ih, rest_of_some h, List.takeWhile_cons_of_pos hp, String.ofList_cons,
      ← String.append_singleton, String.append_assoc]
  | case3 text k c k' h hp => simp [rest_of_some h, hp]

theorem rest_readWhile (p : Char → Bool) (text : String) (k : κ) :
    rest (readWhile p text k).2 = (rest k).dropWhile p := by
  fun_induction readWhile p text k with
  | case1 text k k' h => simp [rest_of_none h, rest_read_of_none h]
  | case2 text k c k' h hp ih => simp [ih, rest_of_some h, hp]
  | case3 text k c k' h hp => simp [rest_unread_of_some h, rest_of_some h, hp]

theorem pos_readWhile (p : Char → Bool) (text : String) (k : κ) :
    pos (readWhile p text k).2 = (pos k).afterAll ((rest k).takeWhile p) := by
  fun_induction readWhile p text k with
  | case1 text k k' h => simp [rest_of_none h, pos_of_none h]
  | case2 text k c k' h hp ih => simp [ih, pos_of_some h, rest_of_some h, hp]
  | case3 text k c k' h hp => simp [pos_unread_of_some h, rest_of_some h, hp]

theorem readWhile_suffix (p : Char → Bool) (text : String) (k : κ) :
    rest (readWhile p text k).2 <:+ rest k := by
  rw [rest_readWhile]
  exact List.dropWhile_suffix p

theorem rest_skipWhile (p : Char → Bool) (k : κ) :
    rest (skipWhile p k) = (rest k).dropWhile p := rest_readWhile p "" k

theorem pos_skipWhile (p : Char → Bool) (k : κ) :
    pos (skipWhile p k) = (pos k).afterAll ((rest k).takeWhile p) := pos_readWhile p "" k

end CharReader

end QueryLexer
