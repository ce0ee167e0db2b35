import QueryLexer.Lexeme

/-!
A ring of the lexemes given out last. The newest of them can be made pending: they are then given
out again, the oldest first. Slots are counted back from the newest.
-/

namespace QueryLexer

def Ring.capacity : Nat := 3

structure Ring where
  slots : Vector Lexeme Ring.capacity
  index : Nat
  pending : Nat
  filled : Nat
  index_lt : index < Ring.capacity
  pending_le : pending ≤ filled
  filled_le : filled ≤ Ring.capacity

namespace Ring

def empty : Ring where
  slots := Vector.replicate capacity ⟨.eof, .start, ""⟩
  index := 0
  pending := 0
  filled := 0
  index_lt := by decide
  pending_le := Nat.le_refl 0
  filled_le := Nat.zero_le capacity

def slot (r : Ring) (back : Nat) : Lexeme :=
  have := Nat.mod_lt (r.index + capacity - back) (by decide : 0 < capacity)
  r.slots[(r.index + capacity - back) % capacity]

def current (r : Ring) : Lexeme := r.slot r.pending

def nextPending? (r : Ring) : Option Lexeme :=
  if r.pending = 0 then none else some (r.slot (r.pending - 1))

def push (x : Lexeme) (r : Ring) : Ring :=
  have index_lt := Nat.mod_lt (r.index + 1) (by decide : 0 < capacity)
  { r with
    slots := r.slots.set ((r.index + 1) % capacity) x
    index := (r.index + 1) % capacity
    filled := min (r.filled + 1) capacity
    index_lt
    pending_le := Nat.le_min.2
      ⟨Nat.le_succ_of_le r.pending_le, Nat.le_trans r.pending_le r.filled_le⟩
    filled_le := Nat.min_le_right _ _ }

def release (r : Ring) : Ring :=
  { r with
    pending := r.pending - 1
    pending_le := Nat.le_trans (Nat.sub_le _ _) r.pending_le }

def hold (r : Ring) (h : r.pending < r.filled) : Ring :=
  { r with
    pending := r.pending + 1
    pending_le := h }

theorem slot_push_zero (x : Lexeme) (r : Ring) : (r.push x).slot 0 = x := by
  have h : ((r.index + 1) % capacity + capacity - 0) % capacity = (r.index + 1) % capacity := by
    simp only [capacity]
    omega
  simp only [slot, push, h]
  exact Vector.getElem_set_self _

theorem slot_push_succ (x : Lexeme) (r : Ring) {back : Nat} (hb : back + 1 < capacity) :
    (r.push x).slot (back + 1) = r.slot back := by
  have hi := r.index_lt
  have h : ((r.index + 1) % capacity + capacity - (back + 1)) % capacity =
      (r.index + capacity - back) % capacity := by
    simp only [capacity] at *
    omega
  have hne : (r.index + 1) % capacity ≠ (r.index + capacity - back) % capacity := by
    simp only [capacity] at *
    omega
  simp only [slot, push, h]
  exact Vector.getElem_set_ne _ _ hne

end Ring

end QueryLexer
