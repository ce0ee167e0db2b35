namespace QueryLexer

structure Position where
  line : UInt32
  column : UInt32
  deriving DecidableEq

namespace Position

def start : Position := ⟨0, 0⟩

def bump (n : UInt32) : UInt32 :=
  if n < 0xFFFFFFFF then n + 1 else n

def after (p : Position) (c : Char) : Position :=
  if c = '\n' then ⟨bump p.line, 0⟩ else ⟨p.line, bump p.column⟩

def afterAll (p : Position) (cs : List Char) : Position :=
  cs.foldl after p

instance : Ord Position where
  compare p q := (compare p.line q.line).then (compare p.column q.column)

instance : LT Position := ltOfOrd

def render (p : Position) : String :=
  s!"line {p.line.toNat + 1}, char {p.column.toNat + 1}"

theorem toNat_bump (n : UInt32) : (bump n).toNat = min (n.toNat + 1) 0xFFFFFFFF := by
  have h := n.toNat_lt
  rw [bump]
  split <;> rename_i hn <;> simp only [UInt32.lt_iff_toNat_lt] at hn
  · rw [UInt32.toNat_add]
    simp at hn ⊢
    omega
  · simp at hn
    omega

@[simp] theorem after_newline (p : Position) : p.after '\n' = ⟨bump p.line, 0⟩ := rfl

theorem after_of_ne {c : Char} (p : Position) (h : c ≠ '\n') :
    p.after c = ⟨p.line, bump p.column⟩ := by simp [after, h]

@[simp] theorem afterAll_nil (p : Position) : p.afterAll [] = p := rfl

@[simp] theorem afterAll_cons (p : Position) (c : Char) (cs : List Char) :
    p.afterAll (c :: cs) = (p.after c).afterAll cs := rfl

@[simp] theorem afterAll_append (p : Position) (cs ds : List Char) :
    p.afterAll (cs ++ ds) = (p.afterAll cs).afterAll ds := List.foldl_append

end Position

end QueryLexer
