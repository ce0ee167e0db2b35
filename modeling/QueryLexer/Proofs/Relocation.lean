import QueryLexer.Lexer

namespace QueryLexer

namespace Position

def addCounter (m n : UInt32) : UInt32 := .ofNat (min (m.toNat + n.toNat) 0xFFFFFFFF)

theorem toNat_addCounter (m n : UInt32) :
    (addCounter m n).toNat = min (m.toNat + n.toNat) 0xFFFFFFFF := by
  rw [addCounter, UInt32.toNat_ofNat']
  omega

theorem addCounter_zero (n : UInt32) : addCounter n 0 = n := by
  have hn := n.toNat_lt
  rw [← UInt32.toNat_inj, toNat_addCounter]
  change min (n.toNat + 0) 0xFFFFFFFF = n.toNat
  omega

theorem zero_addCounter (n : UInt32) : addCounter 0 n = n := by
  have hn := n.toNat_lt
  rw [← UInt32.toNat_inj, toNat_addCounter]
  change min (0 + n.toNat) 0xFFFFFFFF = n.toNat
  omega

theorem addCounter_bump (m n : UInt32) : addCounter m (bump n) = bump (addCounter m n) := by
  rw [← UInt32.toNat_inj, toNat_addCounter, toNat_bump, toNat_bump, toNat_addCounter]
  omega

theorem bump_ne_zero (n : UInt32) : bump n ≠ 0 := by
  intro h
  have hzero := congrArg UInt32.toNat h
  rw [toNat_bump] at hzero
  change min (n.toNat + 1) 0xFFFFFFFF = 0 at hzero
  omega

/-- Only the first line of a text goes on with the line of the origin. -/
def relocate (origin p : Position) : Position :=
  if p.line = 0 then ⟨origin.line, addCounter origin.column p.column⟩
  else ⟨addCounter origin.line p.line, p.column⟩

@[simp] theorem relocate_start (origin : Position) : origin.relocate .start = origin := by
  change Position.mk origin.line (addCounter origin.column 0) = origin
  rw [addCounter_zero]

@[simp] theorem start_relocate (p : Position) : Position.start.relocate p = p := by
  rw [relocate]
  split
  · next h =>
    change Position.mk 0 (addCounter 0 p.column) = p
    rw [zero_addCounter, ← h]
  · change Position.mk (addCounter 0 p.line) p.column = p
    rw [zero_addCounter]

theorem line_relocate (origin p : Position) :
    (origin.relocate p).line = addCounter origin.line p.line := by
  rw [relocate]
  split
  · next h => rw [h, addCounter_zero]
  · rfl

theorem relocate_after (origin p : Position) (c : Char) :
    origin.relocate (p.after c) = (origin.relocate p).after c := by
  by_cases hc : c = '\n'
  · rw [hc, after_newline, after_newline, relocate, if_neg (bump_ne_zero p.line), line_relocate,
      addCounter_bump]
  · rw [after_of_ne _ hc, after_of_ne _ hc, relocate, relocate]
    split
    · rw [addCounter_bump]
    · rfl

example : relocate ⟨3, 5⟩ (after ⟨0, 0xFFFFFFFA⟩ 'a') = ⟨3, 0xFFFFFFFF⟩ := by decide

theorem relocate_afterAll (origin p : Position) (cs : List Char) :
    origin.relocate (p.afterAll cs) = (origin.relocate p).afterAll cs := by
  induction cs generalizing p with
  | nil => rfl
  | cons c cs ih => rw [afterAll_cons, afterAll_cons, ih, relocate_after]

end Position

def Lexeme.relocate (origin : Position) (x : Lexeme) : Lexeme :=
  { x with pos := origin.relocate x.pos }

def Diagnostic.relocate (origin : Position) (d : Diagnostic) : Diagnostic :=
  { d with pos := origin.relocate d.pos }

def Event.relocate (origin : Position) : Event → Event
  | scanned x => scanned (x.relocate origin)
  | malformed x => malformed (x.relocate origin)
  | notARegex pos => notARegex (origin.relocate pos)
  | stepBackIgnored pending => stepBackIgnored pending

@[simp] theorem Lexeme.relocate_start (x : Lexeme) : x.relocate .start = x := by
  rw [relocate, Position.start_relocate]

@[simp] theorem Diagnostic.relocate_start (d : Diagnostic) : d.relocate .start = d := by
  rw [relocate, Position.start_relocate]

@[simp] theorem Event.relocate_start (e : Event) : e.relocate .start = e := by
  cases e with
  | scanned x => rw [relocate, x.relocate_start]
  | malformed x => rw [relocate, x.relocate_start]
  | notARegex pos => rw [relocate, Position.start_relocate]
  | stepBackIgnored pending => rfl

theorem Lexeme.diagnostic?_relocate (origin : Position) (x : Lexeme) :
    (x.relocate origin).diagnostic? = x.diagnostic?.map (Diagnostic.relocate origin) := by
  cases x with
  | mk token pos literal => cases token <;> rfl

end QueryLexer
