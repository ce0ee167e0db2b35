import QueryLexer.CharReader
import QueryLexer.Proofs.Run

namespace QueryLexer.CharReader

variable {κ κ' : Type} [CharReader κ] [CharReader κ']

inductive SameRead (R : κ → κ' → Prop) : Option Char × κ → Option Char × κ' → Prop
  | atEnd {m : κ} {m' : κ'} (behind : R m m') : SameRead R (none, m) (none, m')
  | char {m : κ} {m' : κ'} (c : Char) (behind : R m m') (back : R (unread m) (unread m')) :
      SameRead R (some c, m) (some c, m')

structure Simulation (R : κ → κ' → Prop) : Prop where
  pos_eq {k : κ} {k' : κ'} : R k k' → pos k = pos k'
  read {k : κ} {k' : κ'} : R k k' → SameRead R (read k) (read k')

theorem Simulation.refl : Simulation (Eq : κ → κ → Prop) where
  pos_eq h := congrArg pos h
  read {k k'} h := by
    subst h
    match CharReader.read k with
    | (none, m) => exact .atEnd rfl
    | (some c, m) => exact .char c rfl rfl

theorem readWhile_eq (p : Char → Bool) (text : String) (k : κ) :
    readWhile p text k =
      match read k with
      | (none, k') => (text, k')
      | (some c, k') => if p c then readWhile p (text.push c) k' else (text, unread k') := by
  rw [readWhile]
  split
  · next h => rw [h]
  · next h => rw [h]

namespace Simulation

variable {R : κ → κ' → Prop} (sim : Simulation R) {k : κ} {k' : κ'}

include sim

theorem sameStep_read (h : R k k') : SameStep R (CharReader.read k) (CharReader.read k') := by
  have hread := sim.read h
  generalize CharReader.read k = r, CharReader.read k' = r' at hread ⊢
  cases hread with
  | atEnd behind => exact ⟨rfl, behind⟩
  | char c behind back => exact ⟨rfl, behind⟩

theorem matchChar (expected : Char) (h : R k k') :
    SameStep R (matchChar expected k) (matchChar expected k') := by
  have hread := sim.read h
  rw [CharReader.matchChar, CharReader.matchChar]
  generalize CharReader.read k = r, CharReader.read k' = r' at hread ⊢
  cases hread with
  | atEnd behind => exact ⟨rfl, behind⟩
  | char c behind back =>
    dsimp only
    split
    · exact ⟨rfl, behind⟩
    · exact ⟨rfl, back⟩

theorem readWhile (p : Char → Bool) (text : String) {k : κ} {k' : κ'} (h : R k k') :
    SameStep R (readWhile p text k) (readWhile p text k') := by
  have hread := sim.read h
  rw [readWhile_eq, readWhile_eq]
  generalize hk : CharReader.read k = r, CharReader.read k' = r' at hread ⊢
  cases hread with
  | atEnd behind => exact ⟨rfl, behind⟩
  | char c behind back =>
    dsimp only
    split
    · exact readWhile p (text.push c) behind
    · exact ⟨rfl, back⟩
termination_by (rest k).length
decreasing_by exact length_rest_lt hk

end Simulation

end QueryLexer.CharReader
