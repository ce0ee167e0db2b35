import QueryLexer.Cursor
import QueryLexer.Proofs.Run

/-!
A cursor against an index into the normal text. Main statement: no run of calls tells the two
apart, and a cursor is always at the position of the characters in front of the index.
-/

namespace QueryLexer

namespace Cursor

inductive Call
  | read
  | peek
  | matchChar (expected : Char)
  | isAtEnd
  | unread
  deriving DecidableEq

inductive Answer
  | char (c : Option Char)
  | bool (b : Bool)
  | done
  | refused (e : PushbackError)
  deriving DecidableEq

variable {σ : Type} [Source σ]

def perform : Call → Cursor σ → Answer × Cursor σ
  | .read, k => (.char k.read.1, k.read.2)
  | .peek, k => (.char (CharReader.peek k).1, (CharReader.peek k).2)
  | .matchChar c, k => (.bool (CharReader.matchChar c k).1, (CharReader.matchChar c k).2)
  | .isAtEnd, k => (.bool (CharReader.isAtEnd k).1, (CharReader.isAtEnd k).2)
  | .unread, k =>
    match k.tryUnread with
    | .ok k' => (.done, k')
    | .error e => (.refused e, k)

def answer (call : Call) (k : Cursor σ) : (Answer × Position) × Cursor σ :=
  (((perform call k).1, (perform call k).2.pos), (perform call k).2)

end Cursor

/-- The index of the next character of a text, and whether that character was pushed back. -/
structure Place where
  index : Nat
  pushed : Bool
  deriving DecidableEq

namespace Place

def start : Place := ⟨0, false⟩

def pos (text : List Char) (p : Place) : Position := .afterAll .start (text.take p.index)

def read (text : List Char) (p : Place) : Option Char × Place :=
  match text[p.index]? with
  | some c => (some c, ⟨p.index + 1, false⟩)
  | none => (none, p)

def peek (text : List Char) (p : Place) : Option Char × Place :=
  match text[p.index]? with
  | some c => (some c, ⟨p.index, true⟩)
  | none => (none, p)

def matchChar (text : List Char) (expected : Char) (p : Place) : Bool × Place :=
  if text[p.index]? = some expected then (true, (p.read text).2) else (false, (p.peek text).2)

def isAtEnd (text : List Char) (p : Place) : Bool × Place :=
  (p.index = text.length, (p.peek text).2)

def unread (p : Place) : Except Cursor.PushbackError Place :=
  if p.pushed then .error .full
  else if p.index = 0 then .ok p
  else .ok ⟨p.index - 1, true⟩

def perform (text : List Char) : Cursor.Call → Place → Cursor.Answer × Place
  | .read, p => (.char (p.read text).1, (p.read text).2)
  | .peek, p => (.char (p.peek text).1, (p.peek text).2)
  | .matchChar c, p => (.bool (p.matchChar text c).1, (p.matchChar text c).2)
  | .isAtEnd, p => (.bool (p.isAtEnd text).1, (p.isAtEnd text).2)
  | .unread, p =>
    match p.unread with
    | .ok p' => (.done, p')
    | .error e => (.refused e, p)

def answer (text : List Char) (call : Cursor.Call) (p : Place) :
    (Cursor.Answer × Position) × Place :=
  (((perform text call p).1, (perform text call p).2.pos text), (perform text call p).2)

variable {text : List Char} {c : Char} {i : Nat}

theorem pos_succ (h : text[i]? = some c) (pushed pushed' : Bool) :
    pos text ⟨i + 1, pushed⟩ = (pos text ⟨i, pushed'⟩).after c := by
  rw [pos, pos, List.take_add_one, h, Position.afterAll_append]
  rfl

theorem drop_of_getElem? (h : text[i]? = some c) : text.drop i = c :: text.drop (i + 1) := by
  obtain ⟨hi, hc⟩ := List.getElem?_eq_some_iff.1 h
  rw [List.drop_eq_getElem_cons hi, hc]

end Place

/-- A cursor at a place: what its slot holds, and what is behind that. -/
inductive Cursor.Tracks {σ : Type} [Source σ] (text : List Char) : Cursor σ → Place → Prop
  | fresh {k : Cursor σ} (slot : k.slot = .empty) (raw : Newline.normalize k.raw = text) :
      Tracks text k .start
  | taken {k : Cursor σ} {i : Nat} {c : Char} (slot : k.slot = .taken c (Place.pos text ⟨i, false⟩))
      (raw : Newline.normalize k.raw = text.drop (i + 1)) (get : text[i]? = some c) :
      Tracks text k ⟨i + 1, false⟩
  | pushed {k : Cursor σ} {i : Nat} {c : Char}
      (slot : k.slot = .pushed c (Place.pos text ⟨i, true⟩))
      (raw : Newline.normalize k.raw = text.drop (i + 1)) (get : text[i]? = some c) :
      Tracks text k ⟨i, true⟩

namespace Cursor

namespace Tracks

variable {σ : Type} [Source σ] {text : List Char} {k : Cursor σ} {p : Place} {c : Char}

theorem ofSource (source : σ) :
    (ofSource source).Tracks (Newline.normalize (Source.toList source)) .start :=
  .fresh rfl (rest_ofSource source)

theorem pos_eq (t : k.Tracks text p) : k.pos = p.pos text := by
  cases t with
  | fresh slot raw => rw [pos, slot]; rfl
  | taken slot raw get => rw [pos, slot, Place.pos_succ get false false]
  | pushed slot raw get => rw [pos, slot]

theorem rest_eq (t : k.Tracks text p) : k.rest = text.drop p.index := by
  cases t with
  | fresh slot raw => rw [rest, slot]; exact raw
  | taken slot raw get => rw [rest, slot]; exact raw
  | pushed slot raw get => rw [rest, slot, raw, Place.drop_of_getElem? get]

theorem index_le (t : k.Tracks text p) : p.index ≤ text.length := by
  cases t with
  | fresh slot raw => exact Nat.zero_le _
  | taken slot raw get => exact (List.getElem?_eq_some_iff.1 get).1
  | pushed slot raw get => exact Nat.le_of_lt (List.getElem?_eq_some_iff.1 get).1

theorem read_of_none (t : k.Tracks text p) (h : text[p.index]? = none) : k.read = (none, k) := by
  apply read_eq_of_rest_nil
  rw [t.rest_eq, List.drop_eq_nil_iff]
  exact List.getElem?_eq_none_iff.1 h

theorem read_of_some (t : k.Tracks text p) (h : text[p.index]? = some c) :
    ∃ k', k.read = (some c, k') ∧ k'.Tracks text ⟨p.index + 1, false⟩ := by
  obtain ⟨k', hread, hslot, hraw⟩ :=
    read_eq_of_rest_cons (t.rest_eq.trans (Place.drop_of_getElem? h))
  rw [t.pos_eq] at hslot
  exact ⟨k', hread, .taken hslot hraw h⟩

theorem unread_of_succ {i : Nat} (t : k.Tracks text ⟨i + 1, false⟩) :
    k.unread.Tracks text ⟨i, true⟩ := by
  cases t with
  | taken slot raw get =>
    rw [unread, slot]
    exact .pushed rfl raw get

theorem read (t : k.Tracks text p) :
    k.read.1 = (p.read text).1 ∧ k.read.2.Tracks text (p.read text).2 := by
  rw [Place.read]
  cases h : text[p.index]? with
  | none =>
    rw [t.read_of_none h]
    exact ⟨rfl, t⟩
  | some c =>
    obtain ⟨k', hread, ht⟩ := t.read_of_some h
    rw [hread]
    exact ⟨rfl, ht⟩

theorem peek (t : k.Tracks text p) :
    (CharReader.peek k).1 = (p.peek text).1 ∧
      (CharReader.peek k).2.Tracks text (p.peek text).2 := by
  rw [Place.peek]
  cases h : text[p.index]? with
  | none =>
    have hread : CharReader.read k = (none, k) := t.read_of_none h
    rw [CharReader.peek, hread]
    exact ⟨rfl, t⟩
  | some c =>
    obtain ⟨k', hread, ht⟩ := t.read_of_some h
    replace hread : CharReader.read k = (some c, k') := hread
    rw [CharReader.peek, hread]
    exact ⟨rfl, ht.unread_of_succ⟩

theorem matchChar (t : k.Tracks text p) (expected : Char) :
    (CharReader.matchChar expected k).1 = (p.matchChar text expected).1 ∧
      (CharReader.matchChar expected k).2.Tracks text (p.matchChar text expected).2 := by
  rw [Place.matchChar, Place.read, Place.peek]
  cases h : text[p.index]? with
  | none =>
    have hread : CharReader.read k = (none, k) := t.read_of_none h
    rw [CharReader.matchChar, hread]
    exact ⟨rfl, t⟩
  | some c =>
    obtain ⟨k', hread, ht⟩ := t.read_of_some h
    replace hread : CharReader.read k = (some c, k') := hread
    simp only [CharReader.matchChar, hread, Option.some.injEq]
    split
    · exact ⟨rfl, ht⟩
    · exact ⟨rfl, ht.unread_of_succ⟩

theorem isAtEnd (t : k.Tracks text p) :
    (CharReader.isAtEnd k).1 = (p.isAtEnd text).1 ∧
      (CharReader.isAtEnd k).2.Tracks text (p.isAtEnd text).2 := by
  refine ⟨?_, t.peek.2⟩
  have hle := t.index_le
  have hnone : text[p.index]? = none ↔ p.index = text.length := by
    rw [List.getElem?_eq_none_iff]
    omega
  change (CharReader.peek k).1.isNone = decide (p.index = text.length)
  rw [Bool.eq_iff_iff, decide_eq_true_iff, ← hnone, t.peek.1, Option.isNone_iff_eq_none,
    Place.peek]
  cases text[p.index]? with
  | none => simp
  | some c => simp

theorem unread_of_pushed (t : k.Tracks text p) (h : p.pushed = true) :
    k.tryUnread = .error .full ∧ k.unread = k := by
  cases t with
  | fresh slot raw => cases h
  | taken slot raw get => cases h
  | pushed slot raw get => exact ⟨by rw [tryUnread, slot], by rw [unread, slot]⟩

theorem unread_of_not_pushed (t : k.Tracks text p) (h : p.pushed = false) :
    ∃ k' p', k.tryUnread = .ok k' ∧ p.unread = .ok p' ∧ k'.Tracks text p' := by
  cases t with
  | fresh slot raw =>
    refine ⟨k, .start, ?_, rfl, .fresh slot raw⟩
    rw [tryUnread, slot, unread, slot]
  | @taken i c slot raw get =>
    refine ⟨k.unread, ⟨i, true⟩, ?_, rfl, unread_of_succ (.taken slot raw get)⟩
    rw [tryUnread, slot]
  | pushed slot raw get => cases h

theorem perform (t : k.Tracks text p) (call : Call) :
    (perform call k).1 = (p.perform text call).1 ∧
      (perform call k).2.Tracks text (p.perform text call).2 := by
  cases call with
  | read => exact ⟨congrArg Answer.char t.read.1, t.read.2⟩
  | peek => exact ⟨congrArg Answer.char t.peek.1, t.peek.2⟩
  | matchChar c => exact ⟨congrArg Answer.bool (t.matchChar c).1, (t.matchChar c).2⟩
  | isAtEnd => exact ⟨congrArg Answer.bool t.isAtEnd.1, t.isAtEnd.2⟩
  | unread =>
    rw [Cursor.perform, Place.perform]
    cases hp : p.pushed with
    | true =>
      have hp' : p.unread = .error .full := if_pos hp
      rw [(t.unread_of_pushed hp).1, hp']
      exact ⟨rfl, t⟩
    | false =>
      obtain ⟨k', p', hk, hp', ht⟩ := t.unread_of_not_pushed hp
      rw [hk, hp']
      exact ⟨rfl, ht⟩

theorem answer (t : k.Tracks text p) (call : Call) :
    (answer call k).1 = (p.answer text call).1 ∧
      (answer call k).2.Tracks text (p.answer text call).2 :=
  ⟨Prod.ext (t.perform call).1 (t.perform call).2.pos_eq, (t.perform call).2⟩

end Tracks

/-- The answers of a cursor, and its positions behind each of them, are those of an index. -/
theorem run_eq_run_place {σ : Type} [Source σ] (source : σ) (calls : List Call) :
    let text := Newline.normalize (Source.toList source)
    let k := run answer calls (ofSource source)
    let p := run (Place.answer text) calls .start
    k.1 = p.1 ∧
      k.2.pos = .afterAll .start (text.take p.2.index) ∧
      k.2.rest = text.drop p.2.index ∧
      (p.2.pushed = true → k.2.tryUnread = .error .full ∧ k.2.unread = k.2) := by
  intro text k p
  have hrun := run_related (R := Tracks text) (f := id) (fun call _ _ t => t.answer call) calls
    (Tracks.ofSource source)
  rw [List.map_id] at hrun
  exact ⟨hrun.1, hrun.2.pos_eq, hrun.2.rest_eq, hrun.2.unread_of_pushed⟩

example : (run answer [.read, .unread, .unread, .read, .read] (ofSource ['\r', 'x'])).1 =
    [(.char (some '\n'), ⟨1, 0⟩), (.done, ⟨0, 0⟩), (.refused .full, ⟨0, 0⟩),
      (.char (some '\n'), ⟨1, 0⟩), (.char (some 'x'), ⟨1, 1⟩)] := by decide

end Cursor

end QueryLexer
