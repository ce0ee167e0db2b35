import QueryLexer.CharReader
import QueryLexer.Newline
import QueryLexer.Source

/-!
A cursor reads a source with its line terminators made equal, keeps the position of the next
character, and can push back the last character it gave out.
-/

namespace QueryLexer

/-- The last character given out with the position where it starts, and whether it has been
pushed back. -/
inductive Cursor.Slot
  | empty
  | taken (c : Char) (pos : Position)
  | pushed (c : Char) (pos : Position)
  deriving DecidableEq

structure Cursor (σ : Type) where
  source : σ
  /-- A raw character that was read behind a carriage return and is no line feed. -/
  carry : Option Char
  slot : Cursor.Slot

namespace Cursor

variable {σ : Type} [Source σ]

def ofSource (source : σ) : Cursor σ := ⟨source, none, .empty⟩

def pos (k : Cursor σ) : Position :=
  match k.slot with
  | .empty => .start
  | .taken c p => p.after c
  | .pushed _ p => p

def nextRaw (k : Cursor σ) : Option (Char × Cursor σ) :=
  match k.carry with
  | some c => some (c, { k with carry := none })
  | none => (Source.next? k.source).map fun (c, s) => (c, { k with source := s })

def nextFolded (k : Cursor σ) : Option (Char × Cursor σ) :=
  match k.nextRaw with
  | none => none
  | some ('\r', k) =>
    match k.nextRaw with
    | none => some ('\n', k)
    | some ('\n', k) => some ('\n', k)
    | some (c, k) => some ('\n', { k with carry := some c })
  | some (c, k) => some (c, k)

def read (k : Cursor σ) : Option Char × Cursor σ :=
  match k.slot with
  | .pushed c p => (some c, { k with slot := .taken c p })
  | _ =>
    match k.nextFolded with
    | none => (none, k)
    | some (c, k') => (some c, { k' with slot := .taken c k.pos })

/-- Pushes back the last character given out. With none given out, or with one pushed back
already, nothing changes. -/
def unread (k : Cursor σ) : Cursor σ :=
  match k.slot with
  | .taken c p => { k with slot := .pushed c p }
  | _ => k

inductive PushbackError
  | full
  deriving DecidableEq

def PushbackError.message : PushbackError → String
  | .full => "only one character of pushback"

def tryUnread (k : Cursor σ) : Except PushbackError (Cursor σ) :=
  match k.slot with
  | .pushed _ _ => .error .full
  | _ => .ok k.unread

def raw (k : Cursor σ) : List Char := k.carry.toList ++ Source.toList k.source

def rest (k : Cursor σ) : List Char :=
  match k.slot with
  | .pushed c _ => c :: Newline.normalize k.raw
  | _ => Newline.normalize k.raw

theorem raw_of_nextRaw_none {k : Cursor σ} (h : k.nextRaw = none) : k.raw = [] := by
  cases hc : k.carry with
  | some c => simp [nextRaw, hc] at h
  | none =>
    simp only [nextRaw, hc, Option.map_eq_none_iff] at h
    simp [raw, hc, Source.toList_of_none h]

theorem raw_of_nextRaw_some {k k' : Cursor σ} {c : Char} (h : k.nextRaw = some (c, k')) :
    k.raw = c :: k'.raw ∧ k'.slot = k.slot ∧ k'.carry = none := by
  cases hc : k.carry with
  | some d =>
    simp only [nextRaw, hc, Option.some.injEq, Prod.mk.injEq] at h
    obtain ⟨rfl, rfl⟩ := h
    simp [raw, hc]
  | none =>
    simp only [nextRaw, hc, Option.map_eq_some_iff] at h
    obtain ⟨⟨d, s⟩, hs, h⟩ := h
    obtain ⟨rfl, rfl⟩ := Prod.mk.inj h
    simp [raw, hc, Source.toList_of_some hs]

theorem normalize_raw_of_nextFolded_none {k : Cursor σ} (h : k.nextFolded = none) :
    Newline.normalize k.raw = [] := by
  rw [nextFolded.eq_def] at h
  split at h
  · next hr => simp [raw_of_nextRaw_none hr]
  · split at h <;> contradiction
  · contradiction

theorem normalize_raw_of_nextFolded_some {k k' : Cursor σ} {c : Char}
    (h : k.nextFolded = some (c, k')) :
    Newline.normalize k.raw = c :: Newline.normalize k'.raw ∧ k'.slot = k.slot := by
  rw [nextFolded] at h
  split at h
  · contradiction
  · next k₁ hr =>
    obtain ⟨hraw, hslot, _⟩ := raw_of_nextRaw_some hr
    split at h
    · next hr₂ =>
      obtain ⟨rfl, rfl⟩ := Prod.mk.inj (Option.some.inj h)
      simp [hraw, raw_of_nextRaw_none hr₂, hslot]
    · next k₂ hr₂ =>
      obtain ⟨rfl, rfl⟩ := Prod.mk.inj (Option.some.inj h)
      obtain ⟨hraw₂, hslot₂, _⟩ := raw_of_nextRaw_some hr₂
      simp [hraw, hraw₂, hslot, hslot₂]
    · next d k₂ hd hr₂ =>
      obtain ⟨rfl, rfl⟩ := Prod.mk.inj (Option.some.inj h)
      obtain ⟨hraw₂, hslot₂, hcarry⟩ := raw_of_nextRaw_some hr₂
      simp only [raw, hcarry, Option.toList_none, List.nil_append] at hraw₂
      rw [hraw, raw, hraw₂, Newline.normalize_return_cons _ hd]
      simp [raw, hslot, hslot₂]
  · next c' k₁ hc hr =>
    obtain ⟨rfl, rfl⟩ := Prod.mk.inj (Option.some.inj h)
    obtain ⟨hraw, hslot, _⟩ := raw_of_nextRaw_some hr
    simp [hraw, Newline.normalize_cons_of_ne _ hc, hslot]

theorem read_eq_of_rest_nil {k : Cursor σ} (h : k.rest = []) : k.read = (none, k) := by
  rw [rest] at h
  rw [read]
  split at h <;> rename_i hs
  · contradiction
  · cases hk : k.nextFolded with
    | none => simp only
    | some r =>
      have hr := (normalize_raw_of_nextFolded_some (show k.nextFolded = some (r.1, r.2) from hk)).1
      simp [hr] at h

theorem read_eq_of_rest_cons {k : Cursor σ} {c : Char} {cs : List Char} (h : k.rest = c :: cs) :
    ∃ k', k.read = (some c, k') ∧ k'.slot = .taken c k.pos ∧ Newline.normalize k'.raw = cs := by
  rw [rest] at h
  rw [read]
  split at h
  · next hs =>
    obtain ⟨rfl, rfl⟩ := List.cons.inj h
    exact ⟨_, rfl, by simp [pos, hs], rfl⟩
  · cases hk : k.nextFolded with
    | none => simp [normalize_raw_of_nextFolded_none hk] at h
    | some r =>
      have hr := (normalize_raw_of_nextFolded_some (show k.nextFolded = some (r.1, r.2) from hk)).1
      obtain ⟨rfl, rfl⟩ := List.cons.inj (hr.symm.trans h)
      exact ⟨_, rfl, rfl, rfl⟩

instance : CharReader (Cursor σ) where
  read := read
  unread := unread
  pos := pos
  rest := rest
  read_fst k := by
    cases h : k.rest with
    | nil => simp [read_eq_of_rest_nil h]
    | cons c cs =>
      obtain ⟨k', hk, -, -⟩ := read_eq_of_rest_cons h
      simp [hk]
  rest_read k := by
    cases h : k.rest with
    | nil => simp [read_eq_of_rest_nil h, h]
    | cons c cs =>
      obtain ⟨k', hk, hs, hr⟩ := read_eq_of_rest_cons h
      simp [hk, rest, hs, hr]
  pos_read k := by
    cases h : k.rest with
    | nil => simp [read_eq_of_rest_nil h]
    | cons c cs =>
      obtain ⟨k', hk, hs, -⟩ := read_eq_of_rest_cons h
      simp [hk, pos, hs]
  rest_unread {k c} hc := by
    cases h : k.rest with
    | nil => simp [read_eq_of_rest_nil h] at hc
    | cons d ds =>
      obtain ⟨k', hk, hs, hr⟩ := read_eq_of_rest_cons h
      simp [hk, unread, hs, rest, ← hr, raw]
  pos_unread {k c} hc := by
    cases h : k.rest with
    | nil => simp [read_eq_of_rest_nil h] at hc
    | cons d ds =>
      obtain ⟨k', hk, hs, -⟩ := read_eq_of_rest_cons h
      simp [hk, unread, hs, pos]

@[simp] theorem rest_ofSource (source : σ) :
    (ofSource source).rest = Newline.normalize (Source.toList source) := by
  simp [ofSource, rest, raw]

omit [Source σ] in
@[simp] theorem pos_ofSource (source : σ) : (ofSource source).pos = .start := rfl

end Cursor

end QueryLexer
