import QueryLexer.Source

namespace QueryLexer

structure Text where
  text : String
  pos : text.Pos

namespace Text

def ofString (text : String) : Text := ⟨text, text.startPos⟩

def offset (t : Text) : Nat := t.pos.offset.byteIdx

def next? (t : Text) : Option (Char × Text) :=
  if h : t.pos = t.text.endPos then none
  else some (t.pos.get h, ⟨t.text, t.pos.next h⟩)

def toList (t : Text) : List Char := (t.text.sliceFrom t.pos).copy.toList

theorem toList_of_splits {t : Text} {before after : String} (h : t.pos.Splits before after) :
    t.toList = after.toList := by
  rw [toList, String.Pos.Splits.eq_right t.pos.splits h]

@[simp] theorem toList_ofString (text : String) : (ofString text).toList = text.toList :=
  toList_of_splits (String.splits_startPos text)

theorem toList_of_none {t : Text} (h : t.next? = none) : t.toList = [] := by
  rw [next?] at h
  split at h
  · next hend => exact toList_of_splits (hend ▸ String.splits_endPos t.text)
  · contradiction

theorem toList_of_some {t t' : Text} {c : Char} (h : t.next? = some (c, t')) :
    t.toList = c :: t'.toList := by
  rw [next?] at h
  split at h
  · contradiction
  · next hend =>
    obtain ⟨rfl, rfl⟩ := Prod.mk.inj (Option.some.inj h)
    have hs := t.pos.splits_next_right hend
    rw [toList_of_splits hs]
    simp [toList]

instance : Source Text where
  next? := next?
  toList := toList
  toList_of_none := toList_of_none
  toList_of_some := toList_of_some

end Text

end QueryLexer
