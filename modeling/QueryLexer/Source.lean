namespace QueryLexer

class Source (σ : Type) where
  next? : σ → Option (Char × σ)
  toList : σ → List Char
  toList_of_none {s : σ} : next? s = none → toList s = []
  toList_of_some {s s' : σ} {c : Char} : next? s = some (c, s') → toList s = c :: toList s'

instance : Source (List Char) where
  next?
    | [] => none
    | c :: cs => some (c, cs)
  toList := id
  toList_of_none {s} h := by cases s <;> simp_all
  toList_of_some {s} h := by cases s <;> simp_all

end QueryLexer
