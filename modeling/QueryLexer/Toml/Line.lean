namespace QueryLexer.Toml.Line

def isBlank (c : Char) : Bool := c == ' ' || c == '\t'

def skipBlank (cs : List Char) : List Char := cs.dropWhile isBlank

def isPrintable (c : Char) : Bool :=
  c == '\t' || (' ' ≤ c && c ≤ '~') || 0x80 ≤ c.toNat

def skipComment : List Char → List Char
  | '#' :: cs => cs.dropWhile isPrintable
  | cs => cs

def newline? : List Char → Option (List Char)
  | '\n' :: cs => some cs
  | '\r' :: '\n' :: cs => some cs
  | _ => none

def lineEnd? (cs : List Char) : Option (List Char) :=
  match skipComment (skipBlank cs) with
  | [] => some []
  | cs => newline? cs

theorem length_newline?_lt {cs ds : List Char} (h : newline? cs = some ds) :
    ds.length < cs.length := by
  rw [newline?.eq_def] at h
  split at h
  · obtain rfl := Option.some.inj h
    exact Nat.lt_succ_self _
  · obtain rfl := Option.some.inj h
    exact Nat.lt_add_of_pos_right (Nat.succ_pos 1)
  · contradiction

def skipBlankLines (cs : List Char) : List Char :=
  match _h : newline? (skipBlank cs) with
  | none => skipBlank cs
  | some ds => skipBlankLines ds
termination_by cs.length
decreasing_by
  have := length_newline?_lt _h
  have := (List.dropWhile_suffix isBlank (l := cs)).length_le
  simp only [skipBlank] at *
  omega

theorem length_skipBlankLines_le (cs : List Char) : (skipBlankLines cs).length ≤ cs.length := by
  fun_induction skipBlankLines cs with
  | case1 cs => exact (List.dropWhile_suffix isBlank).length_le
  | case2 cs ds h ih =>
    have := length_newline?_lt h
    have := (List.dropWhile_suffix isBlank (l := cs)).length_le
    simp only [skipBlank] at *
    omega

end QueryLexer.Toml.Line
