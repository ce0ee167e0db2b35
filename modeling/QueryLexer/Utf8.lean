namespace QueryLexer.Utf8

structure Fault where
  index : Nat
  length : Option Nat
  deriving DecidableEq

def Fault.message (f : Fault) : String :=
  match f.length with
  | some n => s!"invalid utf-8 sequence of {n} bytes from index {f.index}"
  | none => s!"incomplete utf-8 byte sequence from index {f.index}"

/-- The ranges of the bytes behind the first byte of a longer character. Overlong forms,
surrogates and what lies beyond the last code point are ruled out by the first range. -/
def followers? (first : UInt8) : Option (List (UInt8 × UInt8)) :=
  if 0xC2 ≤ first ∧ first ≤ 0xDF then some [(0x80, 0xBF)]
  else if first = 0xE0 then some [(0xA0, 0xBF), (0x80, 0xBF)]
  else if first = 0xED then some [(0x80, 0x9F), (0x80, 0xBF)]
  else if 0xE1 ≤ first ∧ first ≤ 0xEF then some [(0x80, 0xBF), (0x80, 0xBF)]
  else if first = 0xF0 then some [(0x90, 0xBF), (0x80, 0xBF), (0x80, 0xBF)]
  else if 0xF1 ≤ first ∧ first ≤ 0xF3 then some [(0x80, 0xBF), (0x80, 0xBF), (0x80, 0xBF)]
  else if first = 0xF4 then some [(0x80, 0x8F), (0x80, 0xBF), (0x80, 0xBF)]
  else none

def mismatch? (read : Nat) : List (UInt8 × UInt8) → List UInt8 → Option Nat
  | (lo, hi) :: ranges, b :: bytes =>
    if lo ≤ b ∧ b ≤ hi then mismatch? (read + 1) ranges bytes else some read
  | _, _ => none

def faultLength? : List UInt8 → Option Nat
  | [] => none
  | first :: bytes =>
    match followers? first with
    | none => some 1
    | some ranges => mismatch? 1 ranges bytes

def faultIndex (bytes : ByteArray) (i : Nat) : Nat :=
  match h : bytes.utf8DecodeChar? i with
  | none => i
  | some c =>
    have := ByteArray.le_size_of_utf8DecodeChar?_eq_some h
    have := c.utf8Size_pos
    faultIndex bytes (i + c.utf8Size)
termination_by bytes.size - i

def faultOf (bytes : ByteArray) : Fault :=
  let i := faultIndex bytes 0
  ⟨i, faultLength? (bytes.toList.drop i)⟩

def decode (bytes : ByteArray) : Except Fault String :=
  match String.fromUTF8? bytes with
  | some text => .ok text
  | none => .error (faultOf bytes)

end QueryLexer.Utf8
