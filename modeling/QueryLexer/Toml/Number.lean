namespace QueryLexer.Toml.Number

def ungroup? (isDigit : Char → Bool) : List Char → Option (List Char)
  | [] => none
  | [c] => if isDigit c then some [c] else none
  | c :: '_' :: cs => if isDigit c then (ungroup? isDigit cs).map (c :: ·) else none
  | c :: cs => if isDigit c then (ungroup? isDigit cs).map (c :: ·) else none

def decimal? (cs : List Char) : Option (List Char) :=
  match ungroup? Char.isDigit cs with
  | some ('0' :: _ :: _) => none
  | digits => digits

def digitValue (c : Char) : Nat :=
  if c.isDigit then c.toNat - '0'.toNat else 10 + c.toLower.toNat - 'a'.toNat

def value (base : Nat) (digits : List Char) : Nat :=
  digits.foldl (fun n c => n * base + digitValue c) 0

def isHexDigit (c : Char) : Bool :=
  c.isDigit || ('a' ≤ c.toLower && c.toLower ≤ 'f')

def isBelow (bound : Char) (c : Char) : Bool :=
  '0' ≤ c && c < bound

def unsigned : List Char → Bool × List Char
  | '-' :: cs => (true, cs)
  | '+' :: cs => (false, cs)
  | cs => (false, cs)

/-- Only decimal integers have a sign. All have to fit into 64 bits. -/
def integer? (word : List Char) : Option Int :=
  match word with
  | '0' :: 'x' :: cs => inRange? ((ungroup? isHexDigit cs).map (value 16 ·))
  | '0' :: 'o' :: cs => inRange? ((ungroup? (isBelow '8') cs).map (value 8 ·))
  | '0' :: 'b' :: cs => inRange? ((ungroup? (isBelow '2') cs).map (value 2 ·))
  | _ =>
    let (negative, cs) := unsigned word
    inRange? ((decimal? cs).map fun digits =>
      if negative then -(value 10 digits : Int) else value 10 digits)
where
  inRange? (n : Option Int) : Option Int :=
    n.filter fun n => -0x8000000000000000 ≤ n ∧ n < 0x8000000000000000

/-- Whether a decimal fraction is nearer to infinity than to the greatest double. -/
def overflows (digits : List Char) (exponent : Int) : Bool :=
  let n := value 10 digits
  let size : Int := (digits.dropWhile (· == '0')).length + exponent
  let bound := Nat.pow 2 1024 - Nat.pow 2 970
  if n = 0 ∨ size < 309 then false
  else if 309 < size then true
  else bound * Nat.pow 10 (-exponent).toNat ≤ n * Nat.pow 10 exponent.toNat

def exponent? : List Char → Option Int
  | [] => some 0
  | c :: cs =>
    if c = 'e' ∨ c = 'E' then
      let (negative, cs) := unsigned cs
      (ungroup? Char.isDigit cs).map fun digits =>
        if negative then -(value 10 digits : Int) else value 10 digits
    else none

def isFloat (word : List Char) : Bool :=
  let (negative, cs) := unsigned word
  if cs = ['i', 'n', 'f'] ∨ cs = ['n', 'a', 'n'] then true
  else
    let inNumeral (c : Char) : Bool := c.isDigit || c == '_'
    let whole := cs.takeWhile inNumeral
    match decimal? whole, cs.dropWhile inNumeral with
    | none, _ => false
    | some _, [] => false
    | some digits, '.' :: cs =>
      match ungroup? Char.isDigit (cs.takeWhile inNumeral), exponent? (cs.dropWhile inNumeral) with
      | some decimals, some e => negative || !overflows (digits ++ decimals) (e - decimals.length)
      | _, _ => false
    | some digits, cs =>
      match exponent? cs with
      | some e => negative || !overflows digits e
      | none => false

end QueryLexer.Toml.Number
