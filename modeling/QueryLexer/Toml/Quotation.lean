import QueryLexer.Toml.Line
import QueryLexer.Toml.Number

namespace QueryLexer.Toml.Quotation

open Line

def ofHex? (digits : List Char) : Option Char :=
  let n := Number.value 16 digits
  if digits.all Number.isHexDigit ∧ n.isValidChar then some (Char.ofNat n) else none

def escape? : List Char → Option (Char × Nat)
  | 'b' :: _ => some ('\x08', 1)
  | 't' :: _ => some ('\t', 1)
  | 'n' :: _ => some ('\n', 1)
  | 'f' :: _ => some ('\x0c', 1)
  | 'r' :: _ => some ('\r', 1)
  | '"' :: _ => some ('"', 1)
  | '\\' :: _ => some ('\\', 1)
  | 'u' :: cs => if cs.length < 4 then none else (ofHex? (cs.take 4)).map (·, 5)
  | 'U' :: cs => if cs.length < 8 then none else (ofHex? (cs.take 8)).map (·, 9)
  | _ => none

def readBasic? (text : String) (cs : List Char) : Option (String × List Char) :=
  match cs with
  | [] => none
  | '"' :: cs => some (text, cs)
  | '\\' :: cs =>
    match escape? cs with
    | none => none
    | some (c, n) => readBasic? (text.push c) (cs.drop n)
  | c :: cs => if isPrintable c then readBasic? (text.push c) cs else none
termination_by cs.length
decreasing_by
  · exact Nat.lt_succ_of_le (List.drop_suffix n cs).length_le
  · exact Nat.lt_succ_self _

def readLiteral? (cs : List Char) : Option (String × List Char) :=
  let inside (c : Char) : Bool := isPrintable c && c != '\''
  match cs.dropWhile inside with
  | '\'' :: ds => some (String.ofList (cs.takeWhile inside), ds)
  | _ => none

def continuation? (cs : List Char) : Option (List Char) :=
  (newline? (skipBlank cs)).map skipBlankLines

theorem length_continuation?_lt {cs ds : List Char} (h : continuation? cs = some ds) :
    ds.length < cs.length := by
  obtain ⟨es, he, rfl⟩ := Option.map_eq_some_iff.1 h
  have := length_newline?_lt he
  have := length_skipBlankLines_le es
  have := (List.dropWhile_suffix isBlank (l := cs)).length_le
  simp only [skipBlank] at *
  omega

/-- Reads a string of several lines behind its three quotes. Of the quotes in a row that end it,
up to two belong to the text. Only between double quotes does a backslash escape. -/
def readLines? (quote : Char) (text : String) (cs : List Char) : Option (String × List Char) :=
  match cs with
  | [] => none
  | c :: cs =>
    if c = quote then
      let run := (cs.takeWhile (· == quote)).length + 1
      if run < 3 then readLines? quote (text.push c) cs
      else
        let last := min run 5
        some (text.pushn quote (last - 3), (c :: cs).drop last)
    else if c = '\\' ∧ quote = '"' then
      match _h : continuation? cs with
      | some ds => readLines? quote text ds
      | none =>
        match escape? cs with
        | none => none
        | some (e, n) => readLines? quote (text.push e) (cs.drop n)
    else if isPrintable c then readLines? quote (text.push c) cs
    else
      match _h : newline? (c :: cs) with
      | some ds => readLines? quote (text.push '\n') ds
      | none => none
termination_by cs.length
decreasing_by
  · exact Nat.lt_succ_self _
  · exact Nat.lt_succ_of_lt (length_continuation?_lt _h)
  · exact Nat.lt_succ_of_le (List.drop_suffix n cs).length_le
  · exact Nat.lt_succ_self _
  · exact length_newline?_lt _h

def skipNewline (cs : List Char) : List Char := (newline? cs).getD cs

def readString? : List Char → Option (String × List Char)
  | '"' :: '"' :: '"' :: cs => readLines? '"' "" (skipNewline cs)
  | '"' :: cs => readBasic? "" cs
  | '\'' :: '\'' :: '\'' :: cs => readLines? '\'' "" (skipNewline cs)
  | '\'' :: cs => readLiteral? cs
  | _ => none

end QueryLexer.Toml.Quotation
