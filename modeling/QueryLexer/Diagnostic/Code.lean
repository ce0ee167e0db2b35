namespace QueryLexer.Diagnostic

structure Code where
  series : String
  number : UInt32
  deriving DecidableEq

namespace Code

def unexpectedCharacter : Code := ⟨"E", 1001⟩

def unterminatedString : Code := ⟨"E", 1002⟩

def invalidEscape : Code := ⟨"E", 1003⟩

def notARegex : Code := ⟨"W", 1001⟩

def paddedDigits (n : Nat) : List Char :=
  (Nat.toDigits 10 n).leftpad 4 '0'

def render (c : Code) : String :=
  c.series ++ String.ofList (paddedDigits c.number.toNat)

def inspect (c : Code) : String :=
  "DiagnosticCode(" ++ c.render ++ ")"

def isError (c : Code) : Bool :=
  c.series == "E"

end Code

end QueryLexer.Diagnostic
