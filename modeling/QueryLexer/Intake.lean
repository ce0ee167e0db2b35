import QueryLexer.Lexer
import QueryLexer.Utf8

namespace QueryLexer.Intake

inductive Outcome
  | chunk (bytes : ByteArray)
  | interrupted
  | failed (message : String)

inductive Failure
  | stream (message : String)
  | encoding (fault : Utf8.Fault)
  deriving DecidableEq

def Failure.message : Failure → String
  | stream message => s!"failed to read query text: {message}"
  | encoding fault => s!"query text is not valid UTF-8: {fault.message}"

/-- An empty chunk ends the stream; an interruption is passed over; a failure stops at once. -/
def gather (bytes : ByteArray) : List Outcome → Except Failure ByteArray
  | [] => .ok bytes
  | .chunk b :: outcomes => if b.isEmpty then .ok bytes else gather (bytes ++ b) outcomes
  | .interrupted :: outcomes => gather bytes outcomes
  | .failed message :: _ => .error (.stream message)

def text (outcomes : List Outcome) : Except Failure String := do
  let bytes ← gather .empty outcomes
  (Utf8.decode bytes).mapError .encoding

def lexer (outcomes : List Outcome) : Except Failure (Lexer (Cursor Text)) :=
  (text outcomes).map fun t => .ofText (.ofString t) .standard

end QueryLexer.Intake
