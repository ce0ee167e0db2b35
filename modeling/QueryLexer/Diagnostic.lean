import QueryLexer.Position
import QueryLexer.Diagnostic.Code

namespace QueryLexer

inductive Severity
  | error
  | warning
  deriving DecidableEq

def Severity.render : Severity → String
  | .error => "error"
  | .warning => "warning"

structure Diagnostic where
  severity : Severity
  message : String
  pos : Position
  code : Option Diagnostic.Code
  helps : List String
  deriving DecidableEq

namespace Diagnostic

def error (message : String) (pos : Position) : Diagnostic :=
  ⟨.error, message, pos, none, []⟩

def warning (message : String) (pos : Position) : Diagnostic :=
  ⟨.warning, message, pos, none, []⟩

def withCode (d : Diagnostic) (c : Code) : Diagnostic :=
  { d with code := some c }

def withHelp (d : Diagnostic) (help : String) : Diagnostic :=
  { d with helps := d.helps ++ [help] }

def label (d : Diagnostic) : String :=
  match d.code with
  | none => d.severity.render
  | some c => s!"{d.severity.render}[{c.render}]"

def render (d : Diagnostic) : String :=
  d.helps.foldl (fun text help => s!"{text}\n  help: {help}")
    s!"{d.label}: {d.message} at {d.pos.render}"

end Diagnostic

end QueryLexer
