import QueryLexer.Settings
import QueryLexer.Toml.Document

namespace QueryLexer.Settings

inductive Malformed
  | document
  | value (key : String)
  deriving DecidableEq

def Malformed.message : Malformed → String
  | _ => "invalid scanner configuration"

def boolean (entries : List (String × Toml.Value)) (key : String) (missing : Bool) :
    Except Malformed Bool :=
  match entries.lookup key with
  | none => .ok missing
  | some (.boolean b) => .ok b
  | some _ => .error (.value key)

def ofEntries (entries : List (String × Toml.Value)) : Except Malformed Settings := do
  let skipWhitespace ← boolean entries "skip_whitespace" standard.skipWhitespace
  let reportDiagnostics ← boolean entries "report_diagnostics" standard.reportDiagnostics
  .ok ⟨skipWhitespace, reportDiagnostics⟩

/-- What a document says is for `parse?` to tell: its keys with their values, or nothing where it is
not well formed. -/
def read (parse? : String → Option (List (String × Toml.Value))) (text : String) :
    Except Malformed Settings :=
  match parse? text with
  | none => .error .document
  | some entries => ofEntries entries

def ofToml : String → Except Malformed Settings :=
  read Toml.parse?

end QueryLexer.Settings
