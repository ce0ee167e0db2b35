/-!
The settings of a lexer. With whitespace skipped the lexer gives no lexeme of it, and looks for a
regular expression behind it: asked for one on ` /a/` it then gives the expression, and otherwise
the whitespace. Reporting changes the report alone.
-/

namespace QueryLexer

structure Settings where
  skipWhitespace : Bool
  reportDiagnostics : Bool
  deriving DecidableEq

def Settings.standard : Settings := ⟨false, true⟩

def Settings.render (s : Settings) : String :=
  s!"skip_whitespace = {s.skipWhitespace}\nreport_diagnostics = {s.reportDiagnostics}\n"

end QueryLexer
