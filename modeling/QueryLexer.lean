import QueryLexer.Intake
import QueryLexer.Session
import QueryLexer.Settings.Toml
import QueryLexer.Proofs.Lexer.Longest
import QueryLexer.Proofs.Lexer.Relocation
import QueryLexer.Proofs.Lexer.Tiling
import QueryLexer.Proofs.Lookahead.History
import QueryLexer.Proofs.Cursor.Place
import QueryLexer.Proofs.Quoted.Grammar
import QueryLexer.Proofs.Lexer.Reporting
import QueryLexer.Proofs.Quoted.RoundTrip
import QueryLexer.Proofs.Session.Reporting
import QueryLexer.Proofs.Lexer.Skipping
import QueryLexer.Proofs.Lexer.Printing
import QueryLexer.Proofs.Lexer.Lines
import QueryLexer.Proofs.Session.SameButSource
import QueryLexer.Proofs.Lexer.Order
import QueryLexer.Proofs.Intake
import QueryLexer.Proofs.Lexer.Regex
import QueryLexer.Proofs.Lexer.Slash
import QueryLexer.Proofs.Lexer.Quoted
import QueryLexer.Proofs.Lookahead.Regex
import QueryLexer.Proofs.Lookahead.Whitespace
import QueryLexer.Proofs.Session.Pushback
import QueryLexer.Proofs.Session.Noninterference
import QueryLexer.Proofs.Token
import QueryLexer.Proofs.Settings
import QueryLexer.Proofs.Source.Text
import QueryLexer.Proofs.Position.Counters
import QueryLexer.Proofs.Diagnostic.Code
