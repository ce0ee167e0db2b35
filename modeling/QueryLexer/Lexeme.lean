import QueryLexer.Position
import QueryLexer.Token

namespace QueryLexer

structure Lexeme where
  token : Token
  pos : Position
  literal : String
  deriving DecidableEq

end QueryLexer
