import QueryLexer.Letter

namespace QueryLexer

def isWhitespace (c : Char) : Bool :=
  c == ' ' || c == '\t' || c == '\n'

def isIdentStart (c : Char) : Bool :=
  isLetter c || c == '_' || c == '@'

def isIdentContinue (c : Char) : Bool :=
  isLetter c || c.isDigit || c == '_'

def isQuote (c : Char) : Bool :=
  c == '"' || c == '\''

end QueryLexer
