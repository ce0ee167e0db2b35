import QueryLexer.Keyword
import QueryLexer.Symbol

namespace QueryLexer

inductive Token
  | eof
  | illegal
  | whitespace
  | ident
  | string
  | badString
  | badEscape
  | integer
  | float
  | regex
  | keyword (k : Keyword)
  | symbol (s : Symbol)
  deriving DecidableEq

namespace Token

def render : Token → String
  | eof => "EOF"
  | illegal => "ILLEGAL"
  | whitespace => "WS"
  | ident => "IDENT"
  | string => "STRING"
  | badString => "BADSTRING"
  | badEscape => "BADESCAPE"
  | integer => "INTEGER"
  | float => "FLOAT"
  | regex => "REGEX"
  | keyword k => k.spelling
  | symbol s => s.spelling

def isKeyword : Token → Bool
  | keyword _ => true
  | _ => false

def isOperator : Token → Bool
  | keyword .and | keyword .or => true
  | symbol s => !s.isPunctuation
  | _ => false

def isLiteral : Token → Bool
  | ident | string | integer | float | regex => true
  | keyword .true | keyword .false => true
  | _ => false

def isError : Token → Bool
  | illegal | badString | badEscape => true
  | _ => false

def ofIdent (text : String) : Token :=
  match Keyword.ofIdent? text with
  | some k => keyword k
  | none => ident

end Token

end QueryLexer
