namespace QueryLexer.Toml

inductive Value
  | boolean (b : Bool)
  | integer (n : Int)
  | float (spelling : String)
  | time (spelling : String)
  | string (text : String)
  | array (items : List Value)
  | table (entries : List (String × Value))

end QueryLexer.Toml
