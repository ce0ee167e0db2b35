namespace QueryLexer

inductive Keyword
  | as
  | asc
  | by
  | desc
  | from
  | group
  | having
  | limit
  | order
  | select
  | where
  | and
  | or
  | true
  | false
  deriving DecidableEq

def Keyword.all : List Keyword :=
  [.as, .asc, .«by», .desc, .«from», .group, .having, .limit, .order, .select, .«where»,
    .and, .or, .true, .false]

def Keyword.spelling : Keyword → String
  | .as => "AS"
  | .asc => "ASC"
  | .«by» => "BY"
  | .desc => "DESC"
  | .«from» => "FROM"
  | .group => "GROUP"
  | .having => "HAVING"
  | .limit => "LIMIT"
  | .order => "ORDER"
  | .select => "SELECT"
  | .«where» => "WHERE"
  | .and => "AND"
  | .or => "OR"
  | .true => "TRUE"
  | .false => "FALSE"

def Keyword.ofCapitals? : String → Option Keyword
  | "AND" => some .and
  | "AS" => some .as
  | "ASC" => some .asc
  | "BY" => some .«by»
  | "DESC" => some .desc
  | "FALSE" => some .false
  | "FROM" => some .«from»
  | "GROUP" => some .group
  | "HAVING" => some .having
  | "LIMIT" => some .limit
  | "OR" => some .or
  | "ORDER" => some .order
  | "SELECT" => some .select
  | "TRUE" => some .true
  | "WHERE" => some .«where»
  | _ => none

/-- ASCII letters count as equal in either case. No keyword has more than six bytes, so a longer
identifier is refused at once. -/
def Keyword.ofIdent? (text : String) : Option Keyword :=
  if 6 < text.utf8ByteSize then none
  else Keyword.ofCapitals? (text.map Char.toUpper)

@[simp] theorem Keyword.ofCapitals?_spelling (k : Keyword) :
    Keyword.ofCapitals? k.spelling = some k := by
  cases k <;> simp [Keyword.ofCapitals?, Keyword.spelling]

theorem Keyword.mem_all (k : Keyword) : k ∈ Keyword.all := by cases k <;> decide

end QueryLexer
