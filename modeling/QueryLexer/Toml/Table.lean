import QueryLexer.Toml.Value

namespace QueryLexer.Toml

inductive Origin
  | header
  | implied
  | dotted
  deriving DecidableEq

/-- What a key stands for. Of an array of tables only the last one can be added to. -/
inductive Node
  | value (v : Value)
  | table (origin : Origin) (entries : List (String × Node))
  | series (closed : List (List (String × Node))) (last : List (String × Node))

abbrev Table := List (String × Node)

namespace Table

def alter? (key : String) (f : Option Node → Option Node) : Table → Option Table
  | [] => (f none).map fun node => [(key, node)]
  | (k, node) :: entries =>
    if k = key then (f (some node)).map fun node => (k, node) :: entries
    else (alter? key f entries).map ((k, node) :: ·)

def add? (path : List String) (key : String) (v : Value) (t : Table) : Option Table :=
  match path with
  | [] => t.alter? key fun
    | none => some (.value v)
    | some _ => none
  | p :: path => t.alter? p fun
    | none => (add? path key v []).map (.table .dotted)
    | some (.table .dotted entries) => (add? path key v entries).map (.table .dotted)
    | some (.table .implied entries) =>
      if path.isEmpty then none else (add? path key v entries).map (.table .implied)
    | some (.series closed last) =>
      if path.isEmpty then none else (add? path key v last).map (.series closed)
    | some (.table .header _) | some (.value _) => none

def within? (path : List String) (f : Table → Option Table) (t : Table) : Option Table :=
  match path with
  | [] => f t
  | p :: path => t.alter? p fun
    | none => (within? path f []).map (.table .implied)
    | some (.table origin entries) => (within? path f entries).map (.table origin)
    | some (.series closed last) => (within? path f last).map (.series closed)
    | some (.value _) => none

def openTable? (path : List String) (key : String) : Table → Option Table :=
  within? path (·.alter? key fun
    | none => some (.table .header [])
    | some (.table .implied entries) => some (.table .header entries)
    | some _ => none)

def openNext? (path : List String) (key : String) : Table → Option Table :=
  within? path (·.alter? key fun
    | none => some (.series [] [])
    | some (.series closed last) => some (.series (closed ++ [last]) [])
    | some _ => none)

mutual

def valueOf : Node → Value
  | .value v => v
  | .table _ entries => .table (valuesOf entries)
  | .series closed last => .array (tablesOf closed ++ [.table (valuesOf last)])

def valuesOf : List (String × Node) → List (String × Value)
  | [] => []
  | (key, node) :: entries => (key, valueOf node) :: valuesOf entries

def tablesOf : List (List (String × Node)) → List Value
  | [] => []
  | entries :: tables => .table (valuesOf entries) :: tablesOf tables

end

end Table

end QueryLexer.Toml
