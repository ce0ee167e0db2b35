import QueryLexer.Toml.Quotation
import QueryLexer.Toml.Table
import QueryLexer.Toml.Time

/-!
Reading TOML documents. A document has to be valid as a whole to be read at all.
-/

namespace QueryLexer.Toml

/-- Arrays and inline tables may be nested, and keys dotted, to fewer levels than this. -/
def nestingLimit : Nat := 80

namespace Value

open Line Quotation

def isBareKey (c : Char) : Bool :=
  c.isAlphanum || c == '_' || c == '-'

def readKey? : List Char → Option (String × List Char)
  | '"' :: cs => readBasic? "" cs
  | '\'' :: cs => readLiteral? cs
  | cs =>
    match cs.takeWhile isBareKey with
    | [] => none
    | key => some (String.ofList key, cs.dropWhile isBareKey)

def readKeys? : Nat → List Char → Option (List String × List Char)
  | 0, _ => none
  | n + 1, cs => do
    let (key, cs) ← readKey? (skipBlank cs)
    match skipBlank cs with
    | '.' :: cs =>
      let (keys, cs) ← readKeys? n cs
      some (key :: keys, cs)
    | cs => some ([key], cs)

def readPath? (cs : List Char) : Option (List String × String × List Char) := do
  let (keys, cs) ← readKeys? (nestingLimit - 1) cs
  some (keys.dropLast, ← keys.getLast?, cs)

def isWordChar (c : Char) : Bool :=
  c.isAlphanum || c == '_' || c == '+' || c == '-' || c == '.' || c == ':'

def ofWord? (word : List Char) : Option Value :=
  if word = ['t', 'r', 'u', 'e'] then some (boolean true)
  else if word = ['f', 'a', 'l', 's', 'e'] then some (boolean false)
  else match Number.integer? word with
    | some n => some (integer n)
    | none =>
      if Number.isFloat word then some (float (String.ofList word))
      else if Time.isWord word then some (time (String.ofList word))
      else none

/-- Reads a value without parts. A blank may stand between a date and a time. -/
def readWord? (cs : List Char) : Option (Value × List Char) :=
  let word := cs.takeWhile isWordChar
  let cs := cs.dropWhile isWordChar
  let later := cs.tail.takeWhile isWordChar
  if Time.isDate word ∧ cs.head? = some ' ' ∧ Time.isOffsetTime later then
    some (time (String.ofList (word ++ ' ' :: later)), cs.tail.dropWhile isWordChar)
  else (ofWord? word).map (·, cs)

def skipLines : Nat → List Char → List Char
  | 0, cs => cs
  | n + 1, cs =>
    match newline? (skipComment (skipBlank cs)) with
    | some cs => skipLines n cs
    | none => skipBlank cs

def readItems? (item? : List Char → Option (Value × List Char)) :
    Nat → List Char → Option (List Value × List Char)
  | 0, _ => none
  | n + 1, cs =>
    match skipLines cs.length cs with
    | ']' :: cs => some ([], cs)
    | cs => do
      let (v, cs) ← item? cs
      match skipLines cs.length cs with
      | ']' :: cs => some ([v], cs)
      | ',' :: cs =>
        let (vs, cs) ← readItems? item? n cs
        some (v :: vs, cs)
      | _ => none

def readEntries? (item? : List Char → Option (Value × List Char)) :
    Nat → Table → List Char → Option (Table × List Char)
  | 0, _, _ => none
  | n + 1, entries, cs => do
    let (path, key, cs) ← readPath? cs
    match cs with
    | '=' :: cs =>
      let (v, cs) ← item? (skipBlank cs)
      let entries ← entries.add? path key v
      match skipBlank cs with
      | '\x7d' :: cs => some (entries, cs)
      | ',' :: cs => readEntries? item? n entries cs
      | _ => none
    | _ => none

def read? : Nat → List Char → Option (Value × List Char)
  | levels, cs =>
    match levels, cs with
    | _, '"' :: _ | _, '\'' :: _ => (readString? cs).map fun (text, cs) => (string text, cs)
    | 0, '[' :: _ | 0, '\x7b' :: _ => none
    | n + 1, '[' :: cs =>
      (readItems? (read? n) (cs.length + 1) cs).map fun (vs, cs) => (array vs, cs)
    | n + 1, '\x7b' :: cs =>
      match skipBlank cs with
      | '\x7d' :: cs => some (table [], cs)
      | cs =>
        (readEntries? (read? n) (cs.length + 1) [] cs).map fun (entries, cs) =>
          (table (Table.valuesOf entries), cs)
    | _, cs => readWord? cs

end Value

structure Document where
  root : Table
  path : List String

namespace Document

open Line

def readHeader? (close : List Char) (cs : List Char) :
    Option (List String × String × List Char) := do
  let (path, key, cs) ← Value.readPath? cs
  if close.isPrefixOf cs then some (path, key, ← lineEnd? (cs.drop close.length)) else none

def readEntry? (cs : List Char) : Option ((List String × String × Value) × List Char) := do
  let (path, key, cs) ← Value.readPath? cs
  match cs with
  | '=' :: cs =>
    let (v, cs) ← Value.read? (nestingLimit - 1) (skipBlank cs)
    some ((path, key, v), ← lineEnd? cs)
  | _ => none

def readLine? (d : Document) (cs : List Char) : Option (Document × List Char) :=
  match skipBlank cs with
  | '[' :: '[' :: cs => do
    let (path, key, cs) ← readHeader? [']', ']'] cs
    some (⟨← d.root.openNext? path key, path ++ [key]⟩, cs)
  | '[' :: cs => do
    let (path, key, cs) ← readHeader? [']'] cs
    some (⟨← d.root.openTable? path key, path ++ [key]⟩, cs)
  | cs =>
    match lineEnd? cs with
    | some cs => some (d, cs)
    | none => do
      let ((path, key, v), cs) ← readEntry? cs
      some ({ d with root := ← d.root.within? d.path (·.add? path key v) }, cs)

def readLines? : Nat → Document → List Char → Option Document
  | _, d, [] => some d
  | 0, _, _ => none
  | n + 1, d, cs => do
    let (d, cs) ← d.readLine? cs
    readLines? n d cs

end Document

def parse? (text : String) : Option (List (String × Value)) :=
  let cs := match text.toList with
    | '\ufeff' :: cs => cs
    | cs => cs
  (Document.readLines? (cs.length + 1) ⟨[], []⟩ cs).map fun d => Table.valuesOf d.root

end QueryLexer.Toml
