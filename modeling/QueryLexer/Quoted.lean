import QueryLexer.Cursor

namespace QueryLexer.Quoted

def unescape? (quote c : Char) : Option Char :=
  if c = 'n' then some '\n'
  else if c = '\\' ∨ c = quote then some c
  else none

def escape (quote c : Char) : List Char :=
  if c = '\\' then ['\\', '\\']
  else if c = '\n' then ['\\', 'n']
  else if c = quote then ['\\', quote]
  else [c]

def encode (text : String) (quote : Char) : String :=
  String.ofList (quote :: (text.toList.flatMap (escape quote) ++ [quote]))

/-- How a literal ends, with its content so far, or with the escaped character that has no
meaning and the position of the backslash before it. -/
inductive Ending
  | closed (content : String)
  | unterminated (content : String)
  | badEscape (c : Char) (pos : Position)
  deriving DecidableEq

section

open CharReader

variable {κ : Type} [CharReader κ]

/-- Reads behind the opening quote, onto the end of the content so far. A line feed is left
unread; a closing quote and an escape, good or bad, are read. -/
def readBody (quote : Char) (content : String) (k : κ) : Ending × κ :=
  match _h : read k with
  | (none, k') => (.unterminated content, k')
  | (some c, k₁) =>
    if c = quote then (.closed content, k₁)
    else if c = '\n' then (.unterminated content, unread k₁)
    else if c = '\\' then
      match _h₁ : read k₁ with
      | (none, k₂) => (.unterminated content, k₂)
      | (some e, k₂) =>
        match unescape? quote e with
        | some d => readBody quote (content.push d) k₂
        | none => (.badEscape e (pos k), k₂)
    else readBody quote (content.push c) k₁
termination_by (rest k).length
decreasing_by
  · exact Nat.lt_trans (length_rest_lt _h₁) (length_rest_lt _h)
  · exact length_rest_lt _h

theorem readBody_suffix (quote : Char) (content : String) (k : κ) :
    rest (readBody quote content k).2 <:+ rest k := by
  fun_induction readBody quote content k with
  | case1 content k k' h => simp [rest_read_of_none h]
  | case2 content k k₁ h => exact suffix_of_some h
  | case3 content k k₁ h => simp [rest_of_some h, rest_unread_of_some h]
  | case4 content k k₁ k₂ h₁ h => simp [rest_read_of_none h₁]
  | case5 content k k₁ e k₂ h₁ d _ h _ _ ih =>
    exact ih.trans ((suffix_of_some h₁).trans (suffix_of_some h))
  | case6 content k k₁ e k₂ h₁ _ h => exact (suffix_of_some h₁).trans (suffix_of_some h)
  | case7 content k c k₁ h _ _ _ ih => exact ih.trans (suffix_of_some h)

end

inductive DecodeError
  | unterminated (content : String)
  | badEscape (c : Char)
  deriving DecidableEq

def DecodeError.message : DecodeError → String
  | unterminated _ => "bad string"
  | badEscape _ => "bad escape"

def DecodeError.text : DecodeError → String
  | unterminated content => content
  | badEscape c => String.ofList ['\\', c]

def Ending.toExcept : Ending → Except DecodeError String
  | closed content => .ok content
  | unterminated content => .error (.unterminated content)
  | badEscape c _ => .error (.badEscape c)

/-- Decodes a literal whose delimiter is the first character of the text. What follows the
closing delimiter is ignored. -/
def decode (text : String) : Except DecodeError String :=
  match (Cursor.ofSource text.toList).read with
  | (none, _) => .error (.unterminated "")
  | (some quote, k) => (readBody quote "" k).1.toExcept

end QueryLexer.Quoted
