import QueryLexer.CharReader
import QueryLexer.Lexeme

namespace QueryLexer.Lexeme

open CharReader

variable {κ : Type} [CharReader κ]

/-- Reads the body onto the end of what is read so far. A backslash before a slash is dropped,
any other is kept. The closing slash is read, a line feed is not. -/
def readRegexBody (body : String) (k : κ) : String × κ :=
  match _h : CharReader.read k with
  | (none, k') => (body, k')
  | (some c, k₁) =>
    if c = '/' then (body, k₁)
    else if c = '\n' then (body, unread k₁)
    else if c = '\\' then
      let next := matchChar '/' k₁
      readRegexBody (body.push (bif next.1 then '/' else '\\')) next.2
    else readRegexBody (body.push c) k₁
termination_by (rest k).length
decreasing_by
  · exact Nat.lt_of_le_of_lt (matchChar_suffix '/' k₁).length_le (length_rest_lt _h)
  · exact length_rest_lt _h

theorem readRegexBody_suffix (body : String) (k : κ) :
    rest (readRegexBody body k).2 <:+ rest k := by
  fun_induction readRegexBody body k with
  | case1 body k k' h => simp [rest_read_of_none h]
  | case2 body k k₁ h => exact suffix_of_some h
  | case3 body k k₁ h => simp [rest_of_some h, rest_unread_of_some h]
  | case4 body k k₁ next h _ _ ih =>
    exact ih.trans ((matchChar_suffix '/' k₁).trans (suffix_of_some h))
  | case5 body k c k₁ h _ _ _ ih => exact ih.trans (suffix_of_some h)

end QueryLexer.Lexeme
