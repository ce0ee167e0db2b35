import QueryLexer.CharClass
import QueryLexer.Lexeme
import QueryLexer.Quoted

namespace QueryLexer.Lexeme

open CharReader

/-- A malformed escape has the position of its backslash, all else that of the opening quote. -/
def ofEnding (start : Position) : Quoted.Ending → Lexeme
  | .closed content => ⟨.string, start, content⟩
  | .unterminated content => ⟨.badString, start, content⟩
  | .badEscape c pos => ⟨.badEscape, pos, String.ofList ['\\', c]⟩

def ofWord (start : Position) (text : String) : Lexeme :=
  match Keyword.ofIdent? text with
  | some k => ⟨.keyword k, start, ""⟩
  | none => ⟨.ident, start, text⟩

def ofChar (start : Position) (c : Char) : Lexeme :=
  match Symbol.ofChar? c with
  | some s => ⟨.symbol s, start, ""⟩
  | none => ⟨.illegal, start, String.singleton c⟩

variable {κ : Type} [CharReader κ]

def readWhitespace (start : Position) (k : κ) : Lexeme × κ :=
  let run := readWhile isWhitespace "" k
  (⟨.whitespace, start, run.1⟩, run.2)

def readString (quote : Char) (start : Position) (k : κ) : Lexeme × κ :=
  let body := Quoted.readBody quote "" k
  (ofEnding start body.1, body.2)

def readNumber (start : Position) (k : κ) : Lexeme × κ :=
  let digits := readWhile Char.isDigit "" k
  let dot := matchChar '.' digits.2
  if dot.1 then
    let text := readWhile Char.isDigit (digits.1.push '.') dot.2
    (⟨.float, start, text.1⟩, text.2)
  else (⟨.integer, start, digits.1⟩, dot.2)

/-- The first character of a word is read whatever it is, since it may be an at sign. -/
def readWord (start : Position) (k : κ) : Lexeme × κ :=
  let first := CharReader.read k
  let text := readWhile isIdentContinue (String.ofList first.1.toList) first.2
  (ofWord start text.1, text.2)

def matchSecond : List (Char × Symbol) → κ → Option Symbol × κ
  | [], k => (none, k)
  | (c, s) :: others, k =>
    let second := matchChar c k
    if second.1 then (some s, second.2) else matchSecond others second.2

def readSymbol (first : Char) (start : Position) (k : κ) : Lexeme × κ :=
  let second := matchSecond (Symbol.longer first) k
  match second.1 with
  | some s => (⟨.symbol s, start, ""⟩, second.2)
  | none => (ofChar start first, second.2)

def readFrom (first : Char) (start : Position) (k : κ) : Lexeme × κ :=
  if isWhitespace first then readWhitespace start (unread k)
  else if isQuote first then readString first start k
  else if first.isDigit then readNumber start (unread k)
  else if isIdentStart first then readWord start (unread k)
  else readSymbol first start k

def read (start : Position) (k : κ) : Lexeme × κ :=
  match CharReader.read k with
  | (none, k') => (⟨.eof, start, ""⟩, k')
  | (some first, k') => readFrom first start k'

theorem readNumber_suffix (start : Position) (k : κ) :
    rest (readNumber start k).2 <:+ (rest k).dropWhile Char.isDigit := by
  have h := matchChar_suffix '.' (readWhile Char.isDigit "" k).2
  rw [rest_readWhile] at h
  simp only [readNumber]
  split
  · exact (readWhile_suffix _ _ _).trans h
  · exact h

theorem readWord_suffix (start : Position) (k : κ) :
    rest (readWord start k).2 <:+ (rest k).tail := by
  rw [← rest_read]
  exact readWhile_suffix _ _ _

theorem matchSecond_suffix (seconds : List (Char × Symbol)) (k : κ) :
    rest (matchSecond seconds k).2 <:+ rest k := by
  induction seconds generalizing k with
  | nil => exact List.suffix_rfl
  | cons second others ih =>
    simp only [matchSecond]
    split
    · exact matchChar_suffix _ k
    · exact (ih _).trans (matchChar_suffix _ k)

theorem readSymbol_suffix (first : Char) (start : Position) (k : κ) :
    rest (readSymbol first start k).2 <:+ rest k := by
  simp only [readSymbol]
  split <;> exact matchSecond_suffix _ k

theorem readFrom_suffix {first : Char} {k k' : κ} (h : CharReader.read k = (some first, k'))
    (start : Position) : rest (readFrom first start k').2 <:+ rest k' := by
  have hu := rest_unread_of_some h
  rw [readFrom]
  split
  -- A run starts with the character that is given back, so what is left is behind that one.
  · next hc =>
    simp only [readWhitespace, rest_readWhile, hu, List.dropWhile_cons_of_pos hc]
    exact List.dropWhile_suffix _
  split
  · exact Quoted.readBody_suffix first "" k'
  split
  · next hc =>
    refine (readNumber_suffix start _).trans ?_
    rw [hu, List.dropWhile_cons_of_pos hc]
    exact List.dropWhile_suffix _
  split
  · simpa only [hu, List.tail_cons] using readWord_suffix start (unread k')
  · exact readSymbol_suffix first start k'

theorem read_suffix (start : Position) (k : κ) : rest (read start k).2 <:+ rest k := by
  rw [read]
  split <;> rename_i hr
  · simp [rest_read_of_none hr]
  · exact (readFrom_suffix hr _).trans (suffix_of_some hr)

theorem length_rest_read_lt (start : Position) {k : κ} (h : rest k ≠ []) :
    (rest (read start k).2).length < (rest k).length := by
  rw [read]
  split <;> rename_i hr
  · exact absurd (rest_of_none hr) h
  · exact Nat.lt_of_le_of_lt (readFrom_suffix hr _).length_le (length_rest_lt hr)

@[simp] theorem token_ofEnding_ne_eof (start : Position) (e : Quoted.Ending) :
    (ofEnding start e).token ≠ .eof := by cases e <;> simp [ofEnding]

@[simp] theorem token_ofWord_ne_eof (start : Position) (text : String) :
    (ofWord start text).token ≠ .eof := by rw [ofWord]; split <;> simp

@[simp] theorem token_ofChar_ne_eof (start : Position) (c : Char) :
    (ofChar start c).token ≠ .eof := by rw [ofChar]; split <;> simp

theorem token_readFrom_ne_eof (first : Char) (start : Position) (k : κ) :
    (readFrom first start k).1.token ≠ .eof := by
  rw [readFrom]
  split
  · simp [readWhitespace]
  split
  · simp [readString]
  split
  · simp only [readNumber]
    split <;> simp
  split
  · simp [readWord]
  · simp only [readSymbol]
    split <;> simp

theorem token_read_eq_eof_iff {start : Position} {k : κ} :
    (read start k).1.token = .eof ↔ rest k = [] := by
  rw [read]
  split <;> rename_i hr
  · simp [rest_of_none hr]
  · simp [token_readFrom_ne_eof, rest_of_some hr]

end QueryLexer.Lexeme
