import QueryLexer.Proofs.Lexer.Content
import QueryLexer.Proofs.Newline
import QueryLexer.Proofs.Quoted.RoundTrip

/-!
Printing lexemes. Main statement: lexemes that are printed with blanks between them come back from
a lexer that skips, each at the position where it was printed, and nothing is reported.
-/

namespace QueryLexer

/-- How a token with its literal may be written. -/
inductive Written : Token → String → List Char → Prop
  | keyword {k : Keyword} {cs : List Char}
      (spelled : (String.ofList cs).map Char.toUpper = k.spelling) : Written (.keyword k) "" cs
  | symbol (s : Symbol) : Written (.symbol s) "" s.spelling.toList
  | ident {c : Char} {cs : List Char} (first : isLetter c = true ∨ c = '_' ∨ c = '@')
      (all : ∀ d ∈ cs, isLetter d = true ∨ d.isDigit = true ∨ d = '_')
      (free : ∀ k : Keyword, (String.ofList (c :: cs)).map Char.toUpper ≠ k.spelling) :
      Written .ident (String.ofList (c :: cs)) (c :: cs)
  | integer {ds : List Char} (nonempty : ds ≠ []) (all : ∀ d ∈ ds, d.isDigit = true) :
      Written .integer (String.ofList ds) ds
  | float {ds fs : List Char} (nonempty : ds ≠ []) (all : ∀ d ∈ ds, d.isDigit = true)
      (fraction : ∀ d ∈ fs, d.isDigit = true) :
      Written .float (String.ofList (ds ++ '.' :: fs)) (ds ++ '.' :: fs)
  | string {q : Char} (text : String) (quote : q = '"' ∨ q = '\'') (plain : '\r' ∉ text.toList) :
      Written .string text (Quoted.encode text q).toList

structure Piece where
  token : Token
  literal : String
  spelling : List Char
  written : Written token literal spelling

structure Gap where
  chars : List Char
  blank : ∀ c ∈ chars, c = ' ' ∨ c = '\t' ∨ c = '\n' ∨ c = '\r'

def print : List (Gap × Piece) → Gap → List Char
  | [], last => last.chars
  | (gap, piece) :: others, last => gap.chars ++ (piece.spelling ++ print others last)

def lexemes (behind : List Char) : List (Gap × Piece) → List Lexeme
  | [] => []
  | (gap, piece) :: others =>
    let before := behind ++ gap.chars
    ⟨piece.token, Position.start.afterAll (Newline.normalize before), piece.literal⟩ ::
      lexemes (before ++ piece.spelling) others

def BlankFirst (following : List Char) : Prop :=
  ∀ c, following.head? = some c → isWhitespace c = true

namespace BlankFirst

variable {following : List Char}

theorem nil : BlankFirst [] := by
  rintro c ⟨⟩

theorem stops (h : BlankFirst following) {p : Char → Bool}
    (hp : p ' ' = false ∧ p '\t' = false ∧ p '\n' = false) : Stops p following := by
  intro c hc
  rcases isWhitespace_iff.1 (h c hc) with rfl | rfl | rfl
  · exact hp.1
  · exact hp.2.1
  · exact hp.2.2

theorem head?_ne (h : BlankFirst following) {c : Char} (hc : isWhitespace c = false) :
    following.head? ≠ some c := by
  intro hhead
  rw [h c hhead] at hc
  cases hc

end BlankFirst

namespace Written

variable {token : Token} {literal : String} {slice following : List Char}

theorem spells (h : Written token literal slice) (blank : BlankFirst following) (p : Position) :
    Lexeme.Spells p following ⟨token, p, literal⟩ slice := by
  have hdigits : Stops Char.isDigit following := blank.stops (by decide)
  have hword : Stops isIdentContinue following := blank.stops (by decide)
  cases h with
  | @keyword k _ spelled =>
    have hall := isAlpha_of_spelled spelled
    cases slice with
    | nil => cases k <;> cases map_toUpper_of_spelled spelled
    | cons c cs =>
      have hletter : ∀ d ∈ c :: cs, isLetter d = true := fun d hd => isLetter_of_isAlpha (hall d hd)
      rw [List.forall_mem_cons] at hletter
      refine .keyword (isIdentStart_iff.2 (.inl hletter.1)) ?_ hword spelled
      exact fun d hd => isIdentContinue_iff.2 (.inl (hletter.2 d hd))
  | symbol s =>
    refine .symbol fun t d ht => blank.head?_ne (Lexeme.isWhitespace_of_mem_spelling (s := t) ?_)
    rw [ht]
    simp
  | ident first all free =>
    refine .ident (isIdentStart_iff.2 first) ?_ hword free
    exact fun d hd => isIdentContinue_iff.2 (all d hd)
  | integer nonempty all => exact .integer nonempty all hdigits (blank.head?_ne rfl)
  | float nonempty all fraction => exact .float nonempty all fraction hdigits
  | string text quote => exact .string literal (isQuote_iff.2 quote)

theorem return_notMem (h : Written token literal slice) : '\r' ∉ slice := by
  cases h with
  | keyword spelled => exact fun hr => absurd (isAlpha_of_spelled spelled _ hr) (by decide)
  | symbol s => cases s <;> decide
  | ident first all =>
    rw [List.mem_cons, not_or]
    constructor
    · rintro rfl
      exact absurd first (by decide)
    · exact fun hr => absurd (all _ hr) (by decide)
  | integer _ all => exact fun hr => absurd (all _ hr) (by decide)
  | float _ all fraction =>
    rw [List.mem_append, List.mem_cons, not_or, not_or]
    refine ⟨fun hr => absurd (all _ hr) (by decide), by decide, ?_⟩
    exact fun hr => absurd (fraction _ hr) (by decide)
  | @string q text quote plain =>
    have hr := Quoted.return_notMem_flatMap q plain
    rw [Quoted.toList_encode, Quoted.opened, List.mem_append, List.mem_cons, not_or, not_or,
      List.mem_singleton]
    rcases quote with rfl | rfl
    · exact ⟨⟨by decide, hr⟩, by decide⟩
    · exact ⟨⟨by decide, hr⟩, by decide⟩

theorem token_ne_whitespace (h : Written token literal slice) : token ≠ .whitespace := by
  cases h <;> exact Token.noConfusion

theorem stops (h : Written token literal slice) (following : List Char) :
    Stops isWhitespace (slice ++ following) := by
  have hspells := h.spells .nil .start
  have hstops := hspells.token_ne_whitespace_iff.1 h.token_ne_whitespace
  cases slice with
  | nil => exact absurd rfl hspells.slice_ne_nil
  | cons c cs => exact hstops

theorem head?_ne_newline (h : Written token literal slice) (following : List Char) :
    (slice ++ following).head? ≠ some '\n' :=
  fun hn => absurd (h.stops following '\n' hn) (by decide)

theorem getLast?_ne_return (h : Written token literal slice) (before : List Char) :
    (before ++ slice).getLast? ≠ some '\r' := by
  have hspells := h.spells .nil .start
  rw [List.getLast?_append, List.getLast?_eq_some_getLast hspells.slice_ne_nil, Option.some_or]
  exact fun hr => h.return_notMem (Option.some.inj hr ▸ List.getLast_mem hspells.slice_ne_nil)

end Written

theorem normalize_print_cons (gap : Gap) (piece : Piece) (others : List (Gap × Piece))
    (last : Gap) :
    Newline.normalize (print ((gap, piece) :: others) last) =
      Newline.normalize gap.chars ++ (piece.spelling ++ Newline.normalize (print others last)) := by
  rw [print, Newline.normalize_append_of_ne (.inr (piece.written.head?_ne_newline _)),
    Newline.normalize_append piece.written.return_notMem]

theorem Gap.isWhitespace_of_mem (gap : Gap) :
    ∀ c ∈ Newline.normalize gap.chars, isWhitespace c = true := by
  intro c hc
  rw [isWhitespace_iff]
  rcases Newline.mem_normalize hc with rfl | hmem
  · exact .inr (.inr rfl)
  · rcases gap.blank c hmem with h | h | h | h
    · exact .inl h
    · exact .inr (.inl h)
    · exact .inr (.inr h)
    · exact absurd (h ▸ hc) (Newline.return_notMem_normalize gap.chars)

theorem blankFirst_print {pieces : List (Gap × Piece)} (apart : ∀ p ∈ pieces, p.1.chars ≠ [])
    (last : Gap) : BlankFirst (Newline.normalize (print pieces last)) := by
  cases pieces with
  | nil => exact fun c hc => last.isWhitespace_of_mem c (List.mem_of_head? hc)
  | cons p others =>
    obtain ⟨gap, piece⟩ := p
    have hgap := Newline.normalize_ne_nil (apart (gap, piece) List.mem_cons_self)
    rw [normalize_print_cons]
    cases hchars : Newline.normalize gap.chars with
    | nil => exact absurd hchars hgap
    | cons d ds =>
      rintro c ⟨⟩
      exact gap.isWhitespace_of_mem d (hchars ▸ List.mem_cons_self)

theorem holds_print {pieces : List (Gap × Piece)} (apart : ∀ p ∈ pieces.tail, p.1.chars ≠ [])
    (last : Gap) (behind : List Char) (hbehind : behind.getLast? ≠ some '\r') :
    Holds (Position.start.afterAll (Newline.normalize behind))
      (Newline.normalize (print pieces last)) (lexemes behind pieces) := by
  induction pieces generalizing behind with
  | nil => exact .blank last.isWhitespace_of_mem
  | cons p others ih =>
    obtain ⟨gap, piece⟩ := p
    have hbefore : Newline.normalize (behind ++ gap.chars) =
        Newline.normalize behind ++ Newline.normalize gap.chars :=
      Newline.normalize_append_of_ne (.inl hbehind)
    have hpiece : Newline.normalize (behind ++ gap.chars ++ piece.spelling) =
        Newline.normalize behind ++ (Newline.normalize gap.chars ++ piece.spelling) := by
      rw [Newline.normalize_append_of_ne (.inr ?_), hbefore,
        Newline.normalize_of_notMem piece.written.return_notMem, List.append_assoc]
      rw [← List.append_nil piece.spelling]
      exact piece.written.head?_ne_newline []
    have hothers := ih (fun p hp => apart p (List.mem_of_mem_tail hp)) _
      (piece.written.getLast?_ne_return (behind ++ gap.chars))
    rw [hpiece, Position.afterAll_append] at hothers
    rw [normalize_print_cons, lexemes, hbefore, Position.afterAll_append]
    exact .lexeme gap.isWhitespace_of_mem (piece.written.spells (blankFirst_print apart last) _)
      piece.written.token_ne_whitespace hothers

theorem Written.diagnostic?_eq {token : Token} {literal : String} {slice : List Char}
    (h : Written token literal slice) (p : Position) :
    Lexeme.diagnostic? ⟨token, p, literal⟩ = none := by
  cases h <;> rfl

theorem diagnostic?_of_mem_lexemes {behind : List Char} {pieces : List (Gap × Piece)} {x : Lexeme}
    (h : x ∈ lexemes behind pieces) : x.diagnostic? = none := by
  induction pieces generalizing behind with
  | nil => cases h
  | cons p others ih =>
    rw [lexemes] at h
    rcases List.mem_cons.1 h with rfl | h
    · exact p.2.written.diagnostic?_eq _
    · exact ih h

theorem Settings.reported_lexemes (s : Settings) (behind : List Char)
    (pieces : List (Gap × Piece)) : s.reported (lexemes behind pieces) = [] := by
  rw [Settings.reported]
  split
  · exact List.filterMap_eq_nil_iff.2 fun x => diagnostic?_of_mem_lexemes
  · rfl

/-- Printed lexemes come back as they were, and then the end. -/
theorem Lexer.stream_print {σ : Type} [Source σ] (source : σ) (reportDiagnostics : Bool)
    (pieces : List (Gap × Piece)) (last : Gap) (apart : ∀ p ∈ pieces.tail, p.1.chars ≠ [])
    (printed : Source.toList source = print pieces last) :
    let l := ofReader (Cursor.ofSource source) ⟨true, reportDiagnostics⟩
    l.stream.1 = lexemes [] pieces ++
        [⟨.eof, Position.start.afterAll (Newline.normalize (print pieces last)), ""⟩] ∧
      l.stream.2.report.toList = [] := by
  intro l
  have hrest : l.rest = Newline.normalize (print pieces last) := by rw [rest_ofReader, printed]
  have hholds : Holds l.pos l.rest (lexemes [] pieces) := by
    rw [hrest]
    exact holds_print apart last [] (by simp)
  have hstream := stream_of_holds hholds rfl
  rw [hstream.1, hstream.2, Settings.reported_lexemes, hrest]
  exact ⟨rfl, rfl⟩

theorem Lexer.stream_print_mixed :
    let text := "SeLeCt\r\n\t'it\\'s' <=\r1. "
    ∃ (pieces : List (Gap × Piece)) (last : Gap),
      (∀ p ∈ pieces.tail, p.1.chars ≠ []) ∧ text.toList = print pieces last ∧
        (pieces.map fun p => String.ofList p.2.spelling) = ["SeLeCt", "'it\\'s'", "<=", "1."] ∧
        (Lexer.ofString text ⟨true, true⟩).stream.1 =
          [⟨.keyword .select, ⟨0, 0⟩, ""⟩, ⟨.string, ⟨1, 1⟩, "it's"⟩, ⟨.symbol .lte, ⟨1, 9⟩, ""⟩,
            ⟨.float, ⟨2, 0⟩, "1."⟩, ⟨.eof, ⟨2, 3⟩, ""⟩] := by
  intro text
  let select : Piece := ⟨_, _, _, @Written.keyword .select "SeLeCt".toList (map_ofList _ _)⟩
  let quoted : Piece := ⟨_, _, _, .string "it's" (.inr rfl) (by decide)⟩
  let lte : Piece := ⟨_, _, _, .symbol .lte⟩
  let one : Piece := ⟨_, _, _, .float (List.cons_ne_nil '1' []) (List.forall_mem_singleton.2 rfl)
    (List.forall_mem_nil _)⟩
  let pieces : List (Gap × Piece) :=
    [(⟨[], by simp⟩, select), (⟨['\r', '\n', '\t'], by simp⟩, quoted), (⟨[' '], by simp⟩, lte),
      (⟨['\r'], by simp⟩, one)]
  let last : Gap := ⟨[' '], by simp⟩
  have hapart : ∀ p ∈ pieces.tail, p.1.chars ≠ [] := by simp [pieces]
  have hprinted : text.toList = print pieces last := by decide
  have hstream := (stream_print text.toList true pieces last hapart hprinted).1
  exact ⟨pieces, last, hapart, hprinted, by decide, hstream.trans (by decide)⟩

end QueryLexer
