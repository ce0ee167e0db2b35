import QueryLexer.Proofs.Lexeme.Regex
import QueryLexer.Proofs.Lexer.Calls

namespace QueryLexer

open CharReader (Takes)

def Token.firstClass : Token → FirstClass
  | whitespace => .whitespace
  | string | badString | badEscape => .quote
  | integer | float => .digit
  | ident | keyword _ => .identStart
  | eof | illegal | regex | symbol _ => .other

theorem Token.firstClass_eq_whitespace_iff {t : Token} :
    t.firstClass = .whitespace ↔ t = .whitespace := by
  cases t <;> simp [firstClass]

theorem FirstClass.of_eq_whitespace_iff {c : Char} :
    of c = whitespace ↔ isWhitespace c = true := by
  constructor
  · intro h
    rcases cases_of c with hc | hc | hc | hc | hc
    · exact hc
    · rw [of_isQuote hc] at h
      cases h
    · rw [of_isDigit hc] at h
      cases h
    · rw [of_isIdentStart hc] at h
      cases h
    · rw [hc] at h
      cases h
  · exact of_isWhitespace

namespace Lexeme.Spells

variable {start : Position} {following : List Char} {x : Lexeme} {c : Char} {cs : List Char}

theorem firstClass_eq (h : x.Spells start following (c :: cs)) :
    FirstClass.of c = x.token.firstClass := by
  generalize hslice : c :: cs = slice at h
  cases h with
  | whitespace _ all => exact FirstClass.of_isWhitespace (all c (hslice ▸ List.mem_cons_self))
  | integer _ all => exact FirstClass.of_isDigit (all c (hslice ▸ List.mem_cons_self))
  | @float ds fs nonempty all =>
    cases ds with
    | nil => exact absurd rfl nonempty
    | cons d ds =>
      cases hslice
      exact FirstClass.of_isDigit (all c List.mem_cons_self)
  | keyword first =>
    cases hslice
    exact FirstClass.of_isIdentStart first
  | ident first =>
    cases hslice
    exact FirstClass.of_isIdentStart first
  | symbol => exact other_of_spelling hslice.symm
  | illegal other =>
    cases hslice
    exact other
  | string text quote =>
    rw [Quoted.toList_encode] at hslice
    cases hslice
    exact FirstClass.of_isQuote quote
  | badString text quote =>
    cases hslice
    exact FirstClass.of_isQuote quote
  | badStringBackslash text quote =>
    cases hslice
    exact FirstClass.of_isQuote quote
  | badEscape text quote =>
    cases hslice
    exact FirstClass.of_isQuote quote

theorem token_ne_whitespace_iff {slice : List Char} (h : x.Spells start following slice) :
    x.token ≠ .whitespace ↔ Stops isWhitespace (slice ++ following) := by
  cases slice with
  | nil => exact absurd rfl h.slice_ne_nil
  | cons c cs =>
    rw [ne_eq, ← Token.firstClass_eq_whitespace_iff, ← h.firstClass_eq,
      FirstClass.of_eq_whitespace_iff]
    constructor
    · intro hc
      exact stops_cons (Bool.not_eq_true _ ▸ hc)
    · intro hstops
      rw [hstops c rfl]
      exact Bool.noConfusion

end Lexeme.Spells

namespace Lexer

section

variable {κ : Type} [CharReader κ] {l : Lexer κ}

theorem token_scan_ne_whitespace_iff :
    l.scan.1.token ≠ .whitespace ↔ Stops isWhitespace l.rest := by
  cases hrest : l.rest with
  | nil =>
    rw [(scan_of_nil hrest).1]
    exact ⟨fun _ => Stops.nil isWhitespace, fun _ => Token.noConfusion⟩
  | cons c cs =>
    obtain ⟨slice, htakes, hspells⟩ := exists_scan (hrest ▸ List.cons_ne_nil c cs)
    have htaken : l.rest = slice ++ l.scan.2.rest := htakes.rest_eq
    rw [hspells.token_ne_whitespace_iff, ← htaken, hrest]

theorem next_of_whitespace (skip : l.settings.skipWhitespace = true)
    (h : l.scan.1.token = .whitespace) : l.next = l.scan.2.next := by
  rw [next_eq, if_pos ⟨h, skip⟩]

theorem next_of_ne (h : l.scan.1.token ≠ .whitespace) :
    l.next = (l.scan.1, l.scan.2.record l.scan.1) := by
  rw [next_eq, if_neg fun hw => h hw.1]

theorem pos_record (l : Lexer κ) (x : Lexeme) : (l.record x).pos = l.pos :=
  congrArg CharReader.pos (reader_record l x)

/-- A lexer has gone on over a slice, and nothing has been reported. -/
structure Moves (l : Lexer κ) (slice : List Char) (l' : Lexer κ) : Prop where
  takes : Takes l.reader slice l'.reader
  settings_eq : l'.settings = l.settings
  report_eq : l'.report = l.report

theorem Moves.refl (l : Lexer κ) : Moves l [] l := ⟨.refl l.reader, rfl, rfl⟩

theorem Moves.trans {l' l'' : Lexer κ} {slice slice' : List Char} (h : Moves l slice l')
    (h' : Moves l' slice' l'') : Moves l (slice ++ slice') l'' :=
  ⟨h.takes.trans h'.takes, h'.settings_eq.trans h.settings_eq, h'.report_eq.trans h.report_eq⟩

theorem Moves.rest_eq_of_append {l' : Lexer κ} {slice following : List Char}
    (h : Moves l slice l') (hrest : l.rest = slice ++ following) : l'.rest = following :=
  h.takes.rest_eq_of_append hrest

theorem Moves.pos_eq {l' : Lexer κ} {slice : List Char} (h : Moves l slice l') :
    l'.pos = l.pos.afterAll slice := h.takes.pos_eq

theorem moves_scan_of_spells {x : Lexeme} {slice following : List Char}
    (hx : x.Spells l.pos following slice) (h : l.rest = slice ++ following) :
    l.scan.1 = x ∧ Moves l slice l.scan.2 :=
  ⟨(scan_of_spells hx h).1, (scan_of_spells hx h).2, rfl, rfl⟩

section

variable {run following : List Char} (all : ∀ c ∈ run, isWhitespace c = true)
  (stops : Stops isWhitespace following) (hrest : l.rest = run ++ following)

include all stops hrest

theorem moves_skipWhitespace : Moves l run l.skipWhitespace :=
  ⟨.readWhile "" all stops hrest, rfl, rfl⟩

theorem moves_settle (skip : l.settings.skipWhitespace = true) : Moves l run l.settle := by
  rw [settle, if_pos skip]
  exact moves_skipWhitespace all stops hrest

theorem exists_next_of_run (skip : l.settings.skipWhitespace = true) :
    ∃ m, Moves l run m ∧ l.next = (m.scan.1, m.scan.2.record m.scan.1) := by
  cases run with
  | nil =>
    refine ⟨l, .refl l, next_of_ne (token_scan_ne_whitespace_iff.2 ?_)⟩
    rwa [hrest]
  | cons c cs =>
    have hscan := moves_scan_of_spells (.whitespace (List.cons_ne_nil c cs) all stops) hrest
    refine ⟨l.scan.2, hscan.2, ?_⟩
    rw [next_of_whitespace skip (by rw [hscan.1])]
    apply next_of_ne
    rwa [token_scan_ne_whitespace_iff, hscan.2.rest_eq_of_append hrest]

end

theorem exists_nextRegexHere_of_slash {body slice following : List Char}
    (hbody : Lexeme.RegexSpells body slice following) (hrest : l.rest = '/' :: slice ++ following) :
    let x : Lexeme := ⟨.regex, l.pos, String.ofList body⟩
    ∃ m, Moves l ('/' :: slice) m ∧ l.nextRegexHere = (x, m.record x) := by
  have hslash : l.rest.head? = some '/' := by rw [hrest]; rfl
  have hopened : Takes l.reader ['/'] (CharReader.matchChar '/' l.reader).2 :=
    .matchChar_of_head hslash
  have hread := Lexeme.readRegexBody_of_spells hbody "" (hopened.rest_eq_of_append hrest)
  rw [String.empty_append] at hread
  rw [nextRegexHere_of_slash hslash]
  simp only [hread.1]
  refine ⟨_, ?_, rfl⟩
  exact ⟨hopened.trans hread.2, rfl, rfl⟩

theorem exists_nextRegexHere_of_ne (h : l.rest.head? ≠ some '/') :
    ∃ m, Moves l [] m ∧
      l.nextRegexHere = ((m.log (.notARegex l.pos)).emit (.notARegex l.pos)).next := by
  refine ⟨_, ?_, nextRegexHere_of_ne h⟩
  exact ⟨.matchChar_of_ne h, rfl, rfl⟩

end

end Lexer

end QueryLexer
