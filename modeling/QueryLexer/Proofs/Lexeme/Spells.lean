import QueryLexer.Lexeme
import QueryLexer.Proofs.CharClass
import QueryLexer.Proofs.Keyword
import QueryLexer.Proofs.Quoted.Body

namespace QueryLexer.Lexeme

/-- A slice from a position on spells a lexeme, given what follows the slice. -/
inductive Spells (start : Position) (following : List Char) : Lexeme → List Char → Prop
  | whitespace {run : List Char} (nonempty : run ≠ []) (all : ∀ c ∈ run, isWhitespace c = true)
      (stops : Stops isWhitespace following) :
      Spells start following ⟨.whitespace, start, String.ofList run⟩ run
  | integer {ds : List Char} (nonempty : ds ≠ []) (all : ∀ d ∈ ds, d.isDigit = true)
      (stops : Stops Char.isDigit following) (noDot : following.head? ≠ some '.') :
      Spells start following ⟨.integer, start, String.ofList ds⟩ ds
  | float {ds fs : List Char} (nonempty : ds ≠ []) (all : ∀ d ∈ ds, d.isDigit = true)
      (fraction : ∀ d ∈ fs, d.isDigit = true) (stops : Stops Char.isDigit following) :
      Spells start following ⟨.float, start, String.ofList (ds ++ '.' :: fs)⟩ (ds ++ '.' :: fs)
  | keyword {c : Char} {cs : List Char} {k : Keyword} (first : isIdentStart c = true)
      (all : ∀ d ∈ cs, isIdentContinue d = true) (stops : Stops isIdentContinue following)
      (spelled : (String.ofList (c :: cs)).map Char.toUpper = k.spelling) :
      Spells start following ⟨.keyword k, start, ""⟩ (c :: cs)
  | ident {c : Char} {cs : List Char} (first : isIdentStart c = true)
      (all : ∀ d ∈ cs, isIdentContinue d = true) (stops : Stops isIdentContinue following)
      (free : ∀ k : Keyword, (String.ofList (c :: cs)).map Char.toUpper ≠ k.spelling) :
      Spells start following ⟨.ident, start, String.ofList (c :: cs)⟩ (c :: cs)
  | symbol {s : Symbol}
      (longest : ∀ (t : Symbol) (d : Char),
        t.spelling.toList = s.spelling.toList ++ [d] → following.head? ≠ some d) :
      Spells start following ⟨.symbol s, start, ""⟩ s.spelling.toList
  | illegal {c : Char} (other : FirstClass.of c = .other)
      (single : ∀ s : Symbol, s.spelling.toList ≠ [c])
      (pair : ∀ (s : Symbol) (d : Char), s.spelling.toList = [c, d] → following.head? ≠ some d) :
      Spells start following ⟨.illegal, start, String.singleton c⟩ [c]
  | string {q : Char} (text : String) (quote : isQuote q = true) :
      Spells start following ⟨.string, start, text⟩ (Quoted.encode text q).toList
  | badString {q : Char} (text : String) (quote : isQuote q = true)
      (lineEnd : Quoted.LineEnd following) :
      Spells start following ⟨.badString, start, text⟩ (Quoted.opened text q)
  | badStringBackslash {q : Char} (text : String) (quote : isQuote q = true)
      (atEnd : following = []) :
      Spells start following ⟨.badString, start, text⟩ (Quoted.opened text q ++ ['\\'])
  | badEscape {q c : Char} (text : String) (quote : isQuote q = true)
      (unsupported : Quoted.unescape? q c = none) :
      Spells start following
        ⟨.badEscape, start.afterAll (Quoted.opened text q), String.ofList ['\\', c]⟩
        (Quoted.opened text q ++ ['\\', c])

theorem delimits_of_isQuote {q : Char} (h : isQuote q = true) : Quoted.Delimits q := by
  rcases isQuote_iff.1 h with rfl | rfl
  · exact ⟨by decide, by decide, by decide⟩
  · exact ⟨by decide, by decide, by decide⟩

theorem other_of_spelling {s : Symbol} {c : Char} {cs : List Char}
    (h : s.spelling.toList = c :: cs) : FirstClass.of c = .other := by
  cases s <;> cases h <;> rfl

theorem spelling_ne_nil (s : Symbol) : s.spelling.toList ≠ [] := by
  cases s <;> exact List.cons_ne_nil _ _

theorem isWhitespace_of_mem_spelling {s : Symbol} {c : Char} (h : c ∈ s.spelling.toList) :
    isWhitespace c = false := by
  have hnone : s.spelling.toList.any isWhitespace = false := by cases s <;> rfl
  exact Bool.not_eq_true _ ▸ List.any_eq_false.1 hnone c h

namespace Spells

variable {start : Position} {following : List Char} {x : Lexeme} {slice : List Char}

theorem slice_ne_nil (h : Spells start following x slice) : slice ≠ [] := by
  cases h with
  | whitespace nonempty => exact nonempty
  | integer nonempty => exact nonempty
  | float nonempty => exact List.append_ne_nil_of_left_ne_nil nonempty _
  | keyword => exact List.cons_ne_nil _ _
  | ident => exact List.cons_ne_nil _ _
  | symbol => exact spelling_ne_nil _
  | illegal => exact List.cons_ne_nil _ _
  | string =>
    rw [Quoted.toList_encode]
    exact List.cons_ne_nil _ _
  | badString => exact List.cons_ne_nil _ _
  | badStringBackslash => exact List.cons_ne_nil _ _
  | badEscape => exact List.cons_ne_nil _ _

theorem token_ne_eof (h : Spells start following x slice) : x.token ≠ .eof := by
  cases h <;> exact Token.noConfusion

theorem exists_pos_eq (h : Spells start following x slice) :
    ∃ before behind, slice = before ++ behind ∧ behind ≠ [] ∧ x.pos = start.afterAll before := by
  have hne := h.slice_ne_nil
  cases h with
  | badEscape text => exact ⟨Quoted.opened text _, _, rfl, List.cons_ne_nil _ _, rfl⟩
  | _ => exact ⟨[], _, rfl, hne, rfl⟩

end Spells

section

variable (start : Position) {c : Char} (cs : List Char)

theorem exists_spells_whitespace (h : isWhitespace c = true) :
    ∃ x slice following, c :: cs = slice ++ following ∧ Spells start following x slice := by
  obtain ⟨run, following, hcs, hrun, hstops⟩ := exists_run isWhitespace cs
  refine ⟨_, c :: run, following, congrArg (c :: ·) hcs, .whitespace ?_ ?_ hstops⟩
  · exact List.cons_ne_nil c run
  · exact List.forall_mem_cons.2 ⟨h, hrun⟩

theorem exists_spells_number (h : c.isDigit = true) :
    ∃ x slice following, c :: cs = slice ++ following ∧ Spells start following x slice := by
  obtain ⟨run, following, hcs, hrun, hstops⟩ := exists_run Char.isDigit cs
  have hne := List.cons_ne_nil c run
  have hall : ∀ d ∈ c :: run, d.isDigit = true := List.forall_mem_cons.2 ⟨h, hrun⟩
  by_cases hdot : following.head? = some '.'
  · obtain ⟨behind, hbehind⟩ := List.head?_eq_some_iff.1 hdot
    obtain ⟨fs, following', hfs, hfraction, hstops'⟩ := exists_run Char.isDigit behind
    refine ⟨_, c :: run ++ '.' :: fs, following', ?_, .float hne hall hfraction hstops'⟩
    rw [hcs, hbehind, hfs, List.append_assoc]
    rfl
  · exact ⟨_, c :: run, following, congrArg (c :: ·) hcs, .integer hne hall hstops hdot⟩

theorem exists_spells_word (h : isIdentStart c = true) :
    ∃ x slice following, c :: cs = slice ++ following ∧ Spells start following x slice := by
  obtain ⟨run, following, hcs, hrun, hstops⟩ := exists_run isIdentContinue cs
  cases hk : Keyword.ofIdent? (String.ofList (c :: run)) with
  | none =>
    exact ⟨_, c :: run, following, congrArg (c :: ·) hcs,
      .ident h hrun hstops (Keyword.ofIdent?_eq_none_iff.1 hk)⟩
  | some k =>
    exact ⟨_, c :: run, following, congrArg (c :: ·) hcs,
      .keyword h hrun hstops (Keyword.ofIdent?_eq_some_iff.1 hk)⟩

theorem exists_spells_quoted (h : isQuote c = true) :
    ∃ x slice following, c :: cs = slice ++ following ∧ Spells start following x slice := by
  obtain ⟨text, behind, hcs, hfinal⟩ := Quoted.exists_final (delimits_of_isQuote h) cs
  have hopened : Quoted.opened (String.ofList text) c = c :: text.flatMap (Quoted.escape c) := by
    rw [Quoted.opened, String.toList_ofList]
  cases hfinal with
  | closing following =>
    refine ⟨_, _, following, ?_, .string (String.ofList text) h⟩
    rw [Quoted.toList_encode, hopened, hcs, List.append_assoc]
    rfl
  | lineEnd hend =>
    refine ⟨_, _, behind, ?_, .badString (String.ofList text) h hend⟩
    rw [hopened, hcs]
    rfl
  | backslash =>
    refine ⟨_, _, [], ?_, .badStringBackslash (String.ofList text) h rfl⟩
    rw [hopened, hcs, List.append_nil]
    rfl
  | badEscape following he =>
    refine ⟨_, _, following, ?_, .badEscape (String.ofList text) h he⟩
    rw [hopened, hcs, List.append_assoc]
    rfl

theorem exists_spells_other (h : FirstClass.of c = .other) :
    ∃ x slice following, c :: cs = slice ++ following ∧ Spells start following x slice := by
  -- A pair is looked for before the character alone.
  by_cases hpair : ∃ (s : Symbol) (d : Char), s.spelling.toList = [c, d] ∧ cs.head? = some d
  · obtain ⟨s, d, hs, hd⟩ := hpair
    obtain ⟨following, hcs⟩ := List.head?_eq_some_iff.1 hd
    refine ⟨_, _, following, ?_, .symbol (s := s) ?_⟩
    · rw [hs, hcs]
      rfl
    · intro t e ht
      rw [hs] at ht
      rcases t.toList_spelling_cases with ⟨c', hc⟩ | ⟨c', d', hcd⟩
      · rw [hc] at ht
        cases ht
      · rw [hcd] at ht
        cases ht
  · have hno : ∀ (s : Symbol) (d : Char), s.spelling.toList = [c, d] → cs.head? ≠ some d :=
      fun s d hs hd => hpair ⟨s, d, hs, hd⟩
    cases hs : Symbol.ofChar? c with
    | some s =>
      have hspelled := Symbol.ofChar?_eq_some_iff.1 hs
      refine ⟨_, _, cs, ?_, .symbol (s := s) ?_⟩
      · rw [hspelled]
        rfl
      · intro t d ht
        rw [hspelled] at ht
        exact hno t d ht
    | none =>
      refine ⟨_, _, cs, rfl, .illegal h ?_ hno⟩
      intro s hspelled
      rw [Symbol.ofChar?_eq_some_iff.2 hspelled] at hs
      cases hs

theorem exists_spells {cs : List Char} (h : cs ≠ []) :
    ∃ x slice following, cs = slice ++ following ∧ Spells start following x slice := by
  cases cs with
  | nil => exact absurd rfl h
  | cons c cs =>
    rcases FirstClass.cases_of c with hc | hc | hc | hc | hc
    · exact exists_spells_whitespace start cs hc
    · exact exists_spells_quoted start cs hc
    · exact exists_spells_number start cs hc
    · exact exists_spells_word start cs hc
    · exact exists_spells_other start cs hc

end

end QueryLexer.Lexeme
