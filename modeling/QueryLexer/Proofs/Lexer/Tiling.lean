import QueryLexer.Proofs.Lexer.Scan

namespace QueryLexer

/-- The lexemes of a text from a position on, each with the slice that spells it. -/
inductive Tiles : Position → List (Lexeme × List Char) → Prop
  | nil (p : Position) : Tiles p []
  | cons {p : Position} {x : Lexeme} {slice : List Char} {others : List (Lexeme × List Char)}
      (nonempty : slice ≠ [])
      (spells : x.Spells p (others.map Prod.snd).flatten slice)
      (tiles : Tiles (p.afterAll slice) others) : Tiles p ((x, slice) :: others)

namespace Lexer

/-- The steps of a lexer up to the end, each with the characters that it takes. -/
inductive Steps {κ : Type} [CharReader κ] :
    Lexer κ → List (Lexeme × List Char) → Lexer κ → Prop
  | done {l : Lexer κ} (atEnd : l.next.1.token = .eof) : Steps l [] l.next.2
  | step {l l' : Lexer κ} {slice : List Char} {others : List (Lexeme × List Char)}
      (more : l.next.1.token ≠ .eof) (taken : l.rest = slice ++ l.next.2.rest)
      (behind : Steps l.next.2 others l') : Steps l ((l.next.1, slice) :: others) l'

variable {κ : Type} [CharReader κ]

theorem tokens_of_steps {l l' : Lexer κ} {tiles : List (Lexeme × List Char)}
    (h : Steps l tiles l') : l.tokens = (tiles.map Prod.fst, l') := by
  induction h with
  | done atEnd =>
    rw [tokens]
    simp [atEnd]
  | step more taken behind ih =>
    rw [tokens]
    simp [more, ih]

theorem exists_steps (l : Lexer κ) (h : l.settings.skipWhitespace = false) :
    ∃ tiles l', Steps l tiles l' ∧ (tiles.map Prod.snd).flatten = l.rest ∧ Tiles l.pos tiles := by
  cases hrest : l.rest with
  | nil =>
    refine ⟨[], l.next.2, .done ?_, rfl, .nil l.pos⟩
    rw [(next_of_nil h hrest).1]
  | cons c cs =>
    obtain ⟨slice, htakes, hspells⟩ := exists_next h (hrest ▸ List.cons_ne_nil c cs)
    have hlt := l.length_rest_next_lt hspells.token_ne_eof
    have hsettings : l.next.2.settings.skipWhitespace = false := by rw [settings_next, h]
    obtain ⟨others, l', hsteps, hflatten, htiles⟩ := exists_steps l.next.2 hsettings
    have hpos : l.next.2.pos = l.pos.afterAll slice := htakes.pos_eq
    rw [hpos] at htiles
    rw [← hflatten] at hspells
    refine ⟨(l.next.1, slice) :: others, l', .step hspells.token_ne_eof htakes.rest_eq hsteps, ?_,
      .cons hspells.slice_ne_nil hspells htiles⟩
    rw [List.map_cons, List.flatten_cons, hflatten, ← hrest]
    exact htakes.rest_eq.symm
termination_by l.rest.length

end Lexer

/-- The slices that a lexer takes are the whole of the normal text, and spell the lexemes. -/
theorem Lexer.exists_tiles {σ : Type} [Source σ] (source : σ) (reportDiagnostics : Bool) :
    let l := Lexer.ofReader (Cursor.ofSource source) ⟨false, reportDiagnostics⟩
    ∃ tiles l', Steps l tiles l' ∧ l.tokens = (tiles.map Prod.fst, l') ∧
      (tiles.map Prod.snd).flatten = Newline.normalize (Source.toList source) ∧
      Tiles .start tiles := by
  intro l
  obtain ⟨tiles, l', hsteps, hflatten, htiles⟩ := l.exists_steps rfl
  have hrest : l.rest = Newline.normalize (Source.toList source) := Cursor.rest_ofSource source
  refine ⟨tiles, l', hsteps, tokens_of_steps hsteps, ?_, htiles⟩
  rw [hflatten, hrest]

end QueryLexer
