import QueryLexer.Proofs.Lexer.Plain
import QueryLexer.Proofs.Lexer.Relocation
import QueryLexer.Proofs.Lexer.Simulation

namespace QueryLexer.Lexer

variable {σ τ : Type} [Source σ] [Source τ]

/-- Two lexers that differ in their sources only, and there in line terminators only. -/
structure SameButSource (l : Lexer (Cursor σ)) (l' : Lexer (Cursor τ)) : Prop where
  plain : l.Plain
  rest_eq : l.rest = l'.rest
  pos_eq : l.pos = l'.pos
  settings_eq : l.settings = l'.settings
  report_eq : l.report.toList = l'.report.toList
  journal_eq : l.journal.toList = l'.journal.toList

def fresh (l : Lexer (Cursor σ)) : Lexer (Cursor σ) :=
  .ofReader (.ofSource l.reader.source) l.settings

namespace SameButSource

variable {l : Lexer (Cursor σ)} {l' : Lexer (Cursor τ)}

theorem ofSource {source : σ} {source' : τ} (settings : Settings)
    (h : Newline.normalize (Source.toList source) = Newline.normalize (Source.toList source')) :
    SameButSource (ofReader (.ofSource source) settings)
      (ofReader (.ofSource source') settings) := by
  let l := ofReader (Cursor.ofSource source) settings
  have hplain : '\r' ∉ l.rest := by
    rw [rest_ofReader]
    exact Newline.return_notMem_normalize _
  refine ⟨⟨hplain, fun _ hd => absurd hd List.not_mem_nil⟩, ?_, rfl, rfl, rfl, rfl⟩
  rw [rest_ofReader, rest_ofReader, h]

theorem iff_sameRelocated (base : Lexer (Cursor σ)) (plain : l.Plain) :
    SameButSource l l' ↔ SameRelocated base.fresh l l' := by
  -- Behind the start of a text, relocation moves nothing.
  have hpos : base.fresh.pos = .start := rfl
  have hreport : l'.report.toList.map (Diagnostic.relocate .start) = l'.report.toList :=
    List.map_id'' Diagnostic.relocate_start _
  have hjournal : l'.journal.toList.map (Event.relocate .start) = l'.journal.toList :=
    List.map_id'' Event.relocate_start _
  constructor
  · intro h
    refine ⟨h.rest_eq, ?_, h.settings_eq, ?_, ?_⟩
    · rw [hpos, Position.start_relocate, h.pos_eq]
    · rw [hpos, hreport]
      exact h.report_eq
    · rw [hpos, hjournal]
      exact h.journal_eq
  · intro h
    refine ⟨plain, h.rest_eq, ?_, h.settings_eq, ?_, ?_⟩
    · rw [h.pos_eq, hpos, Position.start_relocate]
    · rw [h.report_eq, hpos, hreport]
      rfl
    · rw [h.journal_eq, hpos, hjournal]
      rfl

theorem log (h : SameButSource l l') (e : Event) : SameButSource (l.log e) (l'.log e) where
  plain := h.plain.log e
  rest_eq := h.rest_eq
  pos_eq := h.pos_eq
  settings_eq := h.settings_eq
  report_eq := h.report_eq
  journal_eq := by rw [Lexer.log, Lexer.log, Array.toList_push, Array.toList_push, h.journal_eq]

theorem withoutReport (h : SameButSource l l') :
    SameButSource { l with report := .empty } { l' with report := .empty } where
  plain := ⟨h.plain.rest, fun _ hd => absurd hd List.not_mem_nil⟩
  rest_eq := h.rest_eq
  pos_eq := h.pos_eq
  settings_eq := h.settings_eq
  report_eq := rfl
  journal_eq := h.journal_eq

theorem withoutJournal (h : SameButSource l l') :
    SameButSource { l with journal := #[] } { l' with journal := #[] } where
  plain := ⟨h.plain.rest, h.plain.report⟩
  rest_eq := h.rest_eq
  pos_eq := h.pos_eq
  settings_eq := h.settings_eq
  report_eq := h.report_eq
  journal_eq := rfl

theorem skipWhitespace (h : SameButSource l l') :
    SameButSource l.skipWhitespace l'.skipWhitespace := by
  obtain ⟨run, following, hrest, all, stops⟩ := exists_run isWhitespace l'.rest
  rw [iff_sameRelocated l h.plain.skipWhitespace]
  exact ((iff_sameRelocated l h.plain).1 h).takes (.readWhile "" all stops (h.rest_eq.trans hrest))
    (.readWhile "" all stops hrest)

theorem next (h : SameButSource l l') : SameAnswer Lexeme.Plain SameButSource l.next l'.next := by
  have hplain := h.plain.next
  have hnext := ((iff_sameRelocated l h.plain).1 h).next
  exact ⟨hnext.1.trans (Lexeme.relocate_start _), hplain.1,
    (iff_sameRelocated l hplain.2).2 hnext.2⟩

theorem nextRegex (h : SameButSource l l') :
    SameAnswer Lexeme.Plain SameButSource l.nextRegex l'.nextRegex := by
  have hplain := h.plain.nextRegex
  have hregex := ((iff_sameRelocated l h.plain).1 h).settle.nextRegexHere
  exact ⟨hregex.1.trans (Lexeme.relocate_start _), hplain.1,
    (iff_sameRelocated l hplain.2).2 hregex.2⟩

theorem simulation :
    Simulation Lexeme.Plain (SameButSource : Lexer (Cursor σ) → Lexer (Cursor τ) → Prop) where
  unfilled := List.not_mem_nil
  pos_eq h := h.pos_eq
  journal_eq h := h.journal_eq
  withoutJournal h := h.withoutJournal
  log e h := h.log e
  skipWhitespace h := h.skipWhitespace
  next h := h.next
  nextRegex h := h.nextRegex

theorem sameReport : SameReport (SameButSource : Lexer (Cursor σ) → Lexer (Cursor τ) → Prop) where
  settings_eq h := h.settings_eq
  report_eq h := h.report_eq
  withoutReport h := h.withoutReport

end SameButSource

end QueryLexer.Lexer
