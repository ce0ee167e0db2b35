import QueryLexer.Proofs.Lexeme.Regex
import QueryLexer.Proofs.Lexer.Calls
import QueryLexer.Proofs.Relocation

namespace QueryLexer

open CharReader (Takes)

theorem Lexeme.Spells.relocate (origin : Position) {start : Position} {following slice : List Char}
    {x : Lexeme} (h : x.Spells start following slice) :
    (x.relocate origin).Spells (origin.relocate start) following slice := by
  cases h with
  | whitespace nonempty all stops => exact .whitespace nonempty all stops
  | integer nonempty all stops noDot => exact .integer nonempty all stops noDot
  | float nonempty all fraction stops => exact .float nonempty all fraction stops
  | keyword first all stops spelled => exact .keyword first all stops spelled
  | ident first all stops free => exact .ident first all stops free
  | symbol longest => exact .symbol longest
  | illegal other single pair => exact .illegal other single pair
  | string text quote => exact .string text quote
  | badString text quote lineEnd => exact .badString text quote lineEnd
  | badStringBackslash text quote atEnd => exact .badStringBackslash text quote atEnd
  | badEscape text quote unsupported =>
    rw [Lexeme.relocate, Position.relocate_afterAll]
    exact .badEscape text quote unsupported

namespace Lexer

variable {κ κ' : Type} [CharReader κ] [CharReader κ']

/-- One lexer has gone on from its base as the other one has from the start of what was left. -/
structure SameRelocated (base l : Lexer κ) (l' : Lexer κ') : Prop where
  rest_eq : l.rest = l'.rest
  pos_eq : l.pos = base.pos.relocate l'.pos
  settings_eq : l.settings = l'.settings
  report_eq : l.report.toList =
    base.report.toList ++ l'.report.toList.map (Diagnostic.relocate base.pos)
  journal_eq : l.journal.toList =
    base.journal.toList ++ l'.journal.toList.map (Event.relocate base.pos)

namespace SameRelocated

variable {base l : Lexer κ} {l' : Lexer κ'}

theorem mark (h : SameRelocated base l l') : SameRelocated base l.mark l'.mark :=
  ⟨h.rest_eq, h.pos_eq, h.settings_eq, h.report_eq, h.journal_eq⟩

theorem takes (h : SameRelocated base l l') {slice : List Char} {k : κ} {k' : κ'}
    (hk : Takes l.reader slice k) (hk' : Takes l'.reader slice k') :
    SameRelocated base { l with reader := k } { l' with reader := k' } where
  rest_eq := hk.rest_eq_of_append (h.rest_eq.trans hk'.rest_eq)
  pos_eq := by
    have hpos : CharReader.pos l.reader = base.pos.relocate (CharReader.pos l'.reader) := h.pos_eq
    change CharReader.pos k = base.pos.relocate (CharReader.pos k')
    rw [hk.pos_eq, hk'.pos_eq, hpos, Position.relocate_afterAll]
  settings_eq := h.settings_eq
  report_eq := h.report_eq
  journal_eq := h.journal_eq

theorem log (h : SameRelocated base l l') (e : Event) :
    SameRelocated base (l.log (e.relocate base.pos)) (l'.log e) where
  rest_eq := h.rest_eq
  pos_eq := h.pos_eq
  settings_eq := h.settings_eq
  report_eq := h.report_eq
  journal_eq := by
    simp only [Lexer.log, Array.toList_push, h.journal_eq, List.map_append, List.append_assoc,
      List.map_singleton]

theorem emit (h : SameRelocated base l l') (d : Diagnostic) :
    SameRelocated base (l.emit (d.relocate base.pos)) (l'.emit d) := by
  have hsettings := h.settings_eq
  by_cases hd : l'.settings.reportDiagnostics = true
  · rw [Lexer.emit, Lexer.emit, if_pos hd, if_pos (hsettings ▸ hd)]
    refine ⟨h.rest_eq, h.pos_eq, hsettings, ?_, h.journal_eq⟩
    simp only [Report.toList_emit, h.report_eq, List.map_append, List.append_assoc,
      List.map_singleton]
  · rw [Lexer.emit, Lexer.emit, if_neg hd, if_neg (hsettings ▸ hd)]
    exact h

theorem record (h : SameRelocated base l l') (x : Lexeme) :
    SameRelocated base (l.record (x.relocate base.pos)) (l'.record x) := by
  rw [Lexer.record, Lexer.record, Lexeme.diagnostic?_relocate]
  cases x.diagnostic? with
  | none => exact h.log (.scanned x)
  | some d => exact ((h.log (.scanned x)).log (.malformed x)).emit d

theorem scan (h : SameRelocated base l l') :
    l.scan.1 = l'.scan.1.relocate base.pos ∧ SameRelocated base l.scan.2 l'.scan.2 := by
  cases hrest : l'.rest with
  | nil =>
    have hscan := scan_of_nil (h.rest_eq.trans hrest)
    have hscan' := scan_of_nil hrest
    refine ⟨?_, h.mark.takes hscan.2 hscan'.2⟩
    rw [hscan.1, hscan'.1, h.pos_eq]
    rfl
  | cons c cs =>
    obtain ⟨slice, htakes, hspells⟩ := exists_scan (hrest ▸ List.cons_ne_nil c cs)
    have hrelocated := hspells.relocate base.pos
    rw [← h.pos_eq] at hrelocated
    have hscan := scan_of_spells hrelocated (h.rest_eq.trans htakes.rest_eq)
    exact ⟨hscan.1, h.mark.takes hscan.2 htakes⟩

theorem next {l : Lexer κ} {l' : Lexer κ'} (h : SameRelocated base l l') :
    l.next.1 = l'.next.1.relocate base.pos ∧ SameRelocated base l.next.2 l'.next.2 := by
  -- The loop of one lexer goes round as often as that of the other.
  have hscan := h.scan
  have hcond : (l.scan.1.token = .whitespace ∧ l.scan.2.settings.skipWhitespace = true) ↔
      (l'.scan.1.token = .whitespace ∧ l'.scan.2.settings.skipWhitespace = true) := by
    rw [hscan.1, hscan.2.settings_eq]
    rfl
  rw [next_eq l, next_eq l']
  by_cases hw : l'.scan.1.token = .whitespace ∧ l'.scan.2.settings.skipWhitespace = true
  · rw [if_pos hw, if_pos (hcond.2 hw)]
    exact hscan.2.next
  · rw [if_neg hw, if_neg (mt hcond.1 hw), hscan.1]
    exact ⟨rfl, hscan.2.record _⟩
termination_by l'.rest.length
decreasing_by
  apply length_rest_scan_lt
  rw [hw.1]
  exact Token.noConfusion

theorem settle (h : SameRelocated base l l') : SameRelocated base l.settle l'.settle := by
  rw [Lexer.settle, Lexer.settle, h.settings_eq]
  split
  · obtain ⟨run, following, hrest, hrun, hstops⟩ := exists_run isWhitespace l'.rest
    exact h.takes (.readWhile "" hrun hstops (h.rest_eq.trans hrest))
      (.readWhile "" hrun hstops hrest)
  · exact h

theorem nextRegexHere (h : SameRelocated base l l') :
    l.nextRegexHere.1 = l'.nextRegexHere.1.relocate base.pos ∧
      SameRelocated base l.nextRegexHere.2 l'.nextRegexHere.2 := by
  by_cases hslash : l'.rest.head? = some '/'
  · have hslash' : l.rest.head? = some '/' := h.rest_eq ▸ hslash
    have hafter := h.mark.takes (.matchChar_of_head hslash') (.matchChar_of_head hslash)
    obtain ⟨body, slice, following, hrest, hspells⟩ :=
      Lexeme.exists_regexSpells (CharReader.rest (CharReader.matchChar '/' l'.reader).2)
    have hread := Lexeme.readRegexBody_of_spells hspells "" hrest
    have hrest' : CharReader.rest (CharReader.matchChar '/' l.reader).2 = slice ++ following :=
      hafter.rest_eq.trans hrest
    have hread' := Lexeme.readRegexBody_of_spells hspells "" hrest'
    have hbody := hafter.takes hread'.2 hread.2
    rw [nextRegexHere_of_slash hslash, nextRegexHere_of_slash hslash', h.pos_eq]
    simp only [hread.1, hread'.1]
    exact ⟨rfl, hbody.record ⟨.regex, l'.pos, "" ++ String.ofList body⟩⟩
  · have hslash' : l.rest.head? ≠ some '/' := h.rest_eq ▸ hslash
    have hafter := h.mark.takes (.matchChar_of_ne hslash') (.matchChar_of_ne hslash)
    rw [nextRegexHere_of_ne hslash, nextRegexHere_of_ne hslash', h.pos_eq]
    exact ((hafter.log (.notARegex l'.pos)).emit (.notARegex l'.pos)).next

theorem answer (h : SameRelocated base l l') (call : Call) :
    (answer call l).1 =
        ((answer call l').1.1.relocate base.pos, base.pos.relocate (answer call l').1.2) ∧
      SameRelocated base (answer call l).2 (answer call l').2 := by
  cases call with
  | next => exact ⟨Prod.ext h.next.1 h.next.2.pos_eq, h.next.2⟩
  | nextRegex =>
    have hregex := h.settle.nextRegexHere
    exact ⟨Prod.ext hregex.1 hregex.2.pos_eq, hregex.2⟩

end SameRelocated

/-- Whatever calls a lexer has answered, it answers all others as a fresh one does. -/
theorem run_relocate {σ : Type} [Source σ] (source : σ) (settings : Settings)
    (before after : List Call) :
    let l := (run answer before (ofReader (Cursor.ofSource source) settings)).2
    let fresh := Lexer.ofString (String.ofList l.rest) settings
    (run answer after l).1 =
        (run answer after fresh).1.map (fun r => (r.1.relocate l.pos, l.pos.relocate r.2)) ∧
      (run answer after l).2.report.toList = l.report.toList ++
        (run answer after fresh).2.report.toList.map (Diagnostic.relocate l.pos) ∧
      (run answer after l).2.journal.toList = l.journal.toList ++
        (run answer after fresh).2.journal.toList.map (Event.relocate l.pos) := by
  intro l fresh
  have hsuffix : l.rest <:+ Newline.normalize (Source.toList source) := by
    rw [← Cursor.rest_ofSource]
    exact run_suffix before _
  have hnormal : '\r' ∉ l.rest := fun hr =>
    Newline.return_notMem_normalize _ (hsuffix.mem hr)
  have hrest : fresh.rest = l.rest := by
    change (Cursor.ofSource (String.ofList l.rest).toList).rest = l.rest
    rw [Cursor.rest_ofSource]
    change Newline.normalize (String.ofList l.rest).toList = l.rest
    rw [String.toList_ofList, Newline.normalize_of_notMem hnormal]
  have hstart : SameRelocated l l fresh := by
    refine ⟨hrest.symm, ?_, settings_run before _, ?_, ?_⟩
    · exact (Position.relocate_start l.pos).symm
    · exact (List.append_nil _).symm
    · exact (List.append_nil _).symm
  have hrun := run_related (R := SameRelocated l)
    (f := fun r : Lexeme × Position => (r.1.relocate l.pos, l.pos.relocate r.2))
    (fun call _ _ h => h.answer call) after hstart
  exact ⟨hrun.1, hrun.2.report_eq, hrun.2.journal_eq⟩

end Lexer

end QueryLexer
