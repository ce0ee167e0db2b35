import QueryLexer.Proofs.Lexeme.Simulation
import QueryLexer.Proofs.Lexer.Simulation

/-!
Lexers that differ in their readers and in what they report. Main statement: over readers that
read the same they go on alike, since no call looks at the report.
-/

namespace QueryLexer.Lexer

abbrev Reporting := Bool × Report

def Reporting.emit (d : Diagnostic) (reporting : Reporting) : Reporting :=
  (reporting.1, if reporting.1 then reporting.2.emit d else reporting.2)

def reporting {κ : Type} (l : Lexer κ) : Reporting := (l.settings.reportDiagnostics, l.report)

theorem emit_eq {κ : Type} (d : Diagnostic) (l : Lexer κ) :
    l.emit d = { l with report := (l.reporting.emit d).2 } := by
  rw [Lexer.emit, reporting, Reporting.emit]
  split
  · rfl
  · rfl

def Reporting.Kept (Q : Reporting → Reporting → Prop) : Prop :=
  ∀ d reporting reporting', Q reporting reporting' → Q (reporting.emit d) (reporting'.emit d)

def Reporting.Off (reporting reporting' : Reporting) : Prop :=
  reporting = (false, .empty) ∧ reporting' = (false, .empty)

theorem Reporting.off_kept : Kept Off := by
  rintro d _ _ ⟨rfl, rfl⟩
  exact ⟨rfl, rfl⟩

/-- Two lexers that differ in their readers and in what they report, and there as `R` and `Q`
allow. -/
structure EqUpTo {κ κ' : Type} (R : κ → κ' → Prop) (Q : Reporting → Reporting → Prop)
    (l : Lexer κ) (l' : Lexer κ') : Prop where
  reader : R l.reader l'.reader
  reporting : Q l.reporting l'.reporting
  skipWhitespace_eq : l.settings.skipWhitespace = l'.settings.skipWhitespace
  start_eq : l.start = l'.start
  journal_eq : l.journal = l'.journal

namespace EqUpTo

variable {κ κ' : Type} {R : κ → κ' → Prop} {Q : Reporting → Reporting → Prop} {l : Lexer κ}
  {l' : Lexer κ'}

theorem withReader (h : EqUpTo R Q l l') {k : κ} {k' : κ'} (hk : R k k') :
    EqUpTo R Q { l with reader := k } { l' with reader := k' } :=
  ⟨hk, h.reporting, h.skipWhitespace_eq, h.start_eq, h.journal_eq⟩

theorem withoutJournal (h : EqUpTo R Q l l') :
    EqUpTo R Q { l with journal := #[] } { l' with journal := #[] } :=
  ⟨h.reader, h.reporting, h.skipWhitespace_eq, h.start_eq, rfl⟩

theorem log (h : EqUpTo R Q l l') {e e' : Event} (he : e = e') :
    EqUpTo R Q (l.log e) (l'.log e') := by
  refine ⟨h.reader, h.reporting, h.skipWhitespace_eq, h.start_eq, ?_⟩
  rw [Lexer.log, Lexer.log, h.journal_eq, he]

theorem sameReport (agree : ∀ reporting reporting', Q reporting reporting' → reporting = reporting')
    (withoutReport : ∀ reporting reporting', Q reporting reporting' →
      Q (reporting.1, .empty) (reporting'.1, .empty)) : SameReport (EqUpTo R Q) where
  settings_eq h :=
    congr (congrArg Settings.mk h.skipWhitespace_eq) (congrArg Prod.fst (agree _ _ h.reporting))
  report_eq h := congrArg (fun reporting => reporting.2.toList) (agree _ _ h.reporting)
  withoutReport h :=
    ⟨h.reader, withoutReport _ _ h.reporting, h.skipWhitespace_eq, h.start_eq, h.journal_eq⟩

theorem sameReport_off : SameReport (EqUpTo R Reporting.Off) := by
  apply sameReport
  · rintro _ _ ⟨rfl, rfl⟩
    rfl
  · rintro _ _ ⟨rfl, rfl⟩
    exact ⟨rfl, rfl⟩

variable (kept : Reporting.Kept Q)

include kept

theorem emit (h : EqUpTo R Q l l') {d d' : Diagnostic} (hd : d = d') :
    EqUpTo R Q (l.emit d) (l'.emit d') := by
  rw [emit_eq, emit_eq, hd]
  exact ⟨h.reader, kept d' _ _ h.reporting, h.skipWhitespace_eq, h.start_eq, h.journal_eq⟩

theorem record (h : EqUpTo R Q l l') {x x' : Lexeme} (hx : x = x') :
    EqUpTo R Q (l.record x) (l'.record x') := by
  rw [hx, Lexer.record, Lexer.record]
  split
  · exact h.log rfl
  · exact ((h.log rfl).log rfl).emit kept rfl

end EqUpTo

variable {κ κ' : Type} [CharReader κ] [CharReader κ']

namespace EqUpTo

variable {R : κ → κ' → Prop} {Q : Reporting → Reporting → Prop} {l : Lexer κ} {l' : Lexer κ'}
  (sim : CharReader.Simulation R)

include sim

theorem skipWhitespace (h : EqUpTo R Q l l') : EqUpTo R Q l.skipWhitespace l'.skipWhitespace :=
  h.withReader (sim.readWhile isWhitespace "" h.reader).related

theorem settle (h : EqUpTo R Q l l') : EqUpTo R Q l.settle l'.settle := by
  rw [Lexer.settle, Lexer.settle, h.skipWhitespace_eq]
  split
  · exact h.skipWhitespace sim
  · exact h

theorem mark (h : EqUpTo R Q l l') : EqUpTo R Q l.mark l'.mark :=
  ⟨h.reader, h.reporting, h.skipWhitespace_eq, sim.pos_eq h.reader, h.journal_eq⟩

theorem scan (h : EqUpTo R Q l l') : SameStep (EqUpTo R Q) l.scan l'.scan := by
  have hmark := h.mark sim
  have hread : SameStep R (Lexeme.read l.mark.start l.mark.reader)
      (Lexeme.read l'.mark.start l'.mark.reader) := by
    rw [hmark.start_eq]
    exact sim.readLexeme _ hmark.reader
  exact ⟨hread.eq, hmark.withReader hread.related⟩

variable (kept : Reporting.Kept Q)

include kept

theorem next {l : Lexer κ} {l' : Lexer κ'} (h : EqUpTo R Q l l') :
    SameStep (EqUpTo R Q) l.next l'.next := by
  -- The loop of one lexer goes round as often as that of the other.
  have hscan := h.scan sim
  rw [next_eq l, next_eq l', hscan.eq, hscan.related.skipWhitespace_eq]
  split
  · exact next hscan.related
  · exact ⟨rfl, hscan.related.record kept rfl⟩
termination_by l'.rest.length
decreasing_by
  next hw =>
  apply length_rest_scan_lt
  rw [hw.1]
  exact Token.noConfusion

theorem nextRegexHere (h : EqUpTo R Q l l') :
    SameStep (EqUpTo R Q) l.nextRegexHere l'.nextRegexHere := by
  have hmark := h.mark sim
  have hslash := sim.matchChar '/' hmark.reader
  simp only [Lexer.nextRegexHere, hslash.eq]
  split
  · have hbody := sim.readRegexBody "" hslash.related
    have hx := congr (congrArg (Lexeme.mk .regex) hmark.start_eq) hbody.eq
    exact ⟨hx, (hmark.withReader hbody.related).record kept hx⟩
  · have hlog := (hmark.withReader hslash.related).log (congrArg Event.notARegex hmark.start_eq)
    exact (hlog.emit kept (congrArg Diagnostic.notARegex hmark.start_eq)).next sim kept

theorem simulation : Simulation (fun _ => True) (EqUpTo R Q) where
  unfilled := trivial
  pos_eq h := sim.pos_eq h.reader
  journal_eq h := congrArg Array.toList h.journal_eq
  withoutJournal h := h.withoutJournal
  log _ h := h.log rfl
  skipWhitespace h := h.skipWhitespace sim
  next h := (h.next sim kept).and trivial
  nextRegex h := ((h.settle sim).nextRegexHere sim kept).and trivial

end EqUpTo

end QueryLexer.Lexer
