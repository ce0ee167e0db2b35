import QueryLexer.Proofs.Lexer.EqUpTo
import QueryLexer.Proofs.Session.Simulation

/-!
The report is only written to. Main statement: sessions that differ in the requests that concern
the report, and in whether there is one, give the same replies to all other requests and enter
the same events into the journal. With no report asked for, nothing is ever reported.
-/

namespace QueryLexer.Session

def scanning (requests : List Request) : List Request := requests.filter fun r => !r.concernsReport

def seen {α : Type} (answer : Request × α) : List α :=
  if answer.1.concernsReport then [] else [answer.2]

variable {κ : Type}

theorem lexer_mapLexer (f : Lexer κ → Lexer κ) (s : Session κ) :
    (s.mapLexer f).lexer = f s.lexer := by
  cases s with
  | plain l => rfl
  | buffered b => rfl

abbrev SameButReport : Session κ → Session κ → Prop :=
  Related (fun _ => True) (Lexer.EqUpTo Eq fun _ _ => True)

theorem journal_answerLogged [CharReader κ] (request : Request) (s : Session κ) :
    (answerLogged request s).2.lexer.journal = #[] := by
  rw [answerLogged, takeJournal, lexer_mapLexer]

namespace SameButReport

variable {s s' : Session κ}

theorem ofReader (k : κ) (skipWhitespace reporting reporting' : Bool) :
    SameButReport (plain (.ofReader k ⟨skipWhitespace, reporting⟩))
      (plain (.ofReader k ⟨skipWhitespace, reporting'⟩)) :=
  .plain ⟨rfl, trivial, rfl, rfl, rfl⟩

theorem mapLexer_left (h : SameButReport s s') {f : Lexer κ → Lexer κ}
    (hf : Lexer.EqUpTo Eq (fun _ _ => True) (f s.lexer) s'.lexer) :
    SameButReport (s.mapLexer f) s' := by
  cases h with
  | plain h => exact .plain hf
  | buffered h => exact .buffered ⟨hf, h.ring_eq, h.ring⟩

theorem takeJournal_left (h : SameButReport s s') (quiet : s'.lexer.journal = #[]) :
    s.takeJournal.1 = [] ∧ SameButReport s.takeJournal.2 s' := by
  have hlexer := h.lexer
  have hjournal : s.lexer.journal = #[] := hlexer.journal_eq.trans quiet
  refine ⟨congrArg Array.toList hjournal, h.mapLexer_left ?_⟩
  exact ⟨hlexer.reader, trivial, hlexer.skipWhitespace_eq, hlexer.start_eq, quiet.symm⟩

theorem withReport_left (h : SameButReport s s') (report : Lexer κ → Report) :
    SameButReport (s.mapLexer fun l => { l with report := report l }) s' := by
  have hlexer := h.lexer
  apply h.mapLexer_left
  exact ⟨hlexer.reader, trivial, hlexer.skipWhitespace_eq, hlexer.start_eq, hlexer.journal_eq⟩

variable [CharReader κ] {request : Request}

theorem answer_left (h : SameButReport s s') (hr : request.concernsReport = true) :
    SameButReport (answer request s).2 s' := by
  cases request with
  | settings => exact h
  | diagnostics => exact h
  | counts => exact h
  | take => exact h.withReport_left _
  | clear => exact h.withReport_left _
  | _ => cases hr

theorem answerLogged_left (h : SameButReport s s') (quiet : s'.lexer.journal = #[])
    (hr : request.concernsReport = true) :
    (answerLogged request s).1.2 = [] ∧ SameButReport (answerLogged request s).2 s' :=
  (h.answer_left hr).takeJournal_left quiet

theorem answerLogged (h : SameButReport s s') (hr : request.concernsReport = false) :
    SameStep SameButReport (answerLogged request s) (answerLogged request s') := by
  have sim := Lexer.EqUpTo.simulation (κ := κ) .refl fun _ _ _ (_ : True) => trivial
  have hanswer := Related.answerLogged sim (Related.answer sim h hr)
  exact ⟨hanswer.eq, hanswer.related⟩

theorem run_scanning (h : SameButReport s s') (quiet : s'.lexer.journal = #[])
    (requests : List Request) :
    let r := run Session.answerLogged requests s
    let r' := run Session.answerLogged (scanning requests) s'
    (requests.zip r.1).flatMap seen = r'.1 ∧ r.1.flatMap Prod.snd = r'.1.flatMap Prod.snd := by
  induction requests generalizing s s' with
  | nil => exact ⟨rfl, rfl⟩
  | cons request requests ih =>
    cases hr : request.concernsReport with
    | true =>
      -- The request is a step of the first run alone.
      have hleft := h.answerLogged_left quiet hr
      have hothers := ih hleft.2 quiet
      simp only [run, scanning, List.filter_cons, hr, List.zip_cons_cons, List.flatMap_cons, seen,
        hleft.1, List.nil_append, if_true, Bool.not_true, Bool.false_eq_true, if_false]
      exact hothers
    | false =>
      have hstep := h.answerLogged hr
      have hothers := ih hstep.related (journal_answerLogged request s')
      simp only [run, scanning, List.filter_cons, hr, List.zip_cons_cons, List.flatMap_cons, seen,
        hstep.eq, if_true, Bool.not_false, Bool.false_eq_true, if_false]
      exact ⟨congrArg (_ :: ·) hothers.1, congrArg (_ ++ ·) hothers.2⟩

end SameButReport

abbrev Unreported : Session κ → Session κ → Prop :=
  Related (fun _ => True) (Lexer.EqUpTo Eq Lexer.Reporting.Off)

namespace Unreported

variable {s s' : Session κ}

theorem ofReader (k : κ) (skipWhitespace : Bool) :
    Unreported (plain (.ofReader k ⟨skipWhitespace, false⟩))
      (plain (.ofReader k ⟨skipWhitespace, false⟩)) :=
  .plain ⟨rfl, ⟨rfl, rfl⟩, rfl, rfl, rfl⟩

theorem report_eq (h : Unreported s s') : s.lexer.report = .empty :=
  congrArg Prod.snd h.lexer.reporting.1

theorem answerLogged [CharReader κ] (h : Unreported s s') (request : Request) :
    SameStep Unreported (answerLogged request s) (answerLogged request s') := by
  have sim := Lexer.EqUpTo.simulation (κ := κ) .refl Lexer.Reporting.off_kept
  have hanswer := Related.answer_all sim Lexer.EqUpTo.sameReport_off h request
  have hlogged := Related.answerLogged (Q := fun _ => True) sim (hanswer.and trivial)
  exact ⟨hlogged.eq, hlogged.related⟩

end Unreported

/-- Two runs over one text may differ in what is asked of the report, and when, and in whether
there is one. Nothing else comes out differently. -/
theorem run_eq_of_scanning_eq {σ : Type} [Source σ] (source : σ)
    (skipWhitespace reporting reporting' : Bool) (requests requests' : List Request)
    (same : scanning requests = scanning requests') :
    let start (reporting : Bool) : Session (Cursor σ) :=
      plain (.ofReader (.ofSource source) ⟨skipWhitespace, reporting⟩)
    let r := run answerLogged requests (start reporting)
    let r' := run answerLogged requests' (start reporting')
    (requests.zip r.1).flatMap seen = (requests'.zip r'.1).flatMap seen ∧
      r.1.flatMap Prod.snd = r'.1.flatMap Prod.snd ∧
      ∀ requests, (run answerLogged requests (start false)).2.lexer.report = .empty := by
  intro start r r'
  have hstart (reporting : Bool) : SameButReport (start reporting) (start false) :=
    .ofReader (Cursor.ofSource source) skipWhitespace reporting false
  have hr := (hstart reporting).run_scanning rfl requests
  have hr' := (hstart reporting').run_scanning rfl requests'
  rw [← same] at hr'
  refine ⟨hr.1.trans hr'.1.symm, hr.2.trans hr'.2.symm, ?_⟩
  intro requests
  have hunreported := run_sameStep (R := Unreported)
    (fun request _ _ h => Unreported.answerLogged h request) requests
    (Unreported.ofReader (Cursor.ofSource source) skipWhitespace)
  exact hunreported.related.report_eq

theorem run_eq_of_scanning_eq_interleaved :
    let source := "#'\\q' x".toList
    let start (reporting : Bool) : Session (Cursor (List Char)) :=
      plain (.ofReader (.ofSource source) ⟨false, reporting⟩)
    let requests := [.next, .take, .addLookahead, .peek, .clear, .nextRegex, .nextRegex, .pos]
    let requests' := [.next, .addLookahead, .peek, .nextRegex, .take, .nextRegex, .counts, .pos]
    let r := run answerLogged requests (start true)
    let r' := run answerLogged requests' (start false)
    scanning requests = scanning requests' ∧
      (requests.zip r.1).flatMap seen = (requests'.zip r'.1).flatMap seen ∧
      r.1.flatMap Prod.snd =
        [.scanned ⟨.illegal, ⟨0, 0⟩, "#"⟩, .malformed ⟨.illegal, ⟨0, 0⟩, "#"⟩,
          .scanned ⟨.badEscape, ⟨0, 2⟩, "\\q"⟩, .malformed ⟨.badEscape, ⟨0, 2⟩, "\\q"⟩,
          .notARegex ⟨0, 4⟩,
          .scanned ⟨.badString, ⟨0, 4⟩, " x"⟩, .malformed ⟨.badString, ⟨0, 4⟩, " x"⟩] := by
  intro source start requests requests' r r'
  have same : scanning requests = scanning requests' := by decide
  have hrun := run_eq_of_scanning_eq source false true false requests requests' same
  refine ⟨same, hrun.1, hrun.2.1.trans ?_⟩
  decide +kernel

end QueryLexer.Session
