import QueryLexer.Proofs.Lexer.Moves

namespace QueryLexer

namespace Lexer

section

variable {κ : Type} [CharReader κ] {l : Lexer κ}

/-- Led past the whitespace that comes next, by a call whose answer is not looked at. -/
def pastWhitespace (l : Lexer κ) : Lexer κ :=
  if l.rest.head?.any isWhitespace then l.next.2 else l

theorem moves_pastWhitespace {run following : List Char}
    (all : ∀ c ∈ run, isWhitespace c = true) (stops : Stops isWhitespace following)
    (hrest : l.rest = run ++ following) (skip : l.settings.skipWhitespace = false) :
    Moves l run l.pastWhitespace := by
  cases run with
  | nil =>
    have hnone : l.rest.head?.any isWhitespace = false := by
      rw [hrest, List.nil_append, Option.any_eq_false]
      exact fun c hc => Bool.not_eq_true _ ▸ stops c hc
    rw [pastWhitespace, hnone]
    exact .refl l
  | cons c cs =>
    have hscan := moves_scan_of_spells (.whitespace (List.cons_ne_nil c cs) all stops) hrest
    have hsome : l.rest.head?.any isWhitespace = true := by
      rw [hrest]
      exact all c List.mem_cons_self
    rw [pastWhitespace, hsome, if_pos rfl, next_of_settings skip, hscan.1]
    exact ⟨hscan.2.takes, rfl, rfl⟩

@[simp] theorem settings_pastWhitespace (l : Lexer κ) : l.pastWhitespace.settings = l.settings := by
  rw [pastWhitespace]
  split
  · exact l.settings_next
  · rfl

def stream (l : Lexer κ) : List Lexeme × Lexer κ :=
  match _h : l.next with
  | (x, l') =>
    if _hx : x.token = .eof then ([x], l')
    else
      let r := l'.stream
      (x :: r.1, r.2)
termination_by l.rest.length
decreasing_by
  have := l.length_rest_next_lt (by simp [_h, _hx])
  simpa [_h] using this

theorem stream_eq (l : Lexer κ) :
    l.stream =
      if l.next.1.token = .eof then ([l.next.1], l.next.2)
      else (l.next.1 :: l.next.2.stream.1, l.next.2.stream.2) := by
  rw [stream]
  rfl

theorem stream_of_next_eq {l' : Lexer κ} (h : l.next = l'.next) : l.stream = l'.stream := by
  rw [stream_eq l, h, ← stream_eq l']

end

def observe {κ : Type} [CharReader κ] (call : Call) (l : Lexer κ) :
    (Lexeme × Position × List Diagnostic) × Lexer κ :=
  let r := answer call l
  ((r.1.1, r.1.2, r.2.report.toList), r.2)

theorem record_of_whitespace {κ : Type} {l : Lexer κ} {x : Lexeme} (h : x.token = .whitespace) :
    l.record x = l.log (.scanned x) := by
  rw [record, Lexeme.diagnostic?, h]

/-- Two lexers before the same text and with the same report. Their journals may differ, and so
may what they do about whitespace. -/
structure SameRestAndReport {κ κ' : Type} [CharReader κ] [CharReader κ'] (l : Lexer κ)
    (l' : Lexer κ') : Prop where
  rest_eq : l.rest = l'.rest
  pos_eq : l.pos = l'.pos
  reporting_eq : l.settings.reportDiagnostics = l'.settings.reportDiagnostics
  report_eq : l.report = l'.report

namespace SameRestAndReport

variable {κ κ' : Type} [CharReader κ] [CharReader κ'] {l m : Lexer κ} {l' m' : Lexer κ'}

theorem moves (h : SameRestAndReport l l') {slice : List Char} (hm : Moves l slice m)
    (hm' : Moves l' slice m') : SameRestAndReport m m' where
  rest_eq := hm.rest_eq_of_append (h.rest_eq.trans hm'.takes.rest_eq)
  pos_eq := by
    have hpos : CharReader.pos l.reader = CharReader.pos l'.reader := h.pos_eq
    change CharReader.pos m.reader = CharReader.pos m'.reader
    rw [hm.takes.pos_eq, hm'.takes.pos_eq, hpos]
  reporting_eq := by rw [hm.settings_eq, hm'.settings_eq, h.reporting_eq]
  report_eq := by rw [hm.report_eq, hm'.report_eq, h.report_eq]

theorem log (h : SameRestAndReport l l') (e e' : Event) : SameRestAndReport (l.log e) (l'.log e') :=
  ⟨h.rest_eq, h.pos_eq, h.reporting_eq, h.report_eq⟩

theorem log_right (h : SameRestAndReport l l') (e : Event) : SameRestAndReport l (l'.log e) :=
  ⟨h.rest_eq, h.pos_eq, h.reporting_eq, h.report_eq⟩

theorem emit (h : SameRestAndReport l l') (d : Diagnostic) :
    SameRestAndReport (l.emit d) (l'.emit d) := by
  rw [Lexer.emit, Lexer.emit, h.reporting_eq]
  split
  · exact ⟨h.rest_eq, h.pos_eq, h.reporting_eq, congrArg (·.emit d) h.report_eq⟩
  · exact h

theorem record (h : SameRestAndReport l l') (x : Lexeme) :
    SameRestAndReport (l.record x) (l'.record x) := by
  rw [Lexer.record, Lexer.record]
  cases x.diagnostic? with
  | none => exact h.log (.scanned x) (.scanned x)
  | some d => exact ((h.log (.scanned x) (.scanned x)).log (.malformed x) (.malformed x)).emit d

theorem scan (h : SameRestAndReport l l') :
    l.scan.1 = l'.scan.1 ∧ SameRestAndReport l.scan.2 l'.scan.2 := by
  cases hrest : l'.rest with
  | nil =>
    have hscan := scan_of_nil (h.rest_eq.trans hrest)
    have hscan' := scan_of_nil hrest
    refine ⟨?_, h.moves ⟨hscan.2, rfl, rfl⟩ ⟨hscan'.2, rfl, rfl⟩⟩
    rw [hscan.1, hscan'.1, h.pos_eq]
  | cons c cs =>
    obtain ⟨slice, htakes, hspells⟩ := exists_scan (hrest ▸ List.cons_ne_nil c cs)
    rw [← h.pos_eq] at hspells
    have hscan := moves_scan_of_spells hspells (h.rest_eq.trans htakes.rest_eq)
    exact ⟨hscan.1, h.moves hscan.2 ⟨htakes, rfl, rfl⟩⟩

theorem scan_record (h : SameRestAndReport l l') :
    l.scan.1 = l'.scan.1 ∧
      SameRestAndReport (l.scan.2.record l.scan.1) (l'.scan.2.record l'.scan.1) := by
  rw [h.scan.1]
  exact ⟨rfl, h.scan.2.record l'.scan.1⟩

theorem next_of_stops (h : SameRestAndReport l l') (stops : Stops isWhitespace l'.rest) :
    l.next.1 = l'.next.1 ∧ SameRestAndReport l.next.2 l'.next.2 := by
  -- In front of whitespace only one of the two would stop.
  rw [next_of_ne (token_scan_ne_whitespace_iff.2 (h.rest_eq ▸ stops)),
    next_of_ne (token_scan_ne_whitespace_iff.2 stops)]
  exact h.scan_record

theorem nextRegexHere_of_stops (h : SameRestAndReport l l') (stops : Stops isWhitespace l'.rest) :
    l.nextRegexHere.1 = l'.nextRegexHere.1 ∧
      SameRestAndReport l.nextRegexHere.2 l'.nextRegexHere.2 := by
  by_cases hslash : l'.rest.head? = some '/'
  · obtain ⟨cs, hcs⟩ := List.head?_eq_some_iff.1 hslash
    obtain ⟨body, slice, following, rfl, hbody⟩ := Lexeme.exists_regexSpells cs
    obtain ⟨m, hm, hregex⟩ := exists_nextRegexHere_of_slash hbody (h.rest_eq.trans hcs)
    obtain ⟨m', hm', hregex'⟩ := exists_nextRegexHere_of_slash hbody hcs
    rw [hregex, hregex', h.pos_eq]
    exact ⟨rfl, (h.moves hm hm').record ⟨.regex, l'.pos, String.ofList body⟩⟩
  · obtain ⟨m, hm, hregex⟩ := exists_nextRegexHere_of_ne (h.rest_eq ▸ hslash)
    obtain ⟨m', hm', hregex'⟩ := exists_nextRegexHere_of_ne hslash
    rw [hregex, hregex', h.pos_eq]
    apply (((h.moves hm hm').log _ _).emit (.notARegex l'.pos)).next_of_stops
    rw [rest_emit, rest_log, hm'.rest_eq_of_append rfl]
    exact stops

end SameRestAndReport

structure Skips {κ κ' : Type} [CharReader κ] [CharReader κ'] (l : Lexer κ) (l' : Lexer κ') : Prop
    extends SameRestAndReport l l' where
  on : l.settings.skipWhitespace = true
  off : l'.settings.skipWhitespace = false

namespace Skips

variable {κ κ' : Type} [CharReader κ] [CharReader κ'] {l : Lexer κ} {l' : Lexer κ'}

theorem answer_pastWhitespace (h : Skips l l') (call : Call) :
    (answer call l).1.1 = (answer call l'.pastWhitespace).1.1 ∧
      SameRestAndReport (answer call l).2 (answer call l'.pastWhitespace).2 := by
  obtain ⟨run, following, hrest, all, stops⟩ := exists_run isWhitespace l'.rest
  have hrest' : l.rest = run ++ following := h.rest_eq.trans hrest
  -- One call past the whitespace is enough, since it takes the whole run.
  have hpast := moves_pastWhitespace all stops hrest h.off
  have hstops : Stops isWhitespace l'.pastWhitespace.rest := by
    rwa [hpast.rest_eq_of_append hrest]
  cases call with
  | next =>
    obtain ⟨m, hm, hnext⟩ := exists_next_of_run all stops hrest' h.on
    simp only [answer, hnext, next_of_ne (token_scan_ne_whitespace_iff.2 hstops)]
    exact (h.moves hm hpast).scan_record
  | nextRegex =>
    have hsettle : l'.pastWhitespace.settle = l'.pastWhitespace := by
      rw [settle, hpast.settings_eq, h.off]
      rfl
    simp only [answer, nextRegex, hsettle]
    exact (h.moves (moves_settle all stops hrest' h.on) hpast).nextRegexHere_of_stops hstops

theorem observe_pastWhitespace (h : Skips l l') (call : Call) :
    (observe call l).1 = (observe call l'.pastWhitespace).1 ∧
      Skips (observe call l).2 (observe call l'.pastWhitespace).2 := by
  have hanswer := h.answer_pastWhitespace call
  refine ⟨?_, hanswer.2, ?_, ?_⟩
  · simp only [observe, pos_answer, hanswer.1, hanswer.2.pos_eq, hanswer.2.report_eq]
  · exact (congrArg Settings.skipWhitespace (settings_answer call l)).trans h.on
  · have hsettings := settings_answer call l'.pastWhitespace
    rw [settings_pastWhitespace] at hsettings
    exact (congrArg Settings.skipWhitespace hsettings).trans h.off

theorem stream {l : Lexer κ} {l' : Lexer κ'} (h : Skips l l') :
    l.stream.1 = l'.stream.1.filter (·.token ≠ .whitespace) ∧ Skips l.stream.2 l'.stream.2 := by
  rw [stream_eq l', next_of_settings h.off]
  by_cases hw : l'.scan.1.token = .whitespace
  · have hbehind : Skips l.scan.2 (l'.scan.2.record l'.scan.1) := by
      rw [record_of_whitespace hw]
      exact ⟨h.scan.2.log_right (.scanned l'.scan.1), h.on, h.off⟩
    rw [stream_of_next_eq (next_of_whitespace h.on (h.scan.1 ▸ hw))]
    simpa [hw] using hbehind.stream
  · have hbehind : Skips (l.scan.2.record l.scan.1) (l'.scan.2.record l'.scan.1) :=
      ⟨h.scan_record.2, by rw [settings_record]; exact h.on, by rw [settings_record]; exact h.off⟩
    rw [stream_eq l, next_of_ne (h.scan.1 ▸ hw)]
    simp only [h.scan.1] at hbehind ⊢
    by_cases heof : l'.scan.1.token = .eof
    · simpa [heof] using hbehind
    · simpa [heof, hw] using hbehind.stream
termination_by l'.rest.length
decreasing_by
  · rw [rest_record]
    exact length_rest_scan_lt (by rw [hw]; exact Token.noConfusion)
  · rw [rest_record]
    exact length_rest_scan_lt heof

end Skips

/-- To skip whitespace and to be led past it come to the same. -/
theorem run_observe_skipping {σ : Type} [Source σ] (source : σ) (reportDiagnostics : Bool)
    (calls : List Call) :
    let l := ofReader (Cursor.ofSource source) ⟨true, reportDiagnostics⟩
    let l' := ofReader (Cursor.ofSource source) ⟨false, reportDiagnostics⟩
    (run observe calls l).1 = (run (fun call m => observe call m.pastWhitespace) calls l').1 ∧
      l.stream.1 = l'.stream.1.filter (·.token ≠ .whitespace) := by
  intro l l'
  have hstart : Skips l l' := ⟨⟨rfl, rfl, rfl, rfl⟩, rfl, rfl⟩
  have hrun := run_related (R := Skips) (f := id)
    (fun call _ _ h => h.observe_pastWhitespace call) calls hstart
  rw [List.map_id] at hrun
  exact ⟨hrun.1, hstart.stream.1⟩

end Lexer

end QueryLexer
