import QueryLexer.Proofs.Lexer.SameButSource
import QueryLexer.Proofs.Lexer.Content
import QueryLexer.Proofs.Lexer.Progress

namespace QueryLexer

open CharReader (Takes)

def Settings.warned (s : Settings) (p : Position) : List Diagnostic :=
  if s.reportDiagnostics then [.notARegex p] else []

theorem Settings.outline_warned (s : Settings) (p : Position) :
    (s.warned p).map Diagnostic.outline =
      if s.reportDiagnostics then [⟨.warning, some ⟨"W", 1001⟩, p⟩] else [] := by
  rw [warned]
  split
  · rfl
  · rfl

namespace Lexer

section

variable {σ : Type} [Source σ] {base base' l l' : Lexer (Cursor σ)}

def rewound (l : Lexer (Cursor σ)) : Lexer (Cursor σ) :=
  { l.fresh with report := l.report, journal := l.journal }

def aside (l : Lexer (Cursor σ)) : Lexer (Cursor σ) := { l with report := .empty, journal := #[] }

/-- Since two others, both lexers have gone on as one and the same lexer does. -/
def SameSince (base base' l l' : Lexer (Cursor σ)) : Prop :=
  ∃ m : Lexer (Cursor σ), SameRelocated base.rewound l m ∧ SameRelocated base'.rewound l' m

theorem sameRelocated_rewound {m : Lexer (Cursor σ)} (hrest : l.rest = m.rest)
    (hpos : l.pos = m.pos) (hsettings : l.settings = m.settings) :
    SameRelocated l.rewound l m.aside where
  rest_eq := hrest
  pos_eq := hpos.trans (Position.start_relocate m.pos).symm
  settings_eq := hsettings
  report_eq := (List.append_nil _).symm
  journal_eq := (List.append_nil _).symm

namespace SameSince

theorem of_eq (hrest : l.rest = l'.rest) (hpos : l.pos = l'.pos)
    (hsettings : l.settings = l'.settings) : SameSince l l' l l' :=
  ⟨l'.aside, sameRelocated_rewound hrest hpos hsettings, sameRelocated_rewound rfl rfl rfl⟩

theorem rest_eq (h : SameSince base base' l l') : l.rest = l'.rest := by
  obtain ⟨m, hm, hm'⟩ := h
  exact hm.rest_eq.trans hm'.rest_eq.symm

theorem pos_eq (h : SameSince base base' l l') : l.pos = l'.pos := by
  obtain ⟨m, hm, hm'⟩ := h
  exact hm.pos_eq.trans hm'.pos_eq.symm

theorem settings_eq (h : SameSince base base' l l') : l.settings = l'.settings := by
  obtain ⟨m, hm, hm'⟩ := h
  exact hm.settings_eq.trans hm'.settings_eq.symm

theorem exists_report_eq (h : SameSince base base' l l') :
    ∃ own, l.report.toList = base.report.toList ++ own ∧
      l'.report.toList = base'.report.toList ++ own := by
  obtain ⟨m, hm, hm'⟩ := h
  exact ⟨_, hm.report_eq, hm'.report_eq⟩

theorem answer (h : SameSince base base' l l') (call : Call) :
    (answer call l).1 = (answer call l').1 ∧
      SameSince base base' (answer call l).2 (answer call l').2 := by
  obtain ⟨m, hm, hm'⟩ := h
  have hanswer := hm.answer call
  have hanswer' := hm'.answer call
  exact ⟨hanswer.1.trans hanswer'.1.symm, _, hanswer.2, hanswer'.2⟩

theorem run (h : SameSince base base' l l') (calls : List Call) :
    (run Lexer.answer calls l).1 = (run Lexer.answer calls l').1 ∧
      SameSince base base' (run Lexer.answer calls l).2 (run Lexer.answer calls l').2 := by
  have hrun := run_related (R := SameSince base base') (f := id)
    (fun call _ _ h => h.answer call) calls h
  rwa [List.map_id] at hrun

end SameSince

end

theorem report_emit_notARegex {κ : Type} (l : Lexer κ) (p : Position) :
    (l.emit (.notARegex p)).report.toList = l.report.toList ++ l.settings.warned p := by
  rw [emit, Settings.warned]
  split
  · exact Report.toList_emit l.report (.notARegex p)
  · exact (List.append_nil _).symm

section

variable {κ : Type} [CharReader κ] {l : Lexer κ} {gap following : List Char}

theorem scan_of_slash {cs : List Char} (h : l.rest = '/' :: cs) :
    l.scan.1 = ⟨.symbol .div, l.pos, ""⟩ := by
  have hspells : Lexeme.Spells l.pos cs ⟨.symbol .div, l.pos, ""⟩ ['/'] := by
    refine .symbol (s := .div) fun t d ht => ?_
    cases t <;> cases ht
  exact (scan_of_spells hspells h).1

theorem token_scan_eq_div_iff : l.scan.1.token = .symbol .div ↔ l.rest.head? = some '/' := by
  constructor
  · intro h
    cases hrest : l.rest with
    | nil =>
      rw [(scan_of_nil hrest).1] at h
      cases h
    | cons c cs =>
      obtain ⟨slice, htakes, hspells⟩ := exists_scan (hrest ▸ List.cons_ne_nil c cs)
      have htaken : l.rest = slice ++ l.scan.2.rest := htakes.rest_eq
      rw [← hrest, htaken]
      generalize l.scan.1 = x at h hspells
      cases hspells <;> cases h
      rfl
  · intro h
    obtain ⟨cs, hcs⟩ := List.head?_eq_some_iff.1 h
    rw [scan_of_slash hcs]

theorem token_scan_ne_regex (l : Lexer κ) : l.scan.1.token ≠ .regex := by
  intro h
  cases hrest : l.rest with
  | nil =>
    rw [(scan_of_nil hrest).1] at h
    cases h
  | cons c cs =>
    obtain ⟨slice, htakes, hspells⟩ := exists_scan (hrest ▸ List.cons_ne_nil c cs)
    generalize l.scan.1 = x at h hspells
    cases hspells <;> cases h

def passedOver (l : Lexer κ) : List Char :=
  if l.settings.skipWhitespace then l.rest.takeWhile isWhitespace else []

theorem passedOver_eq (h : Skipped l.settings gap following) (hrest : l.rest = gap ++ following) :
    l.passedOver = gap := by
  rw [passedOver]
  split
  · next skip => rw [hrest, takeWhile_of_stops h.all (h.stops skip)]
  · next skip => exact (h.eq_nil (Bool.not_eq_true _ ▸ skip)).symm

theorem report_next_eq (l : Lexer κ) :
    l.next.2.report.toList = l.report.toList ++ l.settings.reported [l.next.1] := by
  obtain ⟨gap, following, hrest, hskip⟩ := exists_skipped l.settings l.rest
  obtain ⟨m, hm, hnext⟩ := exists_next_of_skipped hskip hrest
  rw [hnext, report_record_eq, settings_scan, hm.settings_eq, ← hm.report_eq]
  rfl

section

variable (hskip : Skipped l.settings gap following) (hrest : l.rest = gap ++ following)

include hskip hrest

theorem next_of_slash (slash : following.head? = some '/') :
    l.next.1 = ⟨.symbol .div, l.pos.afterAll gap, ""⟩ := by
  obtain ⟨cs, rfl⟩ := List.head?_eq_some_iff.1 slash
  obtain ⟨m, hm, hnext⟩ := exists_next_of_skipped hskip hrest
  rw [hnext, scan_of_slash (hm.rest_eq_of_append hrest), hm.pos_eq]

theorem nextRegex_of_slash (slash : following.head? = some '/') :
    ∃ body, l.nextRegex.1 = ⟨.regex, l.pos.afterAll gap, body⟩ ∧
      l.nextRegex.2.report = l.report := by
  obtain ⟨cs, rfl⟩ := List.head?_eq_some_iff.1 slash
  obtain ⟨body, slice, following, rfl, hbody⟩ := Lexeme.exists_regexSpells cs
  have hm := moves_settle_of_skipped hskip hrest
  obtain ⟨n, hn, hregex⟩ := exists_nextRegexHere_of_slash hbody (hm.rest_eq_of_append hrest)
  rw [nextRegex, hregex, hm.pos_eq]
  exact ⟨_, rfl, (hm.trans hn).report_eq⟩

theorem token_next_of_ne (ne : following.head? ≠ some '/') :
    l.next.1.token ≠ .symbol .div ∧ l.next.1.token ≠ .regex := by
  obtain ⟨m, hm, hnext⟩ := exists_next_of_skipped hskip hrest
  rw [hnext]
  refine ⟨mt token_scan_eq_div_iff.1 ?_, m.token_scan_ne_regex⟩
  rwa [hm.rest_eq_of_append hrest]

theorem exists_nextRegex_of_ne (ne : following.head? ≠ some '/') :
    ∃ m : Lexer κ, Takes l.reader gap m.reader ∧ m.settings = l.settings ∧
      m.report.toList = l.report.toList ++ l.settings.warned (l.pos.afterAll gap) ∧
      l.nextRegex = m.next := by
  have hsettle := moves_settle_of_skipped hskip hrest
  obtain ⟨n, hn, hregex⟩ := exists_nextRegexHere_of_ne (l := l.settle)
    (by rwa [hsettle.rest_eq_of_append hrest])
  have hm := hsettle.trans hn
  rw [List.append_nil] at hm
  refine ⟨_, ?_, ?_, ?_, hregex⟩
  · rw [reader_emit]
    exact hm.takes
  · rw [settings_emit, settings_log, hm.settings_eq]
  · rw [report_emit_notARegex, settings_log, report_log, hm.settings_eq, hm.report_eq,
      hsettle.pos_eq]

end

end

section

variable {σ : Type} [Source σ] {l : Lexer (Cursor σ)} {gap following : List Char}

theorem nextRegex_of_ne (hskip : Skipped l.settings gap following)
    (hrest : l.rest = gap ++ following) (ne : following.head? ≠ some '/') :
    l.nextRegex.1 = l.next.1 ∧ SameSince l.next.2 l.nextRegex.2 l.next.2 l.nextRegex.2 ∧
      l.nextRegex.2.report.toList = l.report.toList ++ l.settings.warned (l.pos.afterAll gap) ++
        l.settings.reported [l.next.1] := by
  obtain ⟨m, hm, hnext⟩ := exists_next_of_skipped hskip hrest
  obtain ⟨n, hn, hsettings, hreport, hregex⟩ := exists_nextRegex_of_ne hskip hrest ne
  have hskip' : Skipped m.settings [] m.rest := by
    rw [hm.settings_eq, hm.rest_eq_of_append hrest]
    exact ⟨List.forall_mem_nil _, fun _ => rfl, hskip.stops⟩
  have hrest' : m.rest = n.rest :=
    (hm.rest_eq_of_append hrest).trans (hn.rest_eq_of_append hrest).symm
  have hsince : SameSince m n m n :=
    .of_eq hrest' (hm.pos_eq.trans hn.pos_eq.symm) (hm.settings_eq.trans hsettings.symm)
  rw [← next_of_skipped hskip'] at hnext
  obtain ⟨hx, hsince'⟩ := hsince.answer .next
  have hx' : l.nextRegex.1 = l.next.1 := by
    rw [hnext, hregex]
    exact (congrArg Prod.fst hx).symm
  refine ⟨hx', ?_, ?_⟩
  · rw [hnext, hregex]
    exact .of_eq hsince'.rest_eq hsince'.pos_eq hsince'.settings_eq
  · rw [← hx', hregex, report_next_eq, hreport, hsettings]

/-- Where no slash comes next, to expect a regular expression adds one warning to the report. -/
theorem next_nextRegex (l : Lexer (Cursor σ)) :
    let r := l.next
    let r' := l.nextRegex
    (r.1.token = .symbol .div ↔ r'.1.token = .regex) ∧
      (r.1.token = .symbol .div → r'.1.pos = r.1.pos) ∧
      (r.1.token ≠ .symbol .div →
        r'.1 = r.1 ∧ r'.2.pos = r.2.pos ∧ r'.2.rest = r.2.rest ∧
        ∃ warnings : List Diagnostic,
          warnings.map Diagnostic.outline =
            (if l.settings.reportDiagnostics then
              [⟨.warning, some ⟨"W", 1001⟩, l.pos.afterAll l.passedOver⟩] else []) ∧
          r.2.report.toList = l.report.toList ++ l.settings.reported [r.1] ∧
          r'.2.report.toList = l.report.toList ++ warnings ++ l.settings.reported [r.1] ∧
          ∀ later, (run answer later r'.2).1 = (run answer later r.2).1 ∧
            ∃ own, (run answer later r.2).2.report.toList = r.2.report.toList ++ own ∧
              (run answer later r'.2).2.report.toList = r'.2.report.toList ++ own) := by
  intro r r'
  obtain ⟨gap, following, hrest, hskip⟩ := exists_skipped l.settings l.rest
  by_cases slash : following.head? = some '/'
  · have hdiv := next_of_slash hskip hrest slash
    obtain ⟨body, hregex, -⟩ := nextRegex_of_slash hskip hrest slash
    have htoken : r.1.token = .symbol .div := congrArg Lexeme.token hdiv
    have htoken' : r'.1.token = .regex := congrArg Lexeme.token hregex
    refine ⟨⟨fun _ => htoken', fun _ => htoken⟩, fun _ => ?_, fun h => absurd htoken h⟩
    exact (congrArg Lexeme.pos hregex).trans (congrArg Lexeme.pos hdiv).symm
  · obtain ⟨hdiv, hregex⟩ := token_next_of_ne hskip hrest slash
    obtain ⟨hx, hsince, hreport⟩ := nextRegex_of_ne hskip hrest slash
    have htoken : r'.1.token ≠ .regex := fun h => hregex ((congrArg Lexeme.token hx).symm.trans h)
    refine ⟨⟨fun h => absurd h hdiv, fun h => absurd h htoken⟩, fun h => absurd h hdiv, fun _ => ?_⟩
    refine ⟨hx, hsince.pos_eq.symm, hsince.rest_eq.symm, l.settings.warned (l.pos.afterAll gap),
      ?_, l.report_next_eq, hreport, fun later => ?_⟩
    · rw [passedOver_eq hskip hrest]
      exact l.settings.outline_warned _
    · obtain ⟨hanswers, hsince'⟩ := hsince.run later
      exact ⟨hanswers.symm, hsince'.exists_report_eq⟩

theorem next_nextRegex_badEscape :
    let l := Lexer.ofString "\n 'a\\qb'" ⟨true, true⟩
    l.next.1 = ⟨.badEscape, ⟨1, 3⟩, "\\q"⟩ ∧ l.nextRegex.1 = l.next.1 ∧
      l.nextRegex.2.pos = l.next.2.pos ∧ l.nextRegex.2.rest = l.next.2.rest ∧
      l.nextRegex.2.report.toList.map Diagnostic.outline =
        [⟨.warning, some ⟨"W", 1001⟩, ⟨1, 1⟩⟩, ⟨.error, some ⟨"E", 1003⟩, ⟨1, 3⟩⟩] := by
  intro l
  have hne : l.next.1.token ≠ .symbol .div := by decide +kernel
  obtain ⟨hx, hpos, hrest, -⟩ := (next_nextRegex l).2.2 hne
  exact ⟨by decide +kernel, hx, hpos, hrest, by decide +kernel⟩

end

end Lexer

end QueryLexer
