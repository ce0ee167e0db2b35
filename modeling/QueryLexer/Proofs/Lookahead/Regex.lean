import QueryLexer.Proofs.Lexer.Slash
import QueryLexer.Proofs.Lookahead.History

namespace QueryLexer

namespace Lexer

variable {κ : Type} [CharReader κ] {l m : Lexer κ} {c : Char} {gap following : List Char}

theorem token_next_eq_whitespace (skip : l.settings.skipWhitespace = false)
    (hc : l.rest.head? = some c) (blank : isWhitespace c = true) :
    l.next.1.token = .whitespace := by
  rw [next_of_settings skip]
  refine Decidable.not_not.1 fun hne => ?_
  have hstops := token_scan_ne_whitespace_iff.1 hne c hc
  rw [blank] at hstops
  cases hstops

theorem moves_skipWhitespace_of_looked (skip : l.settings.skipWhitespace = false)
    (hc : l.rest.head? = some c) (blank : isWhitespace c = true)
    (all : ∀ c ∈ gap, isWhitespace c = true) (stops : Stops isWhitespace following)
    (hrest : l.rest = gap ++ following) (looked : m = l ∨ m = l.next.2) :
    Moves l gap m.skipWhitespace := by
  rcases looked with rfl | rfl
  · exact moves_skipWhitespace all stops hrest
  · have hpast : l.pastWhitespace = l.next.2 := by
      rw [pastWhitespace, hc]
      exact if_pos blank
    have hnext := moves_pastWhitespace all stops hrest skip
    rw [hpast] at hnext
    have hskip := moves_skipWhitespace (List.forall_mem_nil _) stops
      (hnext.rest_eq_of_append hrest)
    have hmoves := hnext.trans hskip
    rwa [List.append_nil] at hmoves

theorem nextRegex_of_settings (skip : l.settings.skipWhitespace = false) :
    l.nextRegex = l.nextRegexHere := by
  rw [nextRegex, settle, skip]
  rfl

theorem nextRegex_of_looked (skip : l.settings.skipWhitespace = false)
    (hc : l.rest.head? = some c) (blank : isWhitespace c = true) (looked : m = l ∨ m = l.next.2) :
    m.skipWhitespace.nextRegex.1 = l.skipWhitespace.nextRegex.1 ∧
      SameRestAndReport m.skipWhitespace.nextRegex.2 l.skipWhitespace.nextRegex.2 := by
  obtain ⟨gap, following, hrest, all, stops⟩ := exists_run isWhitespace l.rest
  have hm := moves_skipWhitespace_of_looked skip hc blank all stops hrest looked
  have hl := moves_skipWhitespace all stops hrest
  have hsame : SameRestAndReport m.skipWhitespace l.skipWhitespace :=
    SameRestAndReport.moves ⟨rfl, rfl, rfl, rfl⟩ hm hl
  have hskip : m.skipWhitespace.settings.skipWhitespace = false := by rw [hm.settings_eq, skip]
  have hstops : Stops isWhitespace l.skipWhitespace.rest := by
    rwa [hl.rest_eq_of_append hrest]
  rw [nextRegex_of_settings hskip, nextRegex_of_settings (l := l.skipWhitespace) skip]
  exact hsame.nextRegexHere_of_stops hstops

theorem nextRegex_skipWhitespace_of_slash {text : List Char}
    (all : ∀ c ∈ gap, isWhitespace c = true) (hrest : l.rest = gap ++ '/' :: text) :
    ∃ body, l.skipWhitespace.nextRegex.1 = ⟨.regex, l.pos.afterAll gap, body⟩ ∧
      l.skipWhitespace.nextRegex.2.report = l.report := by
  have hm := moves_skipWhitespace all (stops_cons rfl) hrest
  have hskip : Skipped l.skipWhitespace.settings [] ('/' :: text) :=
    ⟨List.forall_mem_nil _, fun _ => rfl, fun _ => stops_cons rfl⟩
  obtain ⟨body, hregex, hreport⟩ :=
    nextRegex_of_slash hskip (hm.rest_eq_of_append hrest) rfl
  rw [hregex, hm.pos_eq]
  exact ⟨body, rfl, hreport⟩

end Lexer

namespace Ring

variable {r : Ring} (h : r.pending < r.filled)

theorem release_hold : (r.hold h).release = r := rfl

theorem nextPending?_hold : (r.hold h).nextPending? = some r.current := rfl

end Ring

namespace Lookahead

variable {κ : Type} {b : Lookahead κ}

theorem nextWith_of_pending (h : b.ring.pending = 0) (fetch : Lexer κ → Lexeme × Lexer κ) :
    b.nextWith fetch =
      ((fetch b.lexer).1, ⟨(fetch b.lexer).2, b.ring.push (fetch b.lexer).1⟩) := by
  have hcurrent : (b.ring.push (fetch b.lexer).1).current = (fetch b.lexer).1 := by
    have hpending : (b.ring.push (fetch b.lexer).1).pending = 0 := h
    rw [Ring.current, hpending, Ring.slot_push_zero]
  rw [nextWith, if_neg (by rw [h]; exact Nat.lt_irrefl 0)]
  simp only [hcurrent]

theorem current_nextWith (fetch : Lexer κ → Lexeme × Lexer κ) (b : Lookahead κ) :
    (b.nextWith fetch).2.ring.current = (b.nextWith fetch).1 := by
  rw [nextWith]
  split
  · rfl
  · rfl

theorem passWhitespace_of_pending (h : b.ring.pending = 0) : b.passWhitespace = b := by
  have hnone : b.ring.nextPending? = none := if_pos h
  rw [passWhitespace, hnone]
  rfl

variable [CharReader κ]

theorem nextRegex_of_pending (h : b.ring.pending = 0) :
    b.nextRegex = (b.lexer.skipWhitespace.nextRegex.1,
      ⟨b.lexer.skipWhitespace.nextRegex.2, b.ring.push b.lexer.skipWhitespace.nextRegex.1⟩) := by
  rw [nextRegex, passWhitespace_of_pending h]
  exact nextWith_of_pending h _

theorem pending_next (h : b.ring.pending = 0) : b.next.2.ring.pending = 0 := by
  rw [next, nextWith_of_pending h]
  exact h

theorem passWhitespace_peek (h : b.ring.pending = 0) (hw : b.next.1.token = .whitespace) :
    b.peek.2.passWhitespace = b.next.2 := by
  have hlt : b.next.2.ring.pending < b.next.2.ring.filled := by
    rw [pending_next h, next, nextWith_of_pending h]
    exact Nat.lt_min.2 ⟨Nat.succ_pos _, by decide⟩
  have hcurrent : b.next.2.ring.current = b.next.1 := current_nextWith Lexer.next b
  rw [peek, stepBack, dif_pos hlt, passWhitespace, Ring.nextPending?_hold, Option.any_some,
    hcurrent, if_pos (decide_eq_true hw), Ring.release_hold]

theorem nextRegex_peek (h : b.ring.pending = 0) (hw : b.next.1.token = .whitespace) :
    b.peek.2.nextRegex = b.next.2.nextRegex := by
  rw [nextRegex, passWhitespace_peek h hw, nextRegex, passWhitespace_of_pending (pending_next h)]

theorem exists_nextRegex_of_looks (h : b.ring.pending = 0)
    (hw : b.lexer.next.1.token = .whitespace) {looks : List Call}
    (hlooks : looks ∈ [[], [Call.peek], [Call.next]]) :
    ∃ b' : Lookahead κ, b'.ring.pending = 0 ∧
      (b'.lexer = b.lexer ∨ b'.lexer = b.lexer.next.2) ∧
      (run answer looks b).2.nextRegex = b'.nextRegex := by
  have hnext : b.next = _ := nextWith_of_pending h Lexer.next
  have hlexer : b.next.2.lexer = b.lexer.next.2 := by rw [hnext]
  simp only [List.mem_cons, List.not_mem_nil, or_false] at hlooks
  -- A peek is as good as giving the whitespace out, since that is passed over.
  rcases hlooks with rfl | rfl | rfl
  · exact ⟨b, h, .inl rfl, rfl⟩
  · exact ⟨b.next.2, pending_next h, .inr hlexer, nextRegex_peek h (by rwa [hnext])⟩
  · exact ⟨b.next.2, pending_next h, .inr hlexer, rfl⟩

/-- Looking at whitespace does not lose the regular expression behind it. -/
theorem nextRegex_of_looks (b : Lookahead κ) (off : b.lexer.settings.skipWhitespace = false)
    (idle : b.ring.pending = 0)
    (blank : ∃ c, b.lexer.rest.head? = some c ∧ (c = ' ' ∨ c = '\t' ∨ c = '\n')) :
    ∀ looks ∈ [[], [Call.peek], [Call.next]],
      let direct := b.nextRegex
      let r := (run answer looks b).2.nextRegex
      r.1 = direct.1 ∧ r.2.lexer.rest = direct.2.lexer.rest ∧
        r.2.lexer.pos = direct.2.lexer.pos ∧ r.2.lexer.report = direct.2.lexer.report ∧
        r.2.ring.pending = 0 ∧
        ∀ gap text, b.lexer.rest = gap ++ '/' :: text →
          (∀ c ∈ gap, c = ' ' ∨ c = '\t' ∨ c = '\n') →
          r.1.token = .regex ∧ r.1.pos = b.lexer.pos.afterAll gap ∧
            r.2.lexer.report = b.lexer.report := by
  intro looks hlooks direct r
  obtain ⟨c, hc, hblank⟩ := blank
  have hwhite : isWhitespace c = true := isWhitespace_iff.2 hblank
  have hw := Lexer.token_next_eq_whitespace off hc hwhite
  obtain ⟨b', hpending, hlooked, hr⟩ := exists_nextRegex_of_looks idle hw hlooks
  obtain ⟨hx, hsame⟩ := Lexer.nextRegex_of_looked off hc hwhite hlooked
  have hdirect : direct = _ := nextRegex_of_pending idle
  have hr' : r = _ := hr.trans (nextRegex_of_pending hpending)
  rw [hdirect, hr']
  refine ⟨hx, hsame.rest_eq, hsame.pos_eq, hsame.report_eq, hpending, ?_⟩
  intro gap text hrest hgap
  obtain ⟨body, hregex, hreport⟩ := Lexer.nextRegex_skipWhitespace_of_slash
    (fun c hc => isWhitespace_iff.2 (hgap c hc)) hrest
  rw [hx, hregex]
  exact ⟨rfl, rfl, hsame.report_eq.trans hreport⟩

theorem nextRegex_of_looks_wrapped :
    let l := Lexer.ofString "a b= \n /c\\/d/" ⟨false, true⟩
    let b := (run answer [.next, .nextIgnoringWhitespace, .peek, .next] (ofLexer l)).2
    b.ring.index = 1 ∧ b.lexer.settings.skipWhitespace = false ∧ b.ring.pending = 0 ∧
      (∃ c, b.lexer.rest.head? = some c ∧ (c = ' ' ∨ c = '\t' ∨ c = '\n')) ∧
      ∀ looks ∈ [[], [Call.peek], [Call.next]],
        (run answer looks b).2.nextRegex.1 = ⟨.regex, ⟨1, 1⟩, "c/d"⟩ ∧
          (run answer looks b).2.nextRegex.2.lexer.report = b.lexer.report := by
  intro l b
  have off : b.lexer.settings.skipWhitespace = false := by decide +kernel
  have idle : b.ring.pending = 0 := by decide +kernel
  have blank : ∃ c, b.lexer.rest.head? = some c ∧ (c = ' ' ∨ c = '\t' ∨ c = '\n') :=
    ⟨' ', by decide +kernel, .inl rfl⟩
  have hrest : b.lexer.rest = [' ', '\n', ' '] ++ '/' :: "c\\/d/".toList := by decide +kernel
  refine ⟨by decide +kernel, off, idle, blank, fun looks hlooks => ?_⟩
  obtain ⟨hx, -, -, -, -, hslash⟩ := nextRegex_of_looks b off idle blank looks hlooks
  exact ⟨hx.trans (by decide +kernel), (hslash _ _ hrest (by simp)).2.2⟩

end Lookahead

end QueryLexer
