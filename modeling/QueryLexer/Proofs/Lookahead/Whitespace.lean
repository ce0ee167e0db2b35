import Mathlib.Data.List.Chain
import QueryLexer.Proofs.Lexer.Slash
import QueryLexer.Proofs.Lookahead.History

namespace QueryLexer

namespace Lexer

variable {κ : Type} [CharReader κ] {l : Lexer κ}

theorem stops_scan (h : l.scan.1.token = .whitespace) : Stops isWhitespace l.scan.2.rest := by
  cases hrest : l.rest with
  | nil =>
    rw [(scan_of_nil hrest).1] at h
    cases h
  | cons c cs =>
    obtain ⟨slice, -, hspells⟩ := exists_scan (hrest ▸ List.cons_ne_nil c cs)
    generalize l.scan.1 = x at h hspells
    cases hspells <;> cases h
    assumption

theorem token_next_ne_whitespace (h : Stops isWhitespace l.rest) :
    l.next.1.token ≠ .whitespace := by
  have hscan := token_scan_ne_whitespace_iff.2 h
  rwa [next_of_ne hscan]

theorem stops_next (h : l.next.1.token = .whitespace) : Stops isWhitespace l.next.2.rest := by
  obtain ⟨gap, following, hrest, hskip⟩ := exists_skipped l.settings l.rest
  obtain ⟨m, -, hnext⟩ := exists_next_of_skipped hskip hrest
  rw [hnext] at h ⊢
  rw [rest_record]
  exact stops_scan h

theorem token_nextRegex_ne_whitespace (h : Stops isWhitespace l.rest) :
    l.nextRegex.1.token ≠ .whitespace := by
  have hskip : Skipped l.settings [] l.rest := ⟨List.forall_mem_nil _, fun _ => rfl, fun _ => h⟩
  by_cases slash : l.rest.head? = some '/'
  · obtain ⟨body, hregex, -⟩ := nextRegex_of_slash hskip rfl slash
    rw [hregex]
    exact Token.noConfusion
  · obtain ⟨m, hm, -, -, hregex⟩ := exists_nextRegex_of_ne hskip rfl slash
    have hrest : m.rest = l.rest := hm.rest_eq.symm
    rw [hregex]
    apply token_next_ne_whitespace
    rwa [hrest]

theorem stops_skipWhitespace (l : Lexer κ) : Stops isWhitespace l.skipWhitespace.rest := by
  change Stops isWhitespace (CharReader.rest (CharReader.skipWhile isWhitespace l.reader))
  rw [CharReader.rest_skipWhile]
  exact stops_dropWhile isWhitespace _

structure TakesRuns (fetch : Lexer κ → Lexeme × Lexer κ) : Prop where
  ne_whitespace : ∀ l, Stops isWhitespace l.rest → (fetch l).1.token ≠ .whitespace
  stops : ∀ l, (fetch l).1.token = .whitespace → Stops isWhitespace (fetch l).2.rest

theorem takesRuns_next : TakesRuns (next (κ := κ)) :=
  ⟨fun _ => token_next_ne_whitespace, fun _ => stops_next⟩

theorem takesRuns_nextRegex : TakesRuns fun l : Lexer κ => l.skipWhitespace.nextRegex where
  ne_whitespace l _ := token_nextRegex_ne_whitespace l.stops_skipWhitespace
  stops l h := absurd h (token_nextRegex_ne_whitespace l.stops_skipWhitespace)

end Lexer

def Lexeme.Apart (x y : Lexeme) : Prop := x.token = .whitespace → y.token ≠ .whitespace

namespace History

variable {κ : Type}

def before (h : History κ) : List Lexeme := h.given.take h.index

theorem before_nextWith (fetch : Lexer κ → Lexeme × Lexer κ) (h : History κ) :
    (h.nextWith fetch).2.before = h.before ++ [(h.nextWith fetch).1] := by
  rw [nextWith]
  split
  · next hi => exact List.take_succ_eq_append_getElem hi
  · next hi =>
    have hall : h.before = h.given := List.take_of_length_le (Nat.not_lt.1 hi)
    rw [hall, before]
    apply List.take_of_length_le
    rw [List.length_append, List.length_singleton]

theorem before_passWhitespace (h : History κ) :
    ∃ skipped : List Lexeme, skipped.length ≤ 1 ∧ (∀ y ∈ skipped, y.token = .whitespace) ∧
      h.passWhitespace.before = h.before ++ skipped := by
  rw [passWhitespace]
  split
  · next hi =>
    obtain ⟨hlt, hw⟩ := hi
    exact ⟨[h.given[h.index]], Nat.le_refl 1, List.forall_mem_singleton.2 hw,
      List.take_succ_eq_append_getElem hlt⟩
  · exact ⟨[], Nat.zero_le 1, List.forall_mem_nil _, (List.append_nil _).symm⟩

variable [CharReader κ]

def Passes (h : History κ) (r : Lexeme × History κ) : Prop :=
  ∃ skipped : List Lexeme, skipped.length ≤ 1 ∧ (∀ y ∈ skipped, y.token = .whitespace) ∧
    r.1.token ≠ .whitespace ∧ r.2.before = h.before ++ skipped ++ [r.1]

/-- No whitespace stands beside whitespace, neither given out nor still to be read. -/
structure Spaced (h : History κ) : Prop where
  apart : h.given.IsChain Lexeme.Apart
  stops : ∀ x ∈ h.given.getLast?, x.token = .whitespace → Stops isWhitespace h.lexer.rest

namespace Spaced

variable {h : History κ} {fetch : Lexer κ → Lexeme × Lexer κ}

theorem ofLexer (l : Lexer κ) : (History.ofLexer l).Spaced := ⟨.nil, fun _ hx => nomatch hx⟩

theorem fetched (hs : h.Spaced) (hf : Lexer.TakesRuns fetch) {index : Nat}
    (index_le : index ≤ (h.given ++ [(fetch h.lexer).1]).length) :
    Spaced ⟨(fetch h.lexer).2, h.given ++ [(fetch h.lexer).1], index, index_le⟩ := by
  refine ⟨hs.apart.append (.singleton _) ?_, ?_⟩
  -- Whitespace was taken up to its end, so the lexeme that is fetched behind it is none.
  · rintro x hx y ⟨⟩ hw
    exact hf.ne_whitespace h.lexer (hs.stops x hx hw)
  · intro x hx hw
    rw [List.getLast?_concat] at hx
    cases hx
    exact hf.stops h.lexer hw

theorem nextWith (hs : h.Spaced) (hf : Lexer.TakesRuns fetch) : (h.nextWith fetch).2.Spaced := by
  rw [History.nextWith]
  split
  · exact ⟨hs.apart, hs.stops⟩
  · exact hs.fetched hf _

theorem stepBack (hs : h.Spaced) : h.stepBack.Spaced := by
  rw [History.stepBack]
  split
  · exact ⟨hs.apart, hs.stops⟩
  · exact ⟨hs.apart, hs.stops⟩

theorem passWhitespace (hs : h.Spaced) : h.passWhitespace.Spaced := by
  rw [History.passWhitespace]
  split
  · exact ⟨hs.apart, hs.stops⟩
  · exact hs

theorem next (hs : h.Spaced) : h.next.2.Spaced := hs.nextWith Lexer.takesRuns_next

theorem answer (hs : h.Spaced) (call : Lookahead.Call) : (answer call h).2.Spaced := by
  cases call with
  | next => exact hs.next
  | stepBack => exact hs.stepBack
  | peek =>
    simp only [History.answer, History.peek]
    split
    · exact hs
    · exact hs.fetched Lexer.takesRuns_next _
  | nextIgnoringWhitespace =>
    simp only [History.answer, History.nextIgnoringWhitespace]
    split
    · exact hs.next.next
    · exact hs.next
  | nextRegex => exact hs.passWhitespace.nextWith Lexer.takesRuns_nextRegex

theorem token_nextWith_ne (hs : h.Spaced) (hf : Lexer.TakesRuns fetch) {x : Lexeme}
    (hx : x ∈ h.before.getLast?) (hw : x.token = .whitespace) :
    (h.nextWith fetch).1.token ≠ .whitespace := by
  have hchain : (h.nextWith fetch).2.before.IsChain Lexeme.Apart :=
    (hs.nextWith hf).apart.take (h.nextWith fetch).2.index
  rw [before_nextWith, List.isChain_append] at hchain
  exact hchain.2.2 x hx _ rfl hw

theorem passes_nextIgnoringWhitespace (hs : h.Spaced) : h.Passes h.nextIgnoringWhitespace := by
  have hnext : h.next.2.before = h.before ++ [h.next.1] := h.before_nextWith Lexer.next
  rw [History.nextIgnoringWhitespace]
  split
  · next hw =>
    have hlast : h.next.1 ∈ h.next.2.before.getLast? := by
      rw [hnext, List.getLast?_concat]
      rfl
    refine ⟨[h.next.1], Nat.le_refl 1, List.forall_mem_singleton.2 hw,
      hs.next.token_nextWith_ne Lexer.takesRuns_next hlast hw, ?_⟩
    rw [← hnext]
    exact h.next.2.before_nextWith Lexer.next
  · next hw =>
    refine ⟨[], Nat.zero_le 1, List.forall_mem_nil _, hw, ?_⟩
    rwa [List.append_nil]

theorem token_nextRegex_ne (hs : h.Spaced) : h.nextRegex.1.token ≠ .whitespace := by
  -- A regular expression is asked for behind whitespace, or else before a lexeme that is none.
  by_cases hpass : ∃ hi : h.index < h.given.length, h.given[h.index].token = .whitespace
  · have hspaced := hs.passWhitespace
    rw [History.nextRegex]
    rw [History.passWhitespace, dif_pos hpass] at hspaced ⊢
    obtain ⟨hi, hw⟩ := hpass
    refine hspaced.token_nextWith_ne Lexer.takesRuns_nextRegex (x := h.given[h.index]) ?_ hw
    rw [before, List.take_succ_eq_append_getElem hi, List.getLast?_concat]
    rfl
  · rw [History.nextRegex, History.passWhitespace, dif_neg hpass, History.nextWith]
    split
    · next hi => exact fun hw => hpass ⟨hi, hw⟩
    · exact Lexer.token_nextRegex_ne_whitespace h.lexer.stops_skipWhitespace

theorem passes_nextRegex (hs : h.Spaced) : h.Passes h.nextRegex := by
  obtain ⟨skipped, hlength, hall, hbefore⟩ := h.before_passWhitespace
  refine ⟨skipped, hlength, hall, hs.token_nextRegex_ne, ?_⟩
  rw [← hbefore]
  exact h.passWhitespace.before_nextWith _

end Spaced

theorem spaced_run (l : Lexer κ) (calls : List Lookahead.Call) :
    (run answer calls (ofLexer l)).2.Spaced :=
  run_preserves (fun call _ hs => hs.answer call) calls (.ofLexer l)

end History

namespace Lookahead

variable {κ : Type} [CharReader κ]

/-- The calls that pass over whitespace never give it out, and pass over one lexeme at most. -/
theorem run_passes (l : Lexer κ) (calls : List Call) :
    let b := (run answer calls (ofLexer l)).2
    let h := (run History.answer calls (.ofLexer l)).2
    b.Tracks h ∧
      ∀ call ∈ [Call.nextIgnoringWhitespace, Call.nextRegex],
        ∃ (x : Lexeme) (skipped : List Lexeme),
          (answer call b).1 = some x ∧ x.token ≠ .whitespace ∧
          skipped.length ≤ 1 ∧ (∀ y ∈ skipped, y.token = .whitespace) ∧
          (answer call b).2.Tracks (History.answer call h).2 ∧
          (History.answer call h).2.before = h.before ++ skipped ++ [x] := by
  intro b h
  have htracks : b.Tracks h := (run_tracks l calls).2
  have hspaced : h.Spaced := History.spaced_run l calls
  refine ⟨htracks, fun call hcall => ?_⟩
  have hpasses : ∃ x, (History.answer call h).1 = some x ∧
      h.Passes (x, (History.answer call h).2) := by
    rcases List.mem_pair.1 hcall with rfl | rfl
    · exact ⟨_, rfl, hspaced.passes_nextIgnoringWhitespace⟩
    · exact ⟨_, rfl, hspaced.passes_nextRegex⟩
  obtain ⟨x, hx, skipped, hlength, hall, hne, hbefore⟩ := hpasses
  obtain ⟨hanswer, htracks'⟩ := htracks.answer call
  exact ⟨x, skipped, hanswer.trans hx, hne, hlength, hall, htracks', hbefore⟩

theorem run_passes_peeked :
    let b := (run answer [.next, .peek] (ofLexer (.ofString "= /a/" ⟨false, true⟩))).2
    b.ring.nextPending?.map Lexeme.token = some .whitespace ∧
      ∀ call ∈ [Call.nextIgnoringWhitespace, Call.nextRegex],
        ∃ x, (answer call b).1 = some x ∧ x.token ≠ .whitespace := by
  intro b
  refine ⟨by decide +kernel, fun call hcall => ?_⟩
  obtain ⟨x, -, hx, hne, -⟩ :=
    (run_passes (.ofString "= /a/" ⟨false, true⟩) [.next, .peek]).2 call hcall
  exact ⟨x, hx, hne⟩

end Lookahead

end QueryLexer
