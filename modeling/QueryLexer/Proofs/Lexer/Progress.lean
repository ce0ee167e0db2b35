import QueryLexer.Proofs.Lexer.Moves

/-!
Progress, and the end of the text. Main statement: a call gives the end just where nothing but
skipped whitespace is left, any other call takes a character, and behind the end nothing changes.
-/

namespace QueryLexer

open CharReader (Takes)

/-- The whitespace that is passed over before a lexeme. Without skipping there is none. -/
structure Skipped (s : Settings) (gap following : List Char) : Prop where
  all : ∀ c ∈ gap, isWhitespace c = true
  eq_nil : s.skipWhitespace = false → gap = []
  stops : s.skipWhitespace = true → Stops isWhitespace following

theorem exists_skipped (s : Settings) (cs : List Char) :
    ∃ gap following, cs = gap ++ following ∧ Skipped s gap following := by
  cases hs : s.skipWhitespace with
  | false =>
    refine ⟨[], cs, rfl, List.forall_mem_nil _, fun _ => rfl, fun skip => ?_⟩
    rw [hs] at skip
    cases skip
  | true =>
    obtain ⟨gap, following, hcs, all, stops⟩ := exists_run isWhitespace cs
    refine ⟨gap, following, hcs, all, fun skip => ?_, fun _ => stops⟩
    rw [hs] at skip
    cases skip

namespace Lexer

variable {κ : Type} [CharReader κ] {l m l' : Lexer κ} {x : Lexeme} {gap following : List Char}

def Exhausted (l : Lexer κ) : Prop :=
  if l.settings.skipWhitespace then ∀ c ∈ l.rest, c = ' ' ∨ c = '\t' ∨ c = '\n' else l.rest = []

theorem exhausted_iff (hskip : Skipped l.settings gap following)
    (hrest : l.rest = gap ++ following) : l.Exhausted ↔ following = [] := by
  rw [Exhausted, hrest]
  split
  · next skip =>
    constructor
    · intro hall
      cases following with
      | nil => rfl
      | cons c cs =>
        have hc := isWhitespace_iff.2 (hall c (by simp))
        rw [hskip.stops skip c rfl] at hc
        cases hc
    · rintro rfl c hc
      rw [List.append_nil] at hc
      exact isWhitespace_iff.1 (hskip.all c hc)
  · next skip =>
    rw [hskip.eq_nil (Bool.not_eq_true _ ▸ skip), List.nil_append]

/-- What a call gives out, and what it takes: whitespace that is skipped, and a lexeme with its
position somewhere in its slice, unless the end is reached. -/
inductive Gives (l : Lexer κ) : Lexeme → Lexer κ → Prop
  | eof {gap : List Char} {l' : Lexer κ} (skipped : Skipped l.settings gap [])
      (takes : Takes l.reader gap l'.reader) (atEnd : l'.rest = []) :
      Gives l ⟨.eof, l'.pos, ""⟩ l'
  | lexeme {gap before behind : List Char} {x : Lexeme} {l' : Lexer κ}
      (skipped : Skipped l.settings gap (before ++ behind ++ l'.rest))
      (takes : Takes l.reader (gap ++ (before ++ behind)) l'.reader)
      (pos_eq : x.pos = l.pos.afterAll (gap ++ before)) (nonempty : behind ≠ [])
      (token : x.token ≠ .eof) : Gives l x l'

theorem next_of_skipped (h : Skipped m.settings [] m.rest) :
    m.next = (m.scan.1, m.scan.2.record m.scan.1) := by
  cases hs : m.settings.skipWhitespace with
  | false => exact next_of_settings hs
  | true => exact next_of_ne (token_scan_ne_whitespace_iff.2 (h.stops hs))

theorem moves_settle_of_skipped (h : Skipped l.settings gap following)
    (hrest : l.rest = gap ++ following) : Moves l gap l.settle := by
  cases hs : l.settings.skipWhitespace with
  | false =>
    rw [h.eq_nil hs, settle, hs]
    exact .refl l
  | true => exact moves_settle h.all (h.stops hs) hrest hs

theorem exists_next_of_skipped (h : Skipped l.settings gap following)
    (hrest : l.rest = gap ++ following) :
    ∃ m, Moves l gap m ∧ l.next = (m.scan.1, m.scan.2.record m.scan.1) := by
  cases hs : l.settings.skipWhitespace with
  | false =>
    rw [h.eq_nil hs]
    exact ⟨l, .refl l, next_of_settings hs⟩
  | true => exact exists_next_of_run h.all (h.stops hs) hrest hs

theorem Gives.record (h : Gives l x l') (y : Lexeme) : Gives l x (l'.record y) := by
  have hreader := l'.reader_record y
  cases h with
  | eof skipped takes atEnd =>
    rw [← rest_record l' y] at atEnd
    rw [← hreader] at takes
    rw [← pos_record l' y]
    exact .eof skipped takes atEnd
  | lexeme skipped takes pos_eq nonempty token =>
    rw [← rest_record l' y] at skipped
    rw [← hreader] at takes
    exact .lexeme skipped takes pos_eq nonempty token

theorem gives_scan (hskip : Skipped l.settings gap m.rest) (hm : Takes l.reader gap m.reader) :
    Gives l m.scan.1 m.scan.2 := by
  have hpos : m.pos = l.pos.afterAll gap := hm.pos_eq
  cases hrest : m.rest with
  | nil =>
    have hscan := scan_of_nil hrest
    have hend : m.scan.2.pos = m.pos := hscan.2.pos_eq
    have htakes := hm.trans hscan.2
    rw [List.append_nil] at htakes
    rw [hrest] at hskip
    rw [hscan.1, ← hend]
    exact .eof hskip htakes (hscan.2.rest_eq_of_append hrest)
  | cons c cs =>
    obtain ⟨slice, htakes, hspells⟩ := exists_scan (hrest ▸ List.cons_ne_nil c cs)
    obtain ⟨before, behind, rfl, hne, hx⟩ := hspells.exists_pos_eq
    rw [show m.rest = before ++ behind ++ m.scan.2.rest from htakes.rest_eq] at hskip
    refine .lexeme hskip (hm.trans htakes) ?_ hne hspells.token_ne_eof
    rw [hx, hpos, Position.afterAll_append]

theorem gives_nextRegexHere (hskip : Skipped l.settings gap m.rest) (hm : Moves l gap m) :
    Gives l m.nextRegexHere.1 m.nextRegexHere.2 := by
  by_cases hslash : m.rest.head? = some '/'
  · obtain ⟨cs, hcs⟩ := List.head?_eq_some_iff.1 hslash
    obtain ⟨body, slice, following, rfl, hbody⟩ := Lexeme.exists_regexSpells cs
    obtain ⟨l', hl', hregex⟩ := exists_nextRegexHere_of_slash hbody hcs
    let x : Lexeme := ⟨.regex, m.pos, String.ofList body⟩
    have hpos : x.pos = l.pos.afterAll (gap ++ []) := by
      rw [List.append_nil]
      exact hm.pos_eq
    rw [show m.rest = '/' :: slice ++ l'.rest from hl'.takes.rest_eq] at hskip
    have hgives : Gives l x l' := @Gives.lexeme κ _ l gap [] ('/' :: slice) x l' hskip
      (hm.takes.trans hl'.takes) hpos (List.cons_ne_nil _ _) Token.noConfusion
    rw [hregex]
    exact hgives.record x
  · obtain ⟨n, hn, hregex⟩ := exists_nextRegexHere_of_ne hslash
    let warned := (n.log (.notARegex m.pos)).emit (.notARegex m.pos)
    have hrest : warned.rest = m.rest := by
      rw [rest_emit, rest_log]
      exact hn.rest_eq_of_append rfl
    have hsettings : warned.settings = l.settings := by
      rw [settings_emit, settings_log, hn.settings_eq, hm.settings_eq]
    have hreader : warned.reader = n.reader := reader_emit _ _
    have htakes := hm.takes.trans hn.takes
    rw [List.append_nil, ← hreader] at htakes
    rw [← hrest] at hskip
    rw [hregex, next_of_skipped ⟨List.forall_mem_nil _, fun _ => rfl, hsettings ▸ hskip.stops⟩]
    exact (gives_scan hskip htakes).record warned.scan.1

theorem gives_answer (call : Call) (l : Lexer κ) :
    Gives l (answer call l).1.1 (answer call l).2 := by
  obtain ⟨gap, following, hrest, hskip⟩ := exists_skipped l.settings l.rest
  cases call with
  | next =>
    obtain ⟨m, hm, hnext⟩ := exists_next_of_skipped hskip hrest
    rw [← hm.rest_eq_of_append hrest] at hskip
    simp only [answer, hnext]
    exact (gives_scan hskip hm.takes).record m.scan.1
  | nextRegex =>
    have hm := moves_settle_of_skipped hskip hrest
    rw [← hm.rest_eq_of_append hrest] at hskip
    exact gives_nextRegexHere hskip hm

namespace Gives

theorem token_eq_eof_iff (h : Gives l x l') : x.token = .eof ↔ l.Exhausted := by
  cases h with
  | eof skipped takes atEnd =>
    rw [exhausted_iff skipped (by rw [← atEnd]; exact takes.rest_eq)]
    exact ⟨fun _ => rfl, fun _ => rfl⟩
  | lexeme skipped takes pos_eq nonempty token =>
    rw [exhausted_iff skipped (takes.rest_eq.trans (List.append_assoc _ _ _))]
    constructor
    · intro h
      exact absurd h token
    · intro h
      simp [nonempty] at h

theorem eq_eof (h : Gives l x l') (hx : x.token = .eof) :
    x = ⟨.eof, l'.pos, ""⟩ ∧ l'.rest = [] := by
  cases h with
  | eof skipped takes atEnd => exact ⟨rfl, atEnd⟩
  | lexeme skipped takes pos_eq nonempty token => exact absurd hx token

theorem exists_takes (h : Gives l x l') : ∃ slice, Takes l.reader slice l'.reader := by
  cases h with
  | eof skipped takes atEnd => exact ⟨_, takes⟩
  | lexeme skipped takes pos_eq nonempty token => exact ⟨_, takes⟩

theorem exists_slice (h : Gives l x l') (hx : x.token ≠ .eof) :
    ∃ slice, slice ≠ [] ∧ l.rest = slice ++ l'.rest := by
  cases h with
  | eof => exact absurd rfl hx
  | @lexeme gap before behind _ _ skipped takes pos_eq nonempty token =>
    exact ⟨gap ++ (before ++ behind), by simp [nonempty], takes.rest_eq⟩

theorem of_nil (h : Gives l x l') (hrest : l.rest = []) :
    x = ⟨.eof, l.pos, ""⟩ ∧ l'.pos = l.pos ∧ l'.rest = [] := by
  cases h with
  | eof skipped takes atEnd =>
    obtain ⟨rfl, -⟩ := List.append_eq_nil_iff.1 (takes.rest_eq.symm.trans hrest)
    have hpos : l'.pos = l.pos := takes.pos_eq
    exact ⟨by rw [hpos], hpos, atEnd⟩
  | lexeme skipped takes pos_eq nonempty token =>
    have htaken := (List.append_eq_nil_iff.1 (takes.rest_eq.symm.trans hrest)).1
    simp [nonempty] at htaken

end Gives

theorem run_of_nil (calls : List Call) (h : l.rest = []) :
    (run answer calls l).1 = List.replicate calls.length (⟨.eof, l.pos, ""⟩, l.pos) := by
  induction calls generalizing l with
  | nil => rfl
  | cons call calls ih =>
    obtain ⟨hx, hpos, hrest⟩ := (gives_answer call l).of_nil h
    have hfirst : (answer call l).1 = (⟨.eof, l.pos, ""⟩, l.pos) :=
      Prod.ext hx ((pos_answer call l).trans hpos)
    rw [run, List.length_cons, List.replicate_succ, hfirst, ih hrest, hpos]

theorem run_of_eof {call : Call} (h : (answer call l).1.1.token = .eof) (later : List Call) :
    (run answer later (answer call l).2).1 = List.replicate later.length (answer call l).1 := by
  obtain ⟨hx, hrest⟩ := (gives_answer call l).eq_eof h
  rw [run_of_nil later hrest, ← hx, ← pos_answer]

theorem exists_run_eq (calls : List Call) (l : Lexer κ) :
    ∃ others p, (run answer calls l).1 =
        others ++ List.replicate (calls.length - others.length) (⟨.eof, p, ""⟩, p) ∧
      (∀ a ∈ others, a.1.token ≠ .eof) ∧ others.length ≤ l.rest.length := by
  induction calls generalizing l with
  | nil => exact ⟨[], l.pos, rfl, List.forall_mem_nil _, Nat.zero_le _⟩
  | cons call calls ih =>
    by_cases hx : (answer call l).1.1.token = .eof
    · have heof := ((gives_answer call l).eq_eof hx).1
      refine ⟨[], (answer call l).2.pos, ?_, List.forall_mem_nil _, Nat.zero_le _⟩
      rw [run, run_of_eof hx, List.nil_append, ← heof, ← pos_answer]
      rfl
    · obtain ⟨slice, hne, hslice⟩ := (gives_answer call l).exists_slice hx
      obtain ⟨others, p, hrun, hothers, hlength⟩ := ih (answer call l).2
      refine ⟨(answer call l).1 :: others, p, ?_, List.forall_mem_cons.2 ⟨hx, hothers⟩, ?_⟩
      · rw [run, hrun, List.length_cons, List.length_cons, Nat.add_sub_add_right, List.cons_append]
      · have hpos := List.length_pos_iff.2 hne
        rw [hslice, List.length_append, List.length_cons]
        omega

theorem tokensUpTo_of_eof (h : l.next.1.token = .eof) (n : Nat) :
    (l.tokensUpTo n).1 = List.replicate n none := by
  induction n generalizing l with
  | zero => rfl
  | succ n ih =>
    have hrest := ((gives_answer .next l).eq_eof h).2
    have hnext : l.next.2.next.1.token = .eof :=
      congrArg Lexeme.token ((gives_answer .next l.next.2).of_nil hrest).1
    rw [tokensUpTo, next?, if_pos h, List.replicate_succ]
    exact congrArg (none :: ·) (ih hnext)

theorem tokensUpTo_tokens (l : Lexer κ) (n : Nat) :
    (l.tokensUpTo (l.tokens.1.length + n)).1 = l.tokens.1.map some ++ List.replicate n none := by
  rw [tokens_eq l]
  split
  · next h => rw [List.length_nil, Nat.zero_add, tokensUpTo_of_eof h, List.map_nil, List.nil_append]
  · next h =>
    have hothers := tokensUpTo_tokens l.next.2 n
    rw [List.length_cons, Nat.succ_add, tokensUpTo, next?, if_neg h, List.map_cons]
    exact congrArg (some l.next.1 :: ·) hothers
termination_by l.rest.length
decreasing_by next h => exact l.length_rest_next_lt h

theorem length_tokens_le (l : Lexer κ) : l.tokens.1.length ≤ l.rest.length := by
  rw [tokens_eq l]
  split
  · exact Nat.zero_le _
  · next h =>
    have hothers := length_tokens_le l.next.2
    have hlt := l.length_rest_next_lt h
    rw [List.length_cons]
    omega
termination_by l.rest.length
decreasing_by next h => exact l.length_rest_next_lt h

/-- Every call takes a character or gives the end, and the end stays. -/
theorem run_reaches_end {σ : Type} [Source σ] (source : σ) (settings : Settings)
    (before : List Call) :
    let fresh := ofReader (Cursor.ofSource source) settings
    let l := (run answer before fresh).2
    (∀ call, let r := answer call l
      (r.1.1.token = .eof ↔ l.Exhausted) ∧
      (r.1.1.token ≠ .eof → ∃ slice, slice ≠ [] ∧ l.rest = slice ++ r.2.rest) ∧
      (r.1.1.token = .eof → ∃ p, r.1 = (⟨.eof, p, ""⟩, p) ∧
        ∀ later, (run answer later r.2).1 = List.replicate later.length (⟨.eof, p, ""⟩, p))) ∧
    (∃ others p, (run answer before fresh).1 =
        others ++ List.replicate (before.length - others.length) (⟨.eof, p, ""⟩, p) ∧
      (∀ a ∈ others, a.1.token ≠ .eof) ∧
      others.length ≤ (Newline.normalize (Source.toList source)).length) ∧
    l.tokens.1.length ≤ l.rest.length ∧
      ∀ n, (l.tokensUpTo (l.tokens.1.length + n)).1 =
        l.tokens.1.map some ++ List.replicate n none := by
  intro fresh l
  rw [← rest_ofReader source settings]
  refine ⟨?_, exists_run_eq before fresh, l.length_tokens_le, l.tokensUpTo_tokens⟩
  intro call r
  have hgives := gives_answer call l
  refine ⟨hgives.token_eq_eof_iff, hgives.exists_slice, fun heof => ⟨r.2.pos, ?_⟩⟩
  have hfirst : r.1 = (⟨.eof, r.2.pos, ""⟩, r.2.pos) :=
    Prod.ext (hgives.eq_eof heof).1 (pos_answer call l)
  exact ⟨hfirst, fun later => hfirst ▸ run_of_eof heof later⟩

theorem run_reaches_end_blank :
    let fresh := Lexer.ofString "'\\q \n" ⟨true, true⟩
    let l := (run answer [.next] fresh).2
    (answer .next fresh).1.1.token ≠ .eof ∧
      (∃ slice, slice ≠ [] ∧ fresh.rest = slice ++ l.rest) ∧
      l.rest = [' ', '\n'] ∧ (answer .nextRegex l).1.1.token = .eof ∧ l.Exhausted ∧
      ∃ p, (answer .nextRegex l).1 = (⟨.eof, p, ""⟩, p) ∧ ∀ later,
        (run answer later (answer .nextRegex l).2).1 =
          List.replicate later.length (⟨.eof, p, ""⟩, p) := by
  intro fresh l
  have hfirst := (run_reaches_end "'\\q \n".toList ⟨true, true⟩ []).1 .next
  have hlast := (run_reaches_end "'\\q \n".toList ⟨true, true⟩ [.next]).1 .nextRegex
  have hne : (answer .next fresh).1.1.token ≠ .eof := by decide +kernel
  have heof : (answer .nextRegex l).1.1.token = .eof := by decide +kernel
  exact ⟨hne, hfirst.2.1 hne, by decide +kernel, heof, hlast.1.1 heof, hlast.2.2 heof⟩

end Lexer

end QueryLexer
