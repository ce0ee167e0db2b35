import QueryLexer.Lookahead
import QueryLexer.Proofs.Run

/-!
A lexer with lookahead against one that remembers all it ever gave out. Main statement: no run of
calls tells the two apart, and a step back is refused, with a warning, only where three lexemes
or all there are have been stepped back over.
-/

namespace QueryLexer

def Event.isRefusal : Event → Bool
  | .stepBackIgnored _ => true
  | _ => false

namespace Lexer

variable {κ : Type}

def refusals (l : Lexer κ) : Nat := l.journal.toList.countP Event.isRefusal

theorem refusals_log (l : Lexer κ) (e : Event) :
    (l.log e).refusals = l.refusals + if e.isRefusal then 1 else 0 := by
  simp only [refusals, log, Array.toList_push, List.countP_append, List.countP_singleton]

@[simp] theorem refusals_emit (l : Lexer κ) (d : Diagnostic) :
    (l.emit d).refusals = l.refusals := by
  simp only [refusals, journal_emit]

@[simp] theorem refusals_record (l : Lexer κ) (x : Lexeme) :
    (l.record x).refusals = l.refusals := by
  rw [record]
  split
  · exact refusals_log l (.scanned x)
  · rw [refusals_emit, refusals_log, refusals_log]
    rfl

variable [CharReader κ]

@[simp] theorem refusals_next (l : Lexer κ) : l.next.2.refusals = l.refusals := by
  have hscan : ∀ l : Lexer κ, l.scan.2.refusals = l.refusals := fun _ => rfl
  fun_induction next l with
  | case1 l x l' h _ ih => rw [ih, ← hscan l, h]
  | case2 l x l' h _ => rw [refusals_record, ← hscan l, h]

@[simp] theorem refusals_settle (l : Lexer κ) : l.settle.refusals = l.refusals := by
  rw [settle]
  split <;> rfl

@[simp] theorem refusals_nextRegex (l : Lexer κ) : l.nextRegex.2.refusals = l.refusals := by
  rw [← refusals_settle l]
  simp only [nextRegex, nextRegexHere]
  split
  · exact refusals_record _ _
  · rw [refusals_next, refusals_emit, refusals_log]
    rfl

end Lexer

inductive Lookahead.Call
  | next
  | stepBack
  | peek
  | nextIgnoringWhitespace
  | nextRegex
  deriving DecidableEq

def Lookahead.answer {κ : Type} [CharReader κ] : Call → Lookahead κ → Option Lexeme × Lookahead κ
  | .next, b => (some b.next.1, b.next.2)
  | .stepBack, b => (none, b.stepBack)
  | .peek, b => (some b.peek.1, b.peek.2)
  | .nextIgnoringWhitespace, b => (some b.nextIgnoringWhitespace.1, b.nextIgnoringWhitespace.2)
  | .nextRegex, b => (some b.nextRegex.1, b.nextRegex.2)

/-- All lexemes that were ever fetched, and the index of the one to be given out next. -/
structure History (κ : Type) where
  lexer : Lexer κ
  given : List Lexeme
  index : Nat
  index_le : index ≤ given.length

namespace History

variable {κ : Type}

def ofLexer (lexer : Lexer κ) : History κ := ⟨lexer, [], 0, Nat.zero_le _⟩

def pending (h : History κ) : Nat := h.given.length - h.index

def nextWith (fetch : Lexer κ → Lexeme × Lexer κ) (h : History κ) : Lexeme × History κ :=
  if hi : h.index < h.given.length then
    (h.given[h.index], { h with index := h.index + 1, index_le := hi })
  else
    let r := fetch h.lexer
    (r.1, ⟨r.2, h.given ++ [r.1], h.given.length + 1, by simp⟩)

def CanStepBack (h : History κ) : Prop := h.pending < min 3 h.given.length

instance (h : History κ) : Decidable h.CanStepBack := inferInstanceAs (Decidable (_ < _))

def stepBack (h : History κ) : History κ :=
  if h.CanStepBack then
    { h with index := h.index - 1, index_le := Nat.le_trans (Nat.sub_le _ _) h.index_le }
  else { h with lexer := h.lexer.log (.stepBackIgnored h.pending) }

def passWhitespace (h : History κ) : History κ :=
  if hi : ∃ hi : h.index < h.given.length, h.given[h.index].token = .whitespace then
    { h with index := h.index + 1, index_le := hi.1 }
  else h

variable [CharReader κ]

def next (h : History κ) : Lexeme × History κ := h.nextWith Lexer.next

def nextRegex (h : History κ) : Lexeme × History κ :=
  h.passWhitespace.nextWith fun l => l.skipWhitespace.nextRegex

def nextIgnoringWhitespace (h : History κ) : Lexeme × History κ :=
  if h.next.1.token = .whitespace then h.next.2.next else h.next

def peek (h : History κ) : Lexeme × History κ :=
  if hi : h.index < h.given.length then (h.given[h.index], h)
  else
    let r := h.lexer.next
    (r.1, ⟨r.2, h.given ++ [r.1], h.given.length, by simp⟩)

def answer : Lookahead.Call → History κ → Option Lexeme × History κ
  | .next, h => (some h.next.1, h.next.2)
  | .stepBack, h => (none, h.stepBack)
  | .peek, h => (some h.peek.1, h.peek.2)
  | .nextIgnoringWhitespace, h => (some h.nextIgnoringWhitespace.1, h.nextIgnoringWhitespace.2)
  | .nextRegex, h => (some h.nextRegex.1, h.nextRegex.2)

theorem peek_fst (h : History κ) : h.peek.1 = h.next.1 := by
  by_cases hi : h.index < h.given.length
  · simp [peek, next, nextWith, hi]
  · simp [peek, next, nextWith, hi]

theorem stepBack_next {h : History κ} (hp : h.pending ≤ min 3 h.given.length) :
    h.next.2.stepBack = h.peek.2 := by
  -- The step back inside a peek is never refused, as long as no more than three are pending.
  have hcan : h.next.2.CanStepBack := by
    simp only [pending] at hp
    by_cases hi : h.index < h.given.length
    · simp only [next, nextWith, hi, dite_true, CanStepBack, pending]
      omega
    · simp only [next, nextWith, hi, dite_false, CanStepBack, pending, List.length_append,
        List.length_singleton]
      omega
  rw [stepBack, if_pos hcan]
  by_cases hi : h.index < h.given.length
  · simp [peek, next, nextWith, hi]
  · simp [peek, next, nextWith, hi]

omit [CharReader κ] in
theorem refusals_nextWith {fetch : Lexer κ → Lexeme × Lexer κ}
    (hf : ∀ l, (fetch l).2.refusals = l.refusals) (h : History κ) :
    (h.nextWith fetch).2.lexer.refusals = h.lexer.refusals := by
  rw [nextWith]
  split
  · rfl
  · exact hf h.lexer

theorem refusals_next (h : History κ) : h.next.2.lexer.refusals = h.lexer.refusals :=
  refusals_nextWith Lexer.refusals_next h

theorem refusals_answer (call : Lookahead.Call) (h : History κ) :
    (answer call h).2.lexer.refusals =
      h.lexer.refusals + if call = .stepBack ∧ ¬ h.CanStepBack then 1 else 0 := by
  cases call with
  | next => exact h.refusals_next
  | stepBack =>
    by_cases hc : h.CanStepBack
    · simp [answer, stepBack, hc]
    · simp [answer, stepBack, hc, Lexer.refusals_log, Event.isRefusal]
  | peek =>
    simp only [answer, peek]
    split
    · rfl
    · exact h.lexer.refusals_next
  | nextIgnoringWhitespace =>
    simp only [answer, nextIgnoringWhitespace]
    split
    · exact h.next.2.refusals_next.trans h.refusals_next
    · exact h.refusals_next
  | nextRegex =>
    have hpass : h.passWhitespace.lexer = h.lexer := by
      rw [passWhitespace]
      split <;> rfl
    simp only [answer, nextRegex]
    rw [refusals_nextWith (fun l => l.skipWhitespace.refusals_nextRegex), hpass]
    rfl

end History

/-- The ring holds the newest of the lexemes given out, and those from the index on are pending. -/
structure Ring.Tracks (r : Ring) (given : List Lexeme) (index : Nat) : Prop where
  pending_add : r.pending + index = given.length
  filled_eq : r.filled = min 3 given.length
  slot_eq : ∀ back, back < r.filled → given.reverse[back]? = some (r.slot back)

namespace Ring.Tracks

variable {r : Ring} {given : List Lexeme} {index : Nat}

theorem empty : Ring.empty.Tracks [] 0 where
  pending_add := rfl
  filled_eq := rfl
  slot_eq _ hb := absurd hb (Nat.not_lt_zero _)

theorem slot_pending (h : r.Tracks given index) (hi : index < given.length) :
    r.slot (r.pending - 1) = given[index] := by
  have hadd := h.pending_add
  have hle := r.pending_le
  have hslot := h.slot_eq (r.pending - 1) (by omega)
  rw [List.getElem?_reverse (by omega), List.getElem?_eq_some_iff] at hslot
  cases hslot with
  | intro _ hslot =>
    rw [← hslot]
    congr 1
    omega

theorem nextPending?_eq (h : r.Tracks given index) : r.nextPending? = given[index]? := by
  have hadd := h.pending_add
  by_cases hi : index < given.length
  · rw [Ring.nextPending?, if_neg (by omega), h.slot_pending hi, List.getElem?_eq_getElem hi]
  · rw [Ring.nextPending?, if_pos (by omega), List.getElem?_eq_none (by omega)]

theorem release (h : r.Tracks given index) (hi : index < given.length) :
    r.release.Tracks given (index + 1) where
  pending_add := by
    have hadd := h.pending_add
    simp only [Ring.release]
    omega
  filled_eq := h.filled_eq
  slot_eq := h.slot_eq

theorem hold (h : r.Tracks given index) (hp : r.pending < r.filled) :
    (r.hold hp).Tracks given (index - 1) where
  pending_add := by
    have hadd := h.pending_add
    have hfilled := h.filled_eq
    simp only [Ring.hold]
    omega
  filled_eq := h.filled_eq
  slot_eq := h.slot_eq

theorem push (x : Lexeme) (h : r.Tracks given index) (hi : ¬ index < given.length) :
    (r.push x).Tracks (given ++ [x]) (given.length + 1) where
  pending_add := by
    have hadd := h.pending_add
    simp only [Ring.push, List.length_append, List.length_singleton]
    omega
  filled_eq := by
    have hfilled := h.filled_eq
    simp only [Ring.push, Ring.capacity, List.length_append, List.length_singleton]
    omega
  slot_eq back hb := by
    have hfilled := (r.push x).filled_le
    rw [List.reverse_append, List.reverse_singleton, List.singleton_append]
    cases back with
    | zero => simp [Ring.slot_push_zero]
    | succ back =>
      rw [Ring.slot_push_succ x r (by omega), List.getElem?_cons_succ]
      apply h.slot_eq
      simp only [Ring.push] at hb
      omega

end Ring.Tracks

namespace Lookahead

variable {κ : Type}

structure Tracks (b : Lookahead κ) (h : History κ) : Prop where
  lexer_eq : b.lexer = h.lexer
  ring : b.ring.Tracks h.given h.index

namespace Tracks

variable {b : Lookahead κ} {h : History κ}

theorem ofLexer (l : Lexer κ) : (Lookahead.ofLexer l).Tracks (.ofLexer l) := ⟨rfl, .empty⟩

theorem pending_eq (t : b.Tracks h) : b.ring.pending = h.pending := by
  have hadd := t.ring.pending_add
  simp only [History.pending]
  omega

theorem pending_lt_iff (t : b.Tracks h) : b.ring.pending < b.ring.filled ↔ h.CanStepBack := by
  rw [History.CanStepBack, t.pending_eq, t.ring.filled_eq]

theorem nextWith (t : b.Tracks h) (fetch : Lexer κ → Lexeme × Lexer κ) :
    (b.nextWith fetch).1 = (h.nextWith fetch).1 ∧
      (b.nextWith fetch).2.Tracks (h.nextWith fetch).2 := by
  have hadd := t.ring.pending_add
  rw [Lookahead.nextWith, History.nextWith]
  by_cases hi : h.index < h.given.length
  · rw [if_pos (by omega), dif_pos hi]
    exact ⟨t.ring.slot_pending hi, t.lexer_eq, t.ring.release hi⟩
  · rw [if_neg (by omega), dif_neg hi]
    simp only [← t.lexer_eq]
    have hcur : (b.ring.push (fetch b.lexer).1).pending = 0 := by
      simp only [Ring.push]
      omega
    exact ⟨by rw [Ring.current, hcur, Ring.slot_push_zero], rfl, t.ring.push _ hi⟩

theorem stepBack (t : b.Tracks h) : b.stepBack.Tracks h.stepBack := by
  rw [Lookahead.stepBack, History.stepBack]
  by_cases hp : b.ring.pending < b.ring.filled
  · rw [dif_pos hp, if_pos (t.pending_lt_iff.1 hp)]
    exact ⟨t.lexer_eq, t.ring.hold hp⟩
  · rw [dif_neg hp, if_neg (mt t.pending_lt_iff.2 hp), t.lexer_eq, t.pending_eq]
    exact ⟨rfl, t.ring⟩

theorem passWhitespace (t : b.Tracks h) : b.passWhitespace.Tracks h.passWhitespace := by
  rw [Lookahead.passWhitespace, History.passWhitespace]
  rw [t.ring.nextPending?_eq]
  by_cases hi : h.index < h.given.length
  · rw [List.getElem?_eq_getElem hi, Option.any_some]
    by_cases hw : h.given[h.index].token = .whitespace
    · rw [if_pos (decide_eq_true hw), dif_pos ⟨hi, hw⟩]
      exact ⟨t.lexer_eq, t.ring.release hi⟩
    · rw [if_neg (by simpa using hw), dif_neg (fun hx => hw hx.2)]
      exact t
  · rw [List.getElem?_eq_none (by omega), if_neg (by simp), dif_neg (fun hx => hi hx.1)]
    exact t

variable [CharReader κ]

theorem next (t : b.Tracks h) : b.next.1 = h.next.1 ∧ b.next.2.Tracks h.next.2 :=
  t.nextWith Lexer.next

theorem peek (t : b.Tracks h) : b.peek.1 = h.peek.1 ∧ b.peek.2.Tracks h.peek.2 := by
  have hp : h.pending ≤ min 3 h.given.length := by
    rw [← t.pending_eq, ← t.ring.filled_eq]
    exact b.ring.pending_le
  rw [History.peek_fst, ← History.stepBack_next hp]
  exact ⟨t.next.1, t.next.2.stepBack⟩

theorem nextIgnoringWhitespace (t : b.Tracks h) :
    b.nextIgnoringWhitespace.1 = h.nextIgnoringWhitespace.1 ∧
      b.nextIgnoringWhitespace.2.Tracks h.nextIgnoringWhitespace.2 := by
  simp only [Lookahead.nextIgnoringWhitespace, History.nextIgnoringWhitespace, t.next.1]
  split
  · exact t.next.2.next
  · exact ⟨t.next.1, t.next.2⟩

theorem answer (t : b.Tracks h) (call : Call) :
    (answer call b).1 = (History.answer call h).1 ∧
      (answer call b).2.Tracks (History.answer call h).2 := by
  cases call with
  | next => exact ⟨congrArg some t.next.1, t.next.2⟩
  | stepBack => exact ⟨rfl, t.stepBack⟩
  | peek => exact ⟨congrArg some t.peek.1, t.peek.2⟩
  | nextIgnoringWhitespace =>
    exact ⟨congrArg some t.nextIgnoringWhitespace.1, t.nextIgnoringWhitespace.2⟩
  | nextRegex =>
    have hr := t.passWhitespace.nextWith fun l => l.skipWhitespace.nextRegex
    exact ⟨congrArg some hr.1, hr.2⟩

end Tracks

theorem run_tracks [CharReader κ] (l : Lexer κ) (calls : List Call) :
    (run answer calls (ofLexer l)).1 = (run History.answer calls (.ofLexer l)).1 ∧
      (run answer calls (ofLexer l)).2.Tracks (run History.answer calls (.ofLexer l)).2 := by
  have hrun := run_related (R := Tracks) (f := id) (fun call _ _ t => t.answer call) calls
    (.ofLexer l)
  rwa [List.map_id] at hrun

/-- After any calls a refused step back changes the journal alone. -/
theorem run_eq_run_history [CharReader κ] (l : Lexer κ) (calls : List Call) :
    let b := run answer calls (ofLexer l)
    let h := run History.answer calls (.ofLexer l)
    b.1 = h.1 ∧
      b.2.lexer = h.2.lexer ∧
      (¬ h.2.CanStepBack →
        b.2.stepBack = { b.2 with lexer := b.2.lexer.log (.stepBackIgnored h.2.pending) }) ∧
      ∀ call, (answer call b.2).2.lexer.refusals =
        b.2.lexer.refusals + if call = .stepBack ∧ ¬ h.2.CanStepBack then 1 else 0 := by
  intro b h
  have hb := run_tracks l calls
  refine ⟨hb.1, hb.2.lexer_eq, ?_, ?_⟩
  · intro hc
    rw [← hb.2.pending_eq]
    exact dif_neg (mt hb.2.pending_lt_iff.1 hc)
  · intro call
    rw [(hb.2.answer call).2.lexer_eq, hb.2.lexer_eq]
    exact History.refusals_answer call h.2

end Lookahead

end QueryLexer
