import QueryLexer.Proofs.Lexer.Simulation
import QueryLexer.Proofs.Session.Reporting

namespace QueryLexer

def Ring.All (P : Lexeme → Prop) (r : Ring) : Prop := ∀ x ∈ r.slots, P x

namespace Ring.All

variable {P : Lexeme → Prop} {r : Ring} {x : Lexeme}

theorem empty (h : P ⟨.eof, .start, ""⟩) : Ring.empty.All P := by
  intro x hx
  rw [Ring.empty, Vector.mem_replicate] at hx
  rw [hx.2]
  exact h

theorem slot (h : r.All P) (back : Nat) : P (r.slot back) := h _ (Vector.getElem_mem _)

theorem push (h : r.All P) (hx : P x) : (r.push x).All P := by
  intro y hy
  simp only [Ring.push] at hy
  rcases Vector.mem_or_eq_of_mem_set hy with hy | rfl
  · exact h y hy
  · exact hx

end Ring.All

variable {κ κ' : Type} {P : Lexeme → Prop} {S : Lexer κ → Lexer κ' → Prop}

namespace Lookahead

structure Related (P : Lexeme → Prop) (S : Lexer κ → Lexer κ' → Prop) (b : Lookahead κ)
    (b' : Lookahead κ') : Prop where
  lexer : S b.lexer b'.lexer
  ring_eq : b.ring = b'.ring
  ring : b.ring.All P

namespace Related

variable {b : Lookahead κ} {b' : Lookahead κ'}

theorem nextWith (h : Related P S b b') {fetch : Lexer κ → Lexeme × Lexer κ}
    {fetch' : Lexer κ' → Lexeme × Lexer κ'}
    (hfetch : SameAnswer P S (fetch b.lexer) (fetch' b'.lexer)) :
    SameAnswer P (Related P S) (b.nextWith fetch) (b'.nextWith fetch') := by
  rw [Lookahead.nextWith, Lookahead.nextWith, ← h.ring_eq]
  split
  · exact ⟨rfl, h.ring.slot _, h.lexer, rfl, h.ring⟩
  · have hring := h.ring.push hfetch.holds
    simp only [← hfetch.eq]
    exact ⟨rfl, hring.slot _, hfetch.related, rfl, hring⟩

theorem passWhitespace (h : Related P S b b') :
    Related P S b.passWhitespace b'.passWhitespace := by
  rw [Lookahead.passWhitespace, Lookahead.passWhitespace, ← h.ring_eq]
  split
  · exact ⟨h.lexer, rfl, h.ring⟩
  · exact h

variable [CharReader κ] [CharReader κ'] (sim : Lexer.Simulation P S)

include sim

theorem next (h : Related P S b b') : SameAnswer P (Related P S) b.next b'.next :=
  h.nextWith (sim.next h.lexer)

theorem nextRegex (h : Related P S b b') :
    SameAnswer P (Related P S) b.nextRegex b'.nextRegex :=
  h.passWhitespace.nextWith (sim.nextRegex (sim.skipWhitespace h.passWhitespace.lexer))

theorem nextIgnoringWhitespace (h : Related P S b b') :
    SameAnswer P (Related P S) b.nextIgnoringWhitespace b'.nextIgnoringWhitespace := by
  have hnext := h.next sim
  rw [Lookahead.nextIgnoringWhitespace, Lookahead.nextIgnoringWhitespace]
  simp only [← hnext.eq]
  split
  · exact hnext.related.next sim
  · exact hnext

theorem stepBack (h : Related P S b b') : Related P S b.stepBack b'.stepBack := by
  rw [Lookahead.stepBack, Lookahead.stepBack, ← h.ring_eq]
  split
  · exact ⟨h.lexer, rfl, h.ring⟩
  · exact ⟨sim.log _ h.lexer, rfl, h.ring⟩

theorem peek (h : Related P S b b') : SameAnswer P (Related P S) b.peek b'.peek :=
  have hnext := h.next sim
  ⟨hnext.eq, hnext.holds, hnext.related.stepBack sim⟩

end Related

end Lookahead

namespace Session

def Request.concernsReport : Request → Bool
  | .settings | .diagnostics | .counts | .take | .clear => true
  | _ => false

/-- An answer that shows nothing but positions and lexemes with a property. -/
inductive Shows (P : Lexeme → Prop) : Option Reply → Prop
  | refused : Shows P none
  | done : Shows P (some .done)
  | lexeme (x : Lexeme) (holds : P x) : Shows P (some (.lexeme x))
  | tokens (xs : List (Option Lexeme)) (holds : ∀ x, some x ∈ xs → P x) :
      Shows P (some (.tokens xs))
  | pos (p : Position) : Shows P (some (.pos p))

theorem Shows.allTokens {P : Lexeme → Prop} (xs : List Lexeme) (h : ∀ x ∈ xs, P x) :
    Shows P (some (.tokens (xs.map some ++ [none]))) := by
  apply Shows.tokens
  intro x hx
  exact h x (by simpa using hx)

inductive Related (P : Lexeme → Prop) (S : Lexer κ → Lexer κ' → Prop) :
    Session κ → Session κ' → Prop
  | plain {l : Lexer κ} {l' : Lexer κ'} : S l l' → Related P S (plain l) (plain l')
  | buffered {b : Lookahead κ} {b' : Lookahead κ'} :
      b.Related P S b' → Related P S (buffered b) (buffered b')

namespace Related

variable {s : Session κ} {s' : Session κ'}

theorem lexer (h : Related P S s s') : S s.lexer s'.lexer := by
  cases h with
  | plain h => exact h
  | buffered h => exact h.lexer

theorem mapLexer (h : Related P S s s') {f : Lexer κ → Lexer κ} {f' : Lexer κ' → Lexer κ'}
    (hf : S (f s.lexer) (f' s'.lexer)) : Related P S (s.mapLexer f) (s'.mapLexer f') := by
  cases h with
  | plain h => exact .plain hf
  | buffered h => exact .buffered ⟨hf, h.ring_eq, h.ring⟩

variable [CharReader κ] [CharReader κ']

theorem answer_report (same : Lexer.SameReport S) (h : Related P S s s') {request : Request}
    (hr : request.concernsReport = true) :
    SameStep (Related P S) (answer request s) (answer request s') := by
  have hlexer := h.lexer
  have hreport := same.report_eq hlexer
  cases request with
  | settings => exact ⟨congrArg (fun x => some (Reply.settings x)) (same.settings_eq hlexer), h⟩
  | diagnostics => exact ⟨congrArg (fun ds => some (Reply.diagnostics ds)) hreport, h⟩
  | counts =>
    refine ⟨?_, h⟩
    simp only [answer, answer?, Report.count, Report.hasErrors, hreport]
  | take =>
    exact ⟨congrArg (fun ds => some (Reply.diagnostics ds)) hreport,
      h.mapLexer (same.withoutReport hlexer)⟩
  | clear => exact ⟨rfl, h.mapLexer (same.withoutReport hlexer)⟩
  | _ => cases hr

variable (sim : Lexer.Simulation P S)

include sim

theorem answerLogged {Q : Option Reply → Prop} {request : Request}
    (h : SameAnswer Q (Related P S) (answer request s) (answer request s')) :
    SameAnswer (fun a => Q a.1) (Related P S)
      (answerLogged request s) (answerLogged request s') :=
  have hlexer := h.related.lexer
  ⟨Prod.ext h.eq (sim.journal_eq hlexer), h.holds,
    h.related.mapLexer (sim.withoutJournal hlexer)⟩

theorem answer (h : Related P S s s') {request : Request}
    (hr : request.concernsReport = false) :
    SameAnswer (Shows P) (Related P S) (answer request s) (answer request s') := by
  cases request with
  | next =>
    cases h with
    | plain h => exact (sim.next h).map Shows.lexeme fun _ _ => .plain
    | buffered h => exact (h.next sim).map Shows.lexeme fun _ _ => .buffered
  | nextRegex =>
    cases h with
    | plain h => exact (sim.nextRegex h).map Shows.lexeme fun _ _ => .plain
    | buffered h => exact (h.nextRegex sim).map Shows.lexeme fun _ _ => .buffered
  | tokens limit =>
    cases h with
    | plain h =>
      cases limit with
      | none => exact (sim.tokens h).map Shows.allTokens fun _ _ => .plain
      | some n => exact (sim.tokensUpTo n h).map Shows.tokens fun _ _ => .plain
    | buffered h =>
      cases limit with
      | none => exact ⟨rfl, .refused, .buffered h⟩
      | some n => exact ⟨rfl, .refused, .buffered h⟩
  | addLookahead =>
    cases h with
    | plain h => exact ⟨rfl, .done, .buffered ⟨h, rfl, .empty sim.unfilled⟩⟩
    | buffered h => exact ⟨rfl, .refused, .buffered h⟩
  | dropLookahead =>
    cases h with
    | plain h => exact ⟨rfl, .refused, .plain h⟩
    | buffered h => exact ⟨rfl, .done, .plain h.lexer⟩
  | nextIgnoringWhitespace =>
    cases h with
    | plain h => exact ⟨rfl, .refused, .plain h⟩
    | buffered h => exact (h.nextIgnoringWhitespace sim).map Shows.lexeme fun _ _ => .buffered
  | peek =>
    cases h with
    | plain h => exact ⟨rfl, .refused, .plain h⟩
    | buffered h => exact (h.peek sim).map Shows.lexeme fun _ _ => .buffered
  | stepBack =>
    cases h with
    | plain h => exact ⟨rfl, .refused, .plain h⟩
    | buffered h => exact ⟨rfl, .done, .buffered (h.stepBack sim)⟩
  | pos => exact ⟨congrArg (fun p => some (Reply.pos p)) (sim.pos_eq h.lexer), .pos _, h⟩
  | settings => cases hr
  | diagnostics => cases hr
  | counts => cases hr
  | take => cases hr
  | clear => cases hr

theorem answer_all (same : Lexer.SameReport S) (h : Related P S s s') (request : Request) :
    SameStep (Related P S) (Session.answer request s) (Session.answer request s') := by
  cases hr : request.concernsReport with
  | false =>
    have hanswer := answer sim h hr
    exact ⟨hanswer.eq, hanswer.related⟩
  | true => exact answer_report same h hr

end Related

end Session

end QueryLexer
