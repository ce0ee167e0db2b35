import QueryLexer.Proofs.Lexer.Scan
import QueryLexer.Proofs.Run

namespace QueryLexer.Lexer

variable {κ κ' : Type} [CharReader κ] [CharReader κ']

/-- Calls give the same lexemes at the same positions, each with a property, and enter the same
into the journal. The report is left open. -/
structure Simulation (P : Lexeme → Prop) (S : Lexer κ → Lexer κ' → Prop) : Prop where
  /-- An unfilled slot of a ring holds this lexeme. -/
  unfilled : P ⟨.eof, .start, ""⟩
  pos_eq {l : Lexer κ} {l' : Lexer κ'} : S l l' → l.pos = l'.pos
  journal_eq {l : Lexer κ} {l' : Lexer κ'} : S l l' → l.journal.toList = l'.journal.toList
  withoutJournal {l : Lexer κ} {l' : Lexer κ'} : S l l' →
    S { l with journal := #[] } { l' with journal := #[] }
  log {l : Lexer κ} {l' : Lexer κ'} (e : Event) : S l l' → S (l.log e) (l'.log e)
  skipWhitespace {l : Lexer κ} {l' : Lexer κ'} : S l l' → S l.skipWhitespace l'.skipWhitespace
  next {l : Lexer κ} {l' : Lexer κ'} : S l l' → SameAnswer P S l.next l'.next
  nextRegex {l : Lexer κ} {l' : Lexer κ'} : S l l' → SameAnswer P S l.nextRegex l'.nextRegex

structure SameReport {κ κ' : Type} (S : Lexer κ → Lexer κ' → Prop) : Prop where
  settings_eq {l : Lexer κ} {l' : Lexer κ'} : S l l' → l.settings = l'.settings
  report_eq {l : Lexer κ} {l' : Lexer κ'} : S l l' → l.report.toList = l'.report.toList
  withoutReport {l : Lexer κ} {l' : Lexer κ'} : S l l' →
    S { l with report := .empty } { l' with report := .empty }

namespace Simulation

variable {P : Lexeme → Prop} {S : Lexer κ → Lexer κ' → Prop} (sim : Simulation P S)
  {l : Lexer κ} {l' : Lexer κ'}

include sim

theorem next? (h : S l l') :
    SameAnswer (fun answer => ∀ x, answer = some x → P x) S l.next? l'.next? := by
  have hnext := sim.next h
  rw [Lexer.next?, Lexer.next?, ← hnext.eq]
  split
  · exact ⟨rfl, by rintro x ⟨⟩, hnext.related⟩
  · exact ⟨rfl, fun x hx => Option.some.inj hx ▸ hnext.holds, hnext.related⟩

theorem tokensUpTo (n : Nat) (h : S l l') :
    SameAnswer (fun xs => ∀ x, some x ∈ xs → P x) S (l.tokensUpTo n) (l'.tokensUpTo n) := by
  induction n generalizing l l' with
  | zero => exact ⟨rfl, fun _ hx => absurd hx List.not_mem_nil, h⟩
  | succ n ih =>
    have hfirst := sim.next? h
    have hothers := ih hfirst.related
    refine ⟨congr (congrArg List.cons hfirst.eq) hothers.eq, ?_, hothers.related⟩
    intro x hx
    rcases List.mem_cons.1 hx with hx | hx
    · exact hfirst.holds x hx.symm
    · exact hothers.holds x hx

theorem tokens {l : Lexer κ} {l' : Lexer κ'} (h : S l l') :
    SameAnswer (fun xs => ∀ x ∈ xs, P x) S l.tokens l'.tokens := by
  have hnext := sim.next h
  rw [tokens_eq l, tokens_eq l', hnext.eq]
  split
  · exact ⟨rfl, fun _ hx => absurd hx List.not_mem_nil, hnext.related⟩
  · next hx =>
    have hothers := tokens hnext.related
    refine ⟨congrArg (l'.next.1 :: ·) hothers.eq, ?_, hothers.related⟩
    exact List.forall_mem_cons.2 ⟨hnext.eq ▸ hnext.holds, hothers.holds⟩
termination_by l'.rest.length
decreasing_by next hx => exact l'.length_rest_next_lt hx

end Simulation

end QueryLexer.Lexer
