import QueryLexer.Proofs.Cursor.Place
import QueryLexer.Proofs.Lexer.EqUpTo
import QueryLexer.Proofs.Session.Simulation

/-!
How sessions use pushback. Main statement: a character is pushed back only at once behind the
reading that gave it, and this is never refused. It is stated over cursors that keep a list of the
calls made of them.
-/

namespace QueryLexer

namespace Cursor

abbrev Access := Call × Answer

/-- In a list of accesses, every character is pushed back at once behind the reading that gave
it, and this is not refused. -/
def Contract (accesses : List Access) : Prop :=
  ∀ before answer behind, accesses = before ++ (.unread, answer) :: behind →
    answer = .done ∧ ∃ earlier c, before = earlier ++ [(.read, .char (some c))]

namespace Contract

variable {accesses : List Access} {c : Char}

theorem nil : Contract [] := by
  intro before answer behind h
  cases before with
  | nil => cases h
  | cons access before => cases h

theorem snoc (h : Contract accesses) {access : Access}
    (newest : ∀ answer, access = (.unread, answer) →
      answer = .done ∧ ∃ earlier c, accesses = earlier ++ [(.read, .char (some c))]) :
    Contract (accesses ++ [access]) := by
  intro before answer behind heq
  -- Unless it is the newest, the access in question was in the list before.
  rcases List.eq_nil_or_concat behind with rfl | ⟨behind, last, rfl⟩
  · obtain ⟨rfl, haccess⟩ := List.append_inj' heq rfl
    exact newest answer (List.cons.inj haccess).1
  · rw [List.concat_eq_append, ← List.cons_append, ← List.append_assoc] at heq
    obtain ⟨rfl, -⟩ := List.append_inj' heq rfl
    exact h before answer behind rfl

theorem read (h : Contract accesses) (answer : Answer) : Contract (accesses ++ [(.read, answer)]) :=
  h.snoc fun _ heq => absurd (congrArg Prod.fst heq) Call.noConfusion

theorem unread (h : Contract (accesses ++ [(.read, .char (some c))])) :
    Contract (accesses ++ [(.read, .char (some c))] ++ [(.unread, .done)]) := by
  apply h.snoc
  rintro answer ⟨⟩
  exact ⟨rfl, accesses, c, rfl⟩

end Contract

variable {σ : Type} [Source σ]

theorem perform_unread (k : Cursor σ) : (perform .unread k).2 = k.unread := by
  cases h : k.slot with
  | empty => simp only [perform, tryUnread, h]
  | taken c p => simp only [perform, tryUnread, h]
  | pushed c p => simp only [perform, tryUnread, unread, h]

theorem perform_unread_of_read {k : Cursor σ} {c : Char} (h : k.read.1 = some c) :
    (perform .unread k.read.2).1 = .done := by
  have hread : CharReader.read k = (some c, k.read.2) := Prod.ext h rfl
  obtain ⟨k', hk, hslot, -⟩ := read_eq_of_rest_cons (CharReader.rest_of_some hread)
  simp only [hk, perform, tryUnread, hslot]

end Cursor

/-- A cursor with the list of the calls made of it so far. -/
structure Watched (σ : Type) where
  cursor : Cursor σ
  accesses : List Cursor.Access

namespace Watched

variable {σ : Type} [Source σ]

def ofSource (source : σ) : Watched σ := ⟨.ofSource source, []⟩

def perform (call : Cursor.Call) (w : Watched σ) : Watched σ :=
  let r := Cursor.perform call w.cursor
  ⟨r.2, w.accesses ++ [(call, r.1)]⟩

theorem cursor_perform_unread (w : Watched σ) : (w.perform .unread).cursor = w.cursor.unread :=
  Cursor.perform_unread w.cursor

instance : CharReader (Watched σ) where
  read w := (w.cursor.read.1, w.perform .read)
  unread w := w.perform .unread
  pos w := w.cursor.pos
  rest w := w.cursor.rest
  read_fst w := CharReader.read_fst w.cursor
  rest_read w := CharReader.rest_read w.cursor
  pos_read w := CharReader.pos_read w.cursor
  rest_unread {w c} h := by
    rw [cursor_perform_unread]
    exact CharReader.rest_unread (k := w.cursor) h
  pos_unread {w c} h := by
    rw [cursor_perform_unread]
    exact CharReader.pos_unread (k := w.cursor) h

structure Watches (source : σ) (k : Cursor σ) (w : Watched σ) : Prop where
  cursor_eq : w.cursor = k
  replay : run Cursor.perform (w.accesses.map Prod.fst) (.ofSource source) =
    (w.accesses.map Prod.snd, k)
  contract : Cursor.Contract w.accesses

namespace Watches

variable {source : σ} {k : Cursor σ} {w : Watched σ} {c : Char}

theorem ofSource (source : σ) : Watches source (.ofSource source) (.ofSource source) :=
  ⟨rfl, rfl, .nil⟩

theorem perform (h : Watches source k w) (call : Cursor.Call)
    (contract : Cursor.Contract (w.perform call).accesses) :
    Watches source (Cursor.perform call k).2 (w.perform call) := by
  refine ⟨congrArg (fun k => (Cursor.perform call k).2) h.cursor_eq, ?_, contract⟩
  simp only [Watched.perform, List.map_append, run_append, h.replay, h.cursor_eq]
  rfl

theorem read (h : Watches source k w) : Watches source k.read.2 (w.perform .read) :=
  h.perform .read (h.contract.read _)

theorem unread (h : Watches source k w) (hc : k.read.1 = some c) :
    Watches source k.read.2.unread ((w.perform .read).perform .unread) := by
  -- The character has just been read, which is the last access but one.
  have hread := h.read
  have haccesses : (w.perform .read).accesses = w.accesses ++ [(.read, .char (some c))] := by
    rw [← hc, ← h.cursor_eq]
    rfl
  have hdone : ((w.perform .read).perform .unread).accesses =
      (w.perform .read).accesses ++ [(.unread, .done)] := by
    rw [← Cursor.perform_unread_of_read hc, ← hread.cursor_eq]
    rfl
  rw [← Cursor.perform_unread]
  apply hread.perform
  rw [hdone, haccesses]
  exact .unread (haccesses ▸ hread.contract)

theorem simulation (source : σ) : CharReader.Simulation (Watches source) where
  pos_eq h := congrArg Cursor.pos h.cursor_eq.symm
  read {k w} h := by
    have hread := h.read
    change CharReader.SameRead _ (k.read.1, k.read.2) (w.cursor.read.1, w.perform .read)
    rw [h.cursor_eq]
    cases hc : k.read.1 with
    | none => exact .atEnd hread
    | some c => exact .char c hread (h.unread hc)

end Watches

end Watched

namespace Session

open Watched (Watches)

variable {σ : Type} [Source σ]

abbrev Watching (source : σ) : Session (Cursor σ) → Session (Watched σ) → Prop :=
  Related (fun _ => True) (Lexer.EqUpTo (Watches source) Eq)

namespace Watching

variable {source : σ} {s : Session (Cursor σ)} {s' : Session (Watched σ)}

theorem ofSource (source : σ) (settings : Settings) :
    Watching source (plain (.ofReader (.ofSource source) settings))
      (plain (.ofReader (.ofSource source) settings)) :=
  .plain ⟨.ofSource source, rfl, rfl, rfl, rfl⟩

theorem answer (h : Watching source s s') (request : Request) :
    SameStep (Watching source) (answer request s) (answer request s') := by
  have sim := Lexer.EqUpTo.simulation (Q := Eq) (Watches.simulation source) fun _ _ _ => congrArg _
  have same := Lexer.EqUpTo.sameReport (Q := Eq) (R := Watches source) (fun _ _ => id)
    fun _ _ => congrArg fun reporting : Lexer.Reporting => (reporting.1, Report.empty)
  exact Related.answer_all sim same h request

end Watching

/-- Sessions keep to the contract of pushback, whatever the requests. They go on as if they were
not watched, and a plain cursor gives the same answers to the calls in the list. -/
theorem run_keeps_contract (source : σ) (settings : Settings) (requests : List Request) :
    let r := run answer requests (plain (.ofReader (Cursor.ofSource source) settings))
    let w := run answer requests (plain (.ofReader (Watched.ofSource source) settings))
    let accesses := w.2.lexer.reader.accesses
    w.1 = r.1 ∧
      run Cursor.perform (accesses.map Prod.fst) (.ofSource source) =
        (accesses.map Prod.snd, r.2.lexer.reader) ∧
      Cursor.Contract accesses := by
  intro r w accesses
  have hrun := run_sameStep (fun request _ _ h => Watching.answer h request) requests
    (Watching.ofSource source settings)
  have hwatches := hrun.related.lexer.reader
  exact ⟨hrun.eq.symm, hwatches.replay, hwatches.contract⟩

example :
    let l := Lexer.ofReader (Watched.ofSource ['<', '+']) .standard
    (run answer [.next, .nextRegex] (plain l)).2.lexer.reader.accesses =
      [(.read, .char (some '<')), (.read, .char (some '+')), (.unread, .done),
        (.read, .char (some '+')), (.unread, .done), (.read, .char (some '+')), (.unread, .done),
        (.read, .char (some '+'))] := by decide +kernel

end Session

end QueryLexer
