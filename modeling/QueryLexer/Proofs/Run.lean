/-!
Runs of a machine that answers requests one after another. Main statements: what every
step keeps, of one machine or between two, their runs keep.
-/

namespace QueryLexer

variable {ι σ τ α β : Type}

def run (answer : ι → σ → α × σ) : List ι → σ → List α × σ
  | [], s => ([], s)
  | i :: is, s =>
    let r := answer i s
    let others := run answer is r.2
    (r.1 :: others.1, others.2)

theorem run_append (answer : ι → σ → α × σ) (is js : List ι) (s : σ) :
    run answer (is ++ js) s =
      ((run answer is s).1 ++ (run answer js (run answer is s).2).1,
        (run answer js (run answer is s).2).2) := by
  induction is generalizing s with
  | nil => rfl
  | cons i is ih =>
    simp only [List.cons_append, run, ih]

theorem run_preserves {answer : ι → σ → α × σ} {P : σ → Prop}
    (step : ∀ i s, P s → P (answer i s).2) (is : List ι) {s : σ} (start : P s) :
    P (run answer is s).2 := by
  induction is generalizing s with
  | nil => exact start
  | cons i is ih => exact ih (step i s start)

theorem run_related {answer : ι → σ → α × σ} {answer' : ι → τ → β × τ} {R : σ → τ → Prop}
    {f : β → α}
    (step : ∀ i s t, R s t →
      (answer i s).1 = f (answer' i t).1 ∧ R (answer i s).2 (answer' i t).2)
    (is : List ι) {s : σ} {t : τ} (start : R s t) :
    (run answer is s).1 = (run answer' is t).1.map f ∧
      R (run answer is s).2 (run answer' is t).2 := by
  induction is generalizing s t with
  | nil => exact ⟨rfl, start⟩
  | cons i is ih =>
    have hstep := step i s t start
    have hrun := ih hstep.2
    simp only [run, List.map_cons]
    exact ⟨by rw [hstep.1, hrun.1], hrun.2⟩

structure SameStep (R : σ → τ → Prop) (r : α × σ) (r' : α × τ) : Prop where
  eq : r.1 = r'.1
  related : R r.2 r'.2

theorem SameStep.map {σ' τ' : Type} {R : σ → τ → Prop} {S : σ' → τ' → Prop} {r : α × σ}
    {r' : α × τ} (h : SameStep R r r') (f : α → β) {g : σ → σ'} {g' : τ → τ'}
    (hg : ∀ s t, R s t → S (g s) (g' t)) : SameStep S (f r.1, g r.2) (f r'.1, g' r'.2) :=
  ⟨congrArg f h.eq, hg r.2 r'.2 h.related⟩

theorem run_sameStep {answer : ι → σ → α × σ} {answer' : ι → τ → α × τ} {R : σ → τ → Prop}
    (step : ∀ i s t, R s t → SameStep R (answer i s) (answer' i t)) (is : List ι) {s : σ} {t : τ}
    (start : R s t) : SameStep R (run answer is s) (run answer' is t) := by
  have hrun := run_related (f := id) (fun i s t h => ⟨(step i s t h).eq, (step i s t h).related⟩)
    is start
  rw [List.map_id] at hrun
  exact ⟨hrun.1, hrun.2⟩

structure SameAnswer (P : α → Prop) (R : σ → τ → Prop) (r : α × σ) (r' : α × τ) : Prop where
  eq : r.1 = r'.1
  holds : P r.1
  related : R r.2 r'.2

theorem SameStep.and {P : α → Prop} {R : σ → τ → Prop} {r : α × σ} {r' : α × τ}
    (h : SameStep R r r') (holds : P r.1) : SameAnswer P R r r' :=
  ⟨h.eq, holds, h.related⟩

theorem SameAnswer.map {σ' τ' : Type} {P : α → Prop} {R : σ → τ → Prop} {Q : β → Prop}
    {S : σ' → τ' → Prop} {r : α × σ} {r' : α × τ} (h : SameAnswer P R r r') {f : α → β}
    (hf : ∀ a, P a → Q (f a)) {g : σ → σ'} {g' : τ → τ'} (hg : ∀ s t, R s t → S (g s) (g' t)) :
    SameAnswer Q S (f r.1, g r.2) (f r'.1, g' r'.2) :=
  ⟨congrArg f h.eq, hf r.1 h.holds, hg r.2 r'.2 h.related⟩

theorem run_sameAnswer {answer : ι → σ → α × σ} {answer' : ι → τ → α × τ} {P : α → Prop}
    {R : σ → τ → Prop} (step : ∀ i s t, R s t → SameAnswer P R (answer i s) (answer' i t))
    (is : List ι) {s : σ} {t : τ} (start : R s t) :
    SameAnswer (fun answers => ∀ a ∈ answers, P a) R (run answer is s) (run answer' is t) := by
  induction is generalizing s t with
  | nil => exact ⟨rfl, fun _ ha => absurd ha List.not_mem_nil, start⟩
  | cons i is ih =>
    have hstep := step i s t start
    have hrun := ih hstep.related
    refine ⟨?_, List.forall_mem_cons.2 ⟨hstep.holds, hrun.holds⟩, hrun.related⟩
    exact congr (congrArg List.cons hstep.eq) hrun.eq

end QueryLexer
