import QueryLexer.Proofs.Lexer.Reporting
import QueryLexer.Session

namespace QueryLexer

open Lexer (Fetch Course)

namespace Lookahead

variable {κ : Type}

theorem lexer_passWhitespace (b : Lookahead κ) : b.passWhitespace.lexer = b.lexer := by
  rw [passWhitespace]
  split
  · rfl
  · rfl

variable [CharReader κ]

def fetchesOfNext (b : Lookahead κ) : List (Fetch κ) :=
  if b.ring.pending = 0 then [⟨.next, b.lexer⟩] else []

def fetchesOfNextRegex (b : Lookahead κ) : List (Fetch κ) :=
  if b.passWhitespace.ring.pending = 0 then [⟨.nextRegex, b.lexer.skipWhitespace⟩] else []

def fetchesOfNextIgnoringWhitespace (b : Lookahead κ) : List (Fetch κ) :=
  b.fetchesOfNext ++ if b.next.1.token = .whitespace then b.next.2.fetchesOfNext else []

theorem course_next (b : Lookahead κ) : Course b.lexer b.fetchesOfNext [] b.next.2.lexer := by
  rw [fetchesOfNext, next, nextWith]
  by_cases hp : b.ring.pending = 0
  · rw [if_pos hp, if_neg (Nat.not_lt.2 (Nat.le_of_eq hp))]
    exact .single .next
  · rw [if_neg hp, if_pos (Nat.pos_of_ne_zero hp)]
    exact .done b.lexer

theorem course_nextRegex (b : Lookahead κ) :
    Course b.lexer b.fetchesOfNextRegex [] b.nextRegex.2.lexer := by
  rw [fetchesOfNextRegex, nextRegex, nextWith]
  by_cases hp : b.passWhitespace.ring.pending = 0
  · rw [if_pos hp, if_neg (Nat.not_lt.2 (Nat.le_of_eq hp)), b.lexer_passWhitespace]
    exact .regexBehindWhitespace (.done _)
  · rw [if_neg hp, if_pos (Nat.pos_of_ne_zero hp)]
    change Course b.lexer [] [] b.passWhitespace.lexer
    rw [b.lexer_passWhitespace]
    exact .done b.lexer

theorem course_stepBack (b : Lookahead κ) : Course b.lexer [] [] b.stepBack.lexer := by
  rw [stepBack]
  split
  · exact .done b.lexer
  · exact .stepBackIgnored b.ring.pending (.done _)

theorem course_peek (b : Lookahead κ) : Course b.lexer b.fetchesOfNext [] b.peek.2.lexer := by
  have hpeek := b.course_next.trans b.next.2.course_stepBack
  rwa [List.append_nil] at hpeek

theorem course_nextIgnoringWhitespace (b : Lookahead κ) :
    Course b.lexer b.fetchesOfNextIgnoringWhitespace [] b.nextIgnoringWhitespace.2.lexer := by
  rw [fetchesOfNextIgnoringWhitespace, nextIgnoringWhitespace]
  split
  · exact b.course_next.trans b.next.2.course_next
  · rw [List.append_nil]
    exact b.course_next

end Lookahead

namespace Session

variable {κ : Type} [CharReader κ]

def answer (request : Request) (s : Session κ) : Option Reply × Session κ :=
  match answer? request s with
  | some (reply, s') => (some reply, s')
  | none => (none, s)

def answerLogged (request : Request) (s : Session κ) :
    (Option Reply × List Event) × Session κ :=
  let r := answer request s
  let journal := r.2.takeJournal
  ((r.1, journal.1), journal.2)

def fetches : Request → Session κ → List (Fetch κ)
  | .next, plain l => [⟨.next, l⟩]
  | .nextRegex, plain l => [⟨.nextRegex, l⟩]
  | .tokens none, plain l => l.fetchesUpTo (l.tokens.1.length + 1)
  | .tokens (some n), plain l => l.fetchesUpTo n
  | .next, buffered b => b.fetchesOfNext
  | .peek, buffered b => b.fetchesOfNext
  | .nextRegex, buffered b => b.fetchesOfNextRegex
  | .nextIgnoringWhitespace, buffered b => b.fetchesOfNextIgnoringWhitespace
  | _, _ => []

def fetchesOfRun : List Request → Session κ → List (Fetch κ)
  | [], _ => []
  | request :: requests, s => fetches request s ++ fetchesOfRun requests (answer request s).2

def taken : Request × Option Reply → List Diagnostic
  | (.take, some (.diagnostics ds)) => ds
  | _ => []

theorem course_take (l : Lexer κ) :
    Course l [] l.report.take.1 { l with report := l.report.take.2 } := by
  have htaken : Course l [] (l.report.take.1 ++ []) { l with report := l.report.take.2 } :=
    .taken (.done _)
  rwa [List.append_nil] at htaken

theorem course_answer (request : Request) (h : request ≠ .clear) (s : Session κ) :
    Course s.lexer (fetches request s) (taken (request, (answer request s).1))
      (answer request s).2.lexer := by
  cases request with
  | next =>
    cases s with
    | plain l => exact .single .next
    | buffered b => exact b.course_next
  | nextRegex =>
    cases s with
    | plain l => exact .single .nextRegex
    | buffered b => exact b.course_nextRegex
  | tokens limit =>
    cases s with
    | plain l =>
      cases limit with
      | none => exact l.course_tokens
      | some n => exact Lexer.course_tokensUpTo n l
    | buffered b =>
      cases limit with
      | none => exact .done b.lexer
      | some n => exact .done b.lexer
  | addLookahead =>
    cases s with
    | plain l => exact .done l
    | buffered b => exact .done b.lexer
  | dropLookahead =>
    cases s with
    | plain l => exact .done l
    | buffered b => exact .done b.lexer
  | nextIgnoringWhitespace =>
    cases s with
    | plain l => exact .done l
    | buffered b => exact b.course_nextIgnoringWhitespace
  | peek =>
    cases s with
    | plain l => exact .done l
    | buffered b => exact b.course_peek
  | stepBack =>
    cases s with
    | plain l => exact .done l
    | buffered b => exact b.course_stepBack
  | pos => exact .done s.lexer
  | settings => exact .done s.lexer
  | diagnostics => exact .done s.lexer
  | counts => exact .done s.lexer
  | take =>
    cases s with
    | plain l => exact course_take l
    | buffered b => exact course_take b.lexer
  | clear => exact absurd rfl h

theorem course_run (requests : List Request) (h : .clear ∉ requests) (s : Session κ) :
    Course s.lexer (fetchesOfRun requests s)
      ((requests.zip (run answer requests s).1).flatMap taken)
      (run answer requests s).2.lexer := by
  induction requests generalizing s with
  | nil => exact .done s.lexer
  | cons request requests ih =>
    rw [List.mem_cons, not_or] at h
    exact (course_answer request (Ne.symm h.1) s).trans (ih h.2 (answer request s).2)

/-- What the calls that reach the lexer ask for is reported once, in their order, and no more. -/
theorem taken_append_report_eq {σ : Type} [Source σ] (source : σ) (skipWhitespace : Bool)
    (requests : List Request) (h : .clear ∉ requests) :
    let l := Lexer.ofReader (Cursor.ofSource source) ⟨skipWhitespace, true⟩
    let r := run answer requests (plain l)
    let ds := (requests.zip r.1).flatMap taken
    let fs := fetchesOfRun requests (plain l)
    Course l fs ds r.2.lexer ∧
      (ds ++ r.2.lexer.report.toList).map Diagnostic.outline =
        fs.flatMap fun f => f.warnings ++ f.errors := by
  intro l r ds fs
  have hcourse : Course l fs ds r.2.lexer := course_run requests h (plain l)
  refine ⟨hcourse, ?_⟩
  rw [hcourse.taken_append_report rfl, List.map_append, List.map_flatMap]
  simp only [Fetch.outline_diagnostics]
  rfl

theorem taken_append_report_replayed :
    let source := "#'\\q' x".toList
    let requests := [.next, .take, .addLookahead, .peek, .peek, .nextRegex, .stepBack, .nextRegex,
      .nextRegex]
    let l := Lexer.ofReader (Cursor.ofSource source) ⟨false, true⟩
    let r := run answer requests (plain l)
    .clear ∉ requests ∧
      ((requests.zip r.1).flatMap taken ++ r.2.lexer.report.toList).map Diagnostic.outline =
        [⟨.error, some ⟨"E", 1001⟩, ⟨0, 0⟩⟩, ⟨.error, some ⟨"E", 1003⟩, ⟨0, 2⟩⟩,
          ⟨.warning, some ⟨"W", 1001⟩, ⟨0, 4⟩⟩, ⟨.error, some ⟨"E", 1002⟩, ⟨0, 4⟩⟩] := by
  intro source requests l r
  have h : .clear ∉ requests := by decide
  refine ⟨h, ?_⟩
  rw [(taken_append_report_eq source false requests h).2]
  subst source requests
  decide +kernel

end Session

end QueryLexer
