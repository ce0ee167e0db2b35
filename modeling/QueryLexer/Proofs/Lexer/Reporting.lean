import QueryLexer.Proofs.Lexer.Calls

namespace QueryLexer

structure Diagnostic.Outline where
  severity : Severity
  code : Option Code
  pos : Position
  deriving DecidableEq

def Diagnostic.outline (d : Diagnostic) : Outline := ⟨d.severity, d.code, d.pos⟩

namespace Lexer

structure Fetch (κ : Type) where
  call : Call
  lexer : Lexer κ

section

variable {κ : Type} {l : Lexer κ}

@[simp] theorem report_log (l : Lexer κ) (e : Event) : (l.log e).report = l.report := rfl

theorem report_emit (h : l.settings.reportDiagnostics = true) (d : Diagnostic) :
    (l.emit d).report.toList = l.report.toList ++ [d] := by
  rw [emit, if_pos h, Report.toList_emit]

theorem report_record (h : l.settings.reportDiagnostics = true) (x : Lexeme) :
    (l.record x).report.toList = l.report.toList ++ x.diagnostic?.toList := by
  rw [record]
  cases x.diagnostic? with
  | none => exact (List.append_nil _).symm
  | some d =>
    have hemit := report_emit (l := (l.log (.scanned x)).log (.malformed x)) h d
    rw [report_log, report_log] at hemit
    exact hemit

end

variable {κ : Type} [CharReader κ] {l : Lexer κ}

namespace Fetch

def lexeme (f : Fetch κ) : Lexeme := (answer f.call f.lexer).1.1

def Misplaced (f : Fetch κ) : Prop := f.call = .nextRegex ∧ f.lexer.settle.rest.head? ≠ some '/'

instance (f : Fetch κ) : Decidable f.Misplaced := inferInstanceAs (Decidable (_ ∧ _))

def diagnostics (f : Fetch κ) : List Diagnostic :=
  (if f.Misplaced then [.notARegex f.lexer.settle.pos] else []) ++ f.lexeme.diagnostic?.toList

def warnings (f : Fetch κ) : List Diagnostic.Outline :=
  if f.Misplaced then [⟨.warning, some ⟨"W", 1001⟩, f.lexer.settle.pos⟩] else []

def errors (f : Fetch κ) : List Diagnostic.Outline :=
  match f.lexeme.token with
  | .illegal => [⟨.error, some ⟨"E", 1001⟩, f.lexeme.pos⟩]
  | .badString => [⟨.error, some ⟨"E", 1002⟩, f.lexeme.pos⟩]
  | .badEscape => [⟨.error, some ⟨"E", 1003⟩, f.lexeme.pos⟩]
  | _ => []

theorem outline_diagnostics (f : Fetch κ) :
    f.diagnostics.map Diagnostic.outline = f.warnings ++ f.errors := by
  rw [diagnostics, List.map_append]
  congr 1
  · rw [warnings]
    split
    · rfl
    · rfl
  · rw [errors]
    cases f.lexeme with
    | mk token pos literal => cases token <;> rfl

end Fetch

theorem report_next (h : l.settings.reportDiagnostics = true) :
    l.next.2.report.toList = l.report.toList ++ l.next.1.diagnostic?.toList := by
  fun_induction next l with
  | case1 l x l' hscan _ ih =>
    have hreport : l'.report = l.report := congrArg (·.2.report) hscan.symm
    have hsettings : l'.settings = l.settings := congrArg (·.2.settings) hscan.symm
    rw [ih (hsettings ▸ h), hreport]
  | case2 l x l' hscan _ =>
    have hreport : l'.report = l.report := congrArg (·.2.report) hscan.symm
    have hsettings : l'.settings = l.settings := congrArg (·.2.settings) hscan.symm
    rw [report_record (hsettings ▸ h), hreport]

@[simp] theorem report_settle (l : Lexer κ) : l.settle.report = l.report := by
  rw [settle]
  split
  · rfl
  · rfl

theorem report_nextRegexHere_of_slash (h : l.settings.reportDiagnostics = true)
    (slash : l.rest.head? = some '/') :
    l.nextRegexHere.2.report.toList = l.report.toList ++ l.nextRegexHere.1.diagnostic?.toList := by
  have hregex : ∃ k x, l.nextRegexHere = (x, { l.mark with reader := k }.record x) :=
    ⟨_, _, nextRegexHere_of_slash slash⟩
  obtain ⟨k, x, hregex⟩ := hregex
  have hrecord := report_record (l := { l.mark with reader := k }) h x
  rwa [hregex]

theorem report_nextRegexHere_of_ne (h : l.settings.reportDiagnostics = true)
    (ne : l.rest.head? ≠ some '/') :
    l.nextRegexHere.2.report.toList =
      l.report.toList ++ ([.notARegex l.pos] ++ l.nextRegexHere.1.diagnostic?.toList) := by
  have hnext : ∃ m : Lexer κ, m.report = l.report ∧ m.settings = l.settings ∧
      l.nextRegexHere = (m.emit (.notARegex l.pos)).next := by
    refine ⟨_, ?_, ?_, nextRegexHere_of_ne ne⟩
    · rfl
    · rfl
  obtain ⟨m, hreport, hsettings, hnext⟩ := hnext
  have hm : m.settings.reportDiagnostics = true := hsettings ▸ h
  rw [hnext, report_next (by rwa [settings_emit]), report_emit hm, hreport, List.append_assoc]

theorem report_answer (call : Call) (h : l.settings.reportDiagnostics = true) :
    (answer call l).2.report.toList = l.report.toList ++ (Fetch.mk call l).diagnostics := by
  cases call with
  | next => exact report_next h
  | nextRegex =>
    have hsettle : l.settle.settings.reportDiagnostics = true := by rwa [settings_settle]
    rw [Fetch.diagnostics, ← report_settle l]
    by_cases slash : l.settle.rest.head? = some '/'
    · rw [if_neg fun hf => hf.2 slash]
      exact report_nextRegexHere_of_slash hsettle slash
    · rw [if_pos ⟨rfl, slash⟩]
      exact report_nextRegexHere_of_ne hsettle slash

/-- The course of a lexer: the calls made of it, and the diagnostics taken out of its report. -/
inductive Course : Lexer κ → List (Fetch κ) → List Diagnostic → Lexer κ → Prop
  | done (l : Lexer κ) : Course l [] [] l
  | call {l l' : Lexer κ} {fs : List (Fetch κ)} {ds : List Diagnostic} (c : Call)
      (behind : Course (answer c l).2 fs ds l') : Course l (⟨c, l⟩ :: fs) ds l'
  | regexBehindWhitespace {l l' : Lexer κ} {fs : List (Fetch κ)} {ds : List Diagnostic}
      (behind : Course (answer .nextRegex l.skipWhitespace).2 fs ds l') :
      Course l (⟨.nextRegex, l.skipWhitespace⟩ :: fs) ds l'
  | stepBackIgnored {l l' : Lexer κ} {fs : List (Fetch κ)} {ds : List Diagnostic} (pending : Nat)
      (behind : Course (l.log (.stepBackIgnored pending)) fs ds l') : Course l fs ds l'
  | taken {l l' : Lexer κ} {fs : List (Fetch κ)} {ds : List Diagnostic}
      (behind : Course { l with report := l.report.take.2 } fs ds l') :
      Course l fs (l.report.take.1 ++ ds) l'

namespace Course

variable {l' l'' : Lexer κ} {fs fs' : List (Fetch κ)} {ds ds' : List Diagnostic}

theorem trans (h : Course l fs ds l') (h' : Course l' fs' ds' l'') :
    Course l (fs ++ fs') (ds ++ ds') l'' := by
  induction h with
  | done l => exact h'
  | call c behind ih => exact .call c (ih h')
  | regexBehindWhitespace behind ih => exact .regexBehindWhitespace (ih h')
  | stepBackIgnored pending behind ih => exact .stepBackIgnored pending (ih h')
  | taken behind ih =>
    rw [List.append_assoc]
    exact .taken (ih h')

theorem single (c : Call) : Course l [⟨c, l⟩] [] (answer c l).2 := .call c (.done _)

theorem taken_append_report (h : Course l fs ds l') (hl : l.settings.reportDiagnostics = true) :
    ds ++ l'.report.toList = l.report.toList ++ fs.flatMap Fetch.diagnostics := by
  induction h with
  | done l => exact (List.append_nil _).symm
  | @call l l' fs ds c behind ih =>
    have hsettings := settings_answer c l
    rw [ih (hsettings.symm ▸ hl), report_answer c hl, List.flatMap_cons, List.append_assoc]
  | @regexBehindWhitespace l l' fs ds behind ih =>
    have hsettings := settings_answer .nextRegex l.skipWhitespace
    have hreport := report_answer (l := l.skipWhitespace) .nextRegex hl
    rw [ih (hsettings.symm ▸ hl), hreport, List.flatMap_cons, List.append_assoc]
    rfl
  | stepBackIgnored pending behind ih => exact ih hl
  | taken behind ih =>
    rw [List.append_assoc, ih hl]
    rfl

end Course

def fetchesUpTo : Nat → Lexer κ → List (Fetch κ)
  | 0, _ => []
  | n + 1, l => ⟨.next, l⟩ :: fetchesUpTo n l.next.2

theorem course_tokensUpTo (n : Nat) (l : Lexer κ) :
    Course l (fetchesUpTo n l) [] (tokensUpTo n l).2 := by
  induction n generalizing l with
  | zero => exact .done l
  | succ n ih => exact .call .next (ih l.next.2)

theorem course_tokens (l : Lexer κ) :
    Course l (fetchesUpTo (l.tokens.1.length + 1) l) [] l.tokens.2 := by
  fun_induction tokens l with
  | case1 l x l' hnext _ =>
    have hl' : l' = (answer .next l).2 := congrArg Prod.snd hnext.symm
    subst hl'
    exact .call .next (.done _)
  | case2 l x l' hnext _ _ ih =>
    have hl' : l' = (answer .next l).2 := congrArg Prod.snd hnext.symm
    subst hl'
    exact .call .next ih

end Lexer

end QueryLexer
