import QueryLexer.Proofs.Lexer.Relocation
import QueryLexer.Proofs.Lexer.Reporting
import QueryLexer.Proofs.Lexer.Skipping

namespace QueryLexer

/-- The lexemes that a text holds from a position on, without the whitespace around them. -/
inductive Holds : Position → List Char → List Lexeme → Prop
  | blank {p : Position} {run : List Char} (all : ∀ c ∈ run, isWhitespace c = true) :
      Holds p run []
  | lexeme {p : Position} {run slice following : List Char} {x : Lexeme} {xs : List Lexeme}
      (all : ∀ c ∈ run, isWhitespace c = true)
      (spells : x.Spells (p.afterAll run) following slice) (token : x.token ≠ .whitespace)
      (behind : Holds (p.afterAll (run ++ slice)) following xs) :
      Holds p (run ++ (slice ++ following)) (x :: xs)

def Settings.reported (s : Settings) (xs : List Lexeme) : List Diagnostic :=
  if s.reportDiagnostics then xs.filterMap Lexeme.diagnostic? else []

theorem Settings.reported_nil (s : Settings) : s.reported [] = [] := by
  rw [reported]
  split
  · rfl
  · rfl

theorem Settings.reported_append (s : Settings) (xs ys : List Lexeme) :
    s.reported (xs ++ ys) = s.reported xs ++ s.reported ys := by
  rw [reported, reported, reported]
  split
  · exact List.filterMap_append
  · rfl

def Lexeme.isContent (x : Lexeme) : Bool := x.token ≠ .whitespace && x.token ≠ .eof

theorem exists_holds (p : Position) (cs : List Char) : ∃ xs, Holds p cs xs := by
  obtain ⟨run, behind, hcs, all, stops⟩ := exists_run isWhitespace cs
  cases behind with
  | nil => exact ⟨[], by rw [hcs, List.append_nil]; exact .blank all⟩
  | cons c ds =>
    obtain ⟨x, slice, following, hds, hspells⟩ :=
      Lexeme.exists_spells (p.afterAll run) (List.cons_ne_nil c ds)
    rw [hds] at hcs stops
    have hlt : following.length < cs.length := by
      have hpos := List.length_pos_iff.2 hspells.slice_ne_nil
      rw [hcs, List.length_append, List.length_append]
      omega
    obtain ⟨xs, hxs⟩ := exists_holds (p.afterAll (run ++ slice)) following
    rw [hcs]
    exact ⟨x :: xs, .lexeme all hspells (hspells.token_ne_whitespace_iff.2 stops) hxs⟩
termination_by cs.length

namespace Holds

variable {p : Position} {cs : List Char} {xs : List Lexeme}

theorem isContent (h : Holds p cs xs) : ∀ x ∈ xs, x.isContent = true := by
  induction h with
  | blank => simp
  | lexeme all spells token behind ih =>
    rw [List.forall_mem_cons]
    refine ⟨?_, ih⟩
    simp [Lexeme.isContent, token, spells.token_ne_eof]

theorem append_run {run : List Char} (all : ∀ c ∈ run, isWhitespace c = true)
    (h : Holds (p.afterAll run) cs xs) : Holds p (run ++ cs) xs := by
  cases h with
  | blank all' => exact .blank (List.forall_mem_append.2 ⟨all, all'⟩)
  | lexeme all' spells token behind =>
    rw [← List.append_assoc]
    rw [← Position.afterAll_append] at spells behind
    rw [← List.append_assoc] at behind
    exact .lexeme (List.forall_mem_append.2 ⟨all, all'⟩) spells token behind

theorem relocate (origin : Position) (h : Holds p cs xs) :
    Holds (origin.relocate p) cs (xs.map (Lexeme.relocate origin)) := by
  induction h with
  | blank all => exact .blank all
  | lexeme all spells token behind ih =>
    rw [Position.relocate_afterAll] at ih
    have hspells := spells.relocate origin
    rw [Position.relocate_afterAll] at hspells
    exact .lexeme all hspells token ih

end Holds

namespace Lexer

theorem report_record_eq {κ : Type} (l : Lexer κ) (x : Lexeme) :
    (l.record x).report.toList = l.report.toList ++ l.settings.reported [x] := by
  cases h : l.settings.reportDiagnostics with
  | true =>
    rw [report_record h, Settings.reported, if_pos h]
    cases hx : x.diagnostic? with
    | none => simp [hx]
    | some d => simp [hx]
  | false =>
    rw [Settings.reported, h, record]
    cases x.diagnostic? with
    | none => simp
    | some d => simp [emit, h]

variable {κ : Type} [CharReader κ]

section

variable {l : Lexer κ} (skip : l.settings.skipWhitespace = true) {run : List Char}
  (all : ∀ c ∈ run, isWhitespace c = true)

include skip all

theorem next_of_blank (hrest : l.rest = run) :
    l.next.1 = ⟨.eof, l.pos.afterAll run, ""⟩ ∧ l.next.2.report = l.report := by
  have hrun : l.rest = run ++ [] := hrest.trans (List.append_nil run).symm
  obtain ⟨m, hm, hnext⟩ := exists_next_of_run all (.nil isWhitespace) hrun skip
  rw [hnext, (scan_of_nil (hm.rest_eq_of_append hrun)).1, hm.pos_eq]
  exact ⟨rfl, hm.report_eq⟩

theorem next_of_spells {x : Lexeme} {slice following : List Char}
    (spells : x.Spells (l.pos.afterAll run) following slice) (token : x.token ≠ .whitespace)
    (hrest : l.rest = run ++ (slice ++ following)) :
    l.next.1 = x ∧ l.next.2.pos = l.pos.afterAll (run ++ slice) ∧ l.next.2.rest = following ∧
      l.next.2.report.toList = l.report.toList ++ l.settings.reported [x] := by
  obtain ⟨m, hm, hnext⟩ :=
    exists_next_of_run all (spells.token_ne_whitespace_iff.1 token) hrest skip
  rw [← hm.pos_eq] at spells
  have hscan := moves_scan_of_spells spells (hm.rest_eq_of_append hrest)
  rw [hnext, hscan.1, pos_record, rest_record, report_record_eq, settings_scan]
  refine ⟨rfl, ?_, hscan.2.rest_eq_of_append (hm.rest_eq_of_append hrest), ?_⟩
  · rw [hscan.2.pos_eq, hm.pos_eq, Position.afterAll_append]
  · rw [hscan.2.report_eq, hm.report_eq, hm.settings_eq]

end

theorem stream_of_holds {l : Lexer κ} {xs : List Lexeme} (h : Holds l.pos l.rest xs)
    (skip : l.settings.skipWhitespace = true) :
    l.stream.1 = xs ++ [⟨.eof, l.pos.afterAll l.rest, ""⟩] ∧
      l.stream.2.report.toList = l.report.toList ++ l.settings.reported xs := by
  generalize hp : l.pos = p at h
  generalize hrest : l.rest = cs at h
  induction h generalizing l with
  | blank all =>
    have hnext := next_of_blank skip all hrest
    rw [stream_eq, hnext.1, if_pos rfl, hnext.2, hp, Settings.reported_nil, List.append_nil]
    exact ⟨rfl, rfl⟩
  | lexeme all spells token behind ih =>
    rw [← hp] at spells
    have hnext := next_of_spells skip all spells token hrest
    have hbehind := ih (by rwa [settings_next]) (hp ▸ hnext.2.1) hnext.2.2.1
    rw [stream_eq, hnext.1, if_neg spells.token_ne_eof]
    refine ⟨?_, ?_⟩
    · simp only [hbehind.1, Position.afterAll_append, List.cons_append]
    · rw [hbehind.2, hnext.2.2.2, settings_next, List.append_assoc, ← Settings.reported_append]
      rfl

theorem filter_stream_of_skips {l l' : Lexer κ} (h : Skips l l') :
    l'.stream.1.filter Lexeme.isContent = l.stream.1.filter Lexeme.isContent := by
  rw [h.stream.1, List.filter_filter]
  congr 1
  funext x
  rw [Lexeme.isContent, Bool.and_right_comm, Bool.and_self]

theorem filter_stream_of_holds {l : Lexer κ} {xs : List Lexeme} (h : Holds l.pos l.rest xs) :
    l.stream.1.filter Lexeme.isContent = xs ∧
      l.stream.2.report.toList = l.report.toList ++ l.settings.reported xs := by
  cases skip : l.settings.skipWhitespace with
  | true =>
    have hstream := stream_of_holds h skip
    rw [hstream.1, List.filter_append, List.filter_eq_self.2 h.isContent]
    exact ⟨List.append_nil xs, hstream.2⟩
  | false =>
    let m : Lexer κ := { l with settings.skipWhitespace := true }
    have hskips : Skips m l := ⟨⟨rfl, rfl, rfl, rfl⟩, rfl, skip⟩
    have hstream := stream_of_holds (l := m) h rfl
    rw [filter_stream_of_skips hskips, hstream.1, List.filter_append,
      List.filter_eq_self.2 h.isContent, ← hskips.stream.2.report_eq]
    exact ⟨List.append_nil xs, hstream.2⟩

theorem holds_stream (l : Lexer κ) :
    Holds l.pos l.rest (l.stream.1.filter Lexeme.isContent) ∧
      l.stream.2.report.toList =
        l.report.toList ++ l.settings.reported (l.stream.1.filter Lexeme.isContent) := by
  obtain ⟨xs, h⟩ := exists_holds l.pos l.rest
  have hstream := filter_stream_of_holds h
  rw [hstream.1]
  exact ⟨h, hstream.2⟩

end Lexer

end QueryLexer
