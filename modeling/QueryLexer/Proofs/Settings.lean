import Mathlib.Control.Monad.Basic
import QueryLexer.Settings.Toml

namespace QueryLexer.Settings

variable {entries : List (String × Toml.Value)} {key : String} {missing b : Bool} {s : Settings}

def Sets (entries : List (String × Toml.Value)) (key : String) (missing b : Bool) : Prop :=
  entries.lookup key = some (.boolean b) ∨ entries.lookup key = none ∧ missing = b

theorem boolean_eq_ok_iff : boolean entries key missing = .ok b ↔ Sets entries key missing b := by
  unfold boolean Sets
  split
  case h_1 h => simp [h]
  case h_2 b' h => simp [h]
  case h_3 v hv h =>
    have hne : v ≠ .boolean b := fun hb => hv b hb
    simp [h, hne]

theorem bind_eq_ok_iff {α β : Type} {x : Except Malformed α} {f : α → Except Malformed β}
    {y : β} : (x >>= f) = .ok y ↔ ∃ a, x = .ok a ∧ f a = .ok y := by
  cases x with
  | error e => simp [bind, Except.bind]
  | ok a => simp [bind, Except.bind]

theorem ofEntries_eq_ok_iff : ofEntries entries = .ok s ↔
    Sets entries "skip_whitespace" standard.skipWhitespace s.skipWhitespace ∧
      Sets entries "report_diagnostics" standard.reportDiagnostics s.reportDiagnostics := by
  rw [ofEntries, bind_eq_ok_iff, ← boolean_eq_ok_iff, ← boolean_eq_ok_iff]
  constructor
  · rintro ⟨skip, hskip, h⟩
    obtain ⟨report, hreport, h⟩ := bind_eq_ok_iff.1 h
    cases h
    exact ⟨hskip, hreport⟩
  · rintro ⟨hskip, hreport⟩
    exact ⟨_, hskip, bind_eq_ok_iff.2 ⟨_, hreport, rfl⟩⟩

theorem read_eq_ok_iff {parse? : String → Option (List (String × Toml.Value))} {text : String} :
    read parse? text = .ok s ↔ ∃ entries, parse? text = some entries ∧
      Sets entries "skip_whitespace" standard.skipWhitespace s.skipWhitespace ∧
      Sets entries "report_diagnostics" standard.reportDiagnostics s.reportDiagnostics := by
  unfold read
  cases parse? text with
  | none => simp
  | some entries => simp [ofEntries_eq_ok_iff]

theorem ofToml_render (s : Settings) : ofToml s.render = .ok s := by
  obtain ⟨_ | _, _ | _⟩ := s
  all_goals decide +kernel

end QueryLexer.Settings
