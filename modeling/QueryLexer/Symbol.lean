namespace QueryLexer

inductive Symbol
  | add
  | sub
  | mul
  | div
  | eq
  | neq
  | lt
  | lte
  | gt
  | gte
  | eqRegex
  | neqRegex
  | lparen
  | rparen
  | comma
  | dot
  deriving DecidableEq

namespace Symbol

def spelling : Symbol → String
  | add => "+"
  | sub => "-"
  | mul => "*"
  | div => "/"
  | eq => "="
  | neq => "<>"
  | lt => "<"
  | lte => "<="
  | gt => ">"
  | gte => ">="
  | eqRegex => "=~"
  | neqRegex => "!~"
  | lparen => "("
  | rparen => ")"
  | comma => ","
  | dot => "."

def isPunctuation : Symbol → Bool
  | lparen | rparen | comma | dot => true
  | _ => false

def ofChar? : Char → Option Symbol
  | '+' => some add
  | '-' => some sub
  | '*' => some mul
  | '/' => some div
  | '=' => some eq
  | '<' => some lt
  | '>' => some gt
  | '(' => some lparen
  | ')' => some rparen
  | ',' => some comma
  | '.' => some dot
  | _ => none

/-- The second characters that make a longer symbol of the first one, in the order in which they
are tried. An exclamation mark spells a symbol with a second character only. -/
def longer : Char → List (Char × Symbol)
  | '<' => [('=', lte), ('>', neq)]
  | '>' => [('=', gte)]
  | '=' => [('~', eqRegex)]
  | '!' => [('~', neqRegex)]
  | _ => []

theorem ofChar?_eq_some_iff {c : Char} {s : Symbol} :
    ofChar? c = some s ↔ s.spelling.toList = [c] := by
  constructor
  · intro h
    rw [ofChar?.eq_def] at h
    split at h <;> cases h <;> rfl
  · intro h
    cases s <;> cases h <;> rfl

theorem toList_spelling_of_mem_longer {c d : Char} {s : Symbol} (h : (d, s) ∈ longer c) :
    s.spelling.toList = [c, d] := by
  rw [longer.eq_def] at h
  split at h <;> simp at h
  · rcases h with ⟨rfl, rfl⟩ | ⟨rfl, rfl⟩ <;> rfl
  all_goals
    obtain ⟨rfl, rfl⟩ := h
    rfl

theorem lookup_longer_eq_some_iff {c d : Char} {s : Symbol} :
    (longer c).lookup d = some s ↔ s.spelling.toList = [c, d] := by
  constructor
  · intro h
    apply toList_spelling_of_mem_longer
    obtain ⟨before, behind, hmem, -⟩ := List.lookup_eq_some_iff.1 h
    rw [hmem]
    simp
  · intro h
    cases s <;> cases h <;> rfl

theorem toList_spelling_cases (s : Symbol) :
    (∃ c, s.spelling.toList = [c]) ∨ ∃ c d, s.spelling.toList = [c, d] := by
  cases s <;> simp [spelling]

theorem eq_of_toList_spelling {s t : Symbol} (h : s.spelling.toList = t.spelling.toList) :
    s = t := by
  rcases t.toList_spelling_cases with ⟨c, hc⟩ | ⟨c, d, hcd⟩
  · have hs := ofChar?_eq_some_iff.2 (h.trans hc)
    rw [ofChar?_eq_some_iff.2 hc] at hs
    exact (Option.some.inj hs).symm
  · have hs := lookup_longer_eq_some_iff.2 (h.trans hcd)
    rw [lookup_longer_eq_some_iff.2 hcd] at hs
    exact (Option.some.inj hs).symm

end Symbol

end QueryLexer
