import QueryLexer.Diagnostic

namespace QueryLexer

structure Report where
  entries : Array Diagnostic
  deriving DecidableEq

namespace Report

def empty : Report := ⟨#[]⟩

def emit (r : Report) (d : Diagnostic) : Report := ⟨r.entries.push d⟩

def toList (r : Report) : List Diagnostic := r.entries.toList

def count (r : Report) (s : Severity) : Nat :=
  r.toList.countP (·.severity = s)

def hasErrors (r : Report) : Bool :=
  r.toList.any (·.severity = .error)

def take (r : Report) : List Diagnostic × Report := (r.toList, empty)

def clear (_ : Report) : Report := empty

@[simp] theorem toList_empty : empty.toList = [] := rfl

@[simp] theorem toList_emit (r : Report) (d : Diagnostic) :
    (r.emit d).toList = r.toList ++ [d] := by simp [emit, toList]

@[simp] theorem toList_clear (r : Report) : r.clear.toList = [] := rfl

theorem hasErrors_eq (r : Report) : r.hasErrors = decide (0 < r.count .error) := by
  rw [Bool.eq_iff_iff, decide_eq_true_iff]
  simp [hasErrors, count, List.countP_pos_iff]

end Report

end QueryLexer
