import Mathlib.Algebra.Group.Nat.Defs
import Mathlib.Data.List.DropRight
import QueryLexer.Diagnostic.Code

namespace QueryLexer.Diagnostic.Code

variable {c d : Code} {n k : Nat} {e : Char}

def Separated (c : Code) : Prop := ∀ e ∈ c.series.toList.getLast?, e.isDigit = false

instance (c : Code) : Decidable c.Separated := Option.decidableForallMem c.series.toList.getLast?

/-- The digits at the end of a text are the number, and what is in front of them is the series. -/
def ofRendered (text : String) : Code where
  series := String.ofList (text.toList.rdropWhile Char.isDigit)
  number := .ofNat (Nat.ofDigitChars 10 (text.toList.rtakeWhile Char.isDigit) 0)

theorem isDigit_of_mem_paddedDigits (h : e ∈ paddedDigits n) : e.isDigit = true := by
  rw [paddedDigits, List.leftpad, List.mem_append] at h
  rcases h with h | h
  · rw [List.eq_of_mem_replicate h]
    rfl
  · exact Nat.isDigit_of_mem_toDigits (by decide) (by decide) h

theorem length_paddedDigits (n : Nat) :
    (paddedDigits n).length = max 4 (Nat.toDigits 10 n).length := List.length_leftpad

theorem length_paddedDigits_le_iff (hk : 4 ≤ k) : (paddedDigits n).length ≤ k ↔ n < 10 ^ k := by
  rw [← Nat.length_toDigits_le_iff (by decide) (by omega), length_paddedDigits]
  omega

theorem ofDigitChars_paddedDigits (n : Nat) : Nat.ofDigitChars 10 (paddedDigits n) 0 = n := by
  rw [paddedDigits, List.leftpad, Nat.ofDigitChars_append, Nat.ofDigitChars_replicate_zero,
    Nat.mul_zero, Nat.ofDigitChars_ten_toDigits]

theorem toList_render (c : Code) :
    c.render.toList = c.series.toList ++ paddedDigits c.number.toNat := by
  rw [render, String.toList_append, String.toList_ofList]

theorem rdropWhile_render (h : c.Separated) :
    c.render.toList.rdropWhile Char.isDigit = c.series.toList := by
  have hseries : c.series.toList.rdropWhile Char.isDigit = c.series.toList := by
    rw [List.rdropWhile_eq_self_iff]
    intro hne
    rw [h _ (List.getLast?_eq_getLast_of_ne_nil hne)]
    exact Bool.false_ne_true
  rw [toList_render, List.rdropWhile, List.reverse_append, List.dropWhile_append_of_pos]
  · exact hseries
  · intro e he
    exact isDigit_of_mem_paddedDigits (List.mem_reverse.1 he)

theorem rtakeWhile_render (h : c.Separated) :
    c.render.toList.rtakeWhile Char.isDigit = paddedDigits c.number.toNat := by
  have hsplit := List.rdropWhile_append_rtakeWhile (p := Char.isDigit) (l := c.render.toList)
  rw [rdropWhile_render h, toList_render] at hsplit
  rw [toList_render]
  exact List.append_cancel_left hsplit

theorem ofRendered_render (h : c.Separated) : ofRendered c.render = c := by
  rw [ofRendered, rdropWhile_render h, rtakeWhile_render h, ofDigitChars_paddedDigits,
    String.ofList_toList, UInt32.ofNat_toNat]

theorem eq_of_render_eq (hc : c.Separated) (hd : d.Separated) (h : c.render = d.render) :
    c = d := by
  rw [← ofRendered_render hc, h, ofRendered_render hd]

/-- Apart from its series, the text of a code is its number in four digits, or in as many as that
takes. -/
theorem render_eq_render_iff (c d : Code) :
    (c.Separated → d.Separated → (c.render = d.render ↔ c = d)) ∧
      ∃ digits, c.render.toList = c.series.toList ++ digits ∧
        (∀ e ∈ digits, e.isDigit = true) ∧
        Nat.ofDigitChars 10 digits 0 = c.number.toNat ∧
        4 ≤ digits.length ∧ ∀ k, digits.length ≤ 4 + k ↔ c.number.toNat < 10 ^ (4 + k) := by
  constructor
  · intro hc hd
    exact ⟨eq_of_render_eq hc hd, congrArg render⟩
  · refine ⟨paddedDigits c.number.toNat, c.toList_render, fun e => isDigit_of_mem_paddedDigits,
      ofDigitChars_paddedDigits _, ?_, fun k => length_paddedDigits_le_iff (Nat.le_add_right 4 k)⟩
    rw [length_paddedDigits]
    exact Nat.le_max_left 4 _

theorem render_eq_render_iff_wide :
    let c : Code := ⟨"E", 10010⟩
    let d : Code := ⟨"E1-", 10⟩
    c.Separated ∧ d.Separated ∧ c.render = "E10010" ∧ c.render ≠ d.render := by
  intro c d
  have hc : c.Separated := by decide
  have hd : d.Separated := by decide
  have hne : c ≠ d := by decide
  exact ⟨hc, hd, by decide, fun h => hne (((render_eq_render_iff c d).1 hc hd).1 h)⟩

example : (⟨"E1", 10⟩ : Code).render = (⟨"E", 10010⟩ : Code).render := by decide

end QueryLexer.Diagnostic.Code
