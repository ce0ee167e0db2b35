import QueryLexer.Proofs.Lexer.Scan

/-!
The lexical grammar of all that is not quoted, and the longest match against it. Main statement:
a lexer takes the longest word that the text starts with, or one character if it starts with none.
-/

namespace QueryLexer

inductive Word : Token → List Char → Prop
  | whitespace {cs : List Char} (nonempty : cs ≠ [])
      (all : ∀ c ∈ cs, c = ' ' ∨ c = '\t' ∨ c = '\n') : Word .whitespace cs
  | integer {ds : List Char} (nonempty : ds ≠ []) (all : ∀ d ∈ ds, d.isDigit = true) :
      Word .integer ds
  | float {ds fs : List Char} (nonempty : ds ≠ []) (all : ∀ d ∈ ds, d.isDigit = true)
      (fraction : ∀ d ∈ fs, d.isDigit = true) : Word .float (ds ++ '.' :: fs)
  | name {c : Char} {cs : List Char} (first : isLetter c = true ∨ c = '_' ∨ c = '@')
      (all : ∀ d ∈ cs, isLetter d = true ∨ d.isDigit = true ∨ d = '_') :
      Word (.ofIdent (String.ofList (c :: cs))) (c :: cs)
  | symbol (s : Symbol) : Word (.symbol s) s.spelling.toList

/-- The longest word that a text starts with, and the one token that it is. -/
structure Longest (text : List Char) (token : Token) (slice : List Char) : Prop where
  word : Word token slice
  starts : slice <+: text
  unique : ∀ t, Word t slice → t = token
  longest : ∀ t w, Word t w → w <+: text → w.length ≤ slice.length

namespace Word

def Fits (token : Token) (w : List Char) : FirstClass → Prop
  | .whitespace => token = .whitespace ∧ ∀ c ∈ w, isWhitespace c = true
  | .quote => False
  | .digit =>
    (token = .integer ∧ ∀ d ∈ w, d.isDigit = true) ∨
      token = .float ∧ ∃ ds fs, w = ds ++ '.' :: fs ∧
        (∀ d ∈ ds, d.isDigit = true) ∧ ∀ d ∈ fs, d.isDigit = true
  | .identStart =>
    token = .ofIdent (String.ofList w) ∧ ∀ d ∈ w.tail, isIdentContinue d = true
  | .other => ∃ s : Symbol, token = .symbol s ∧ s.spelling.toList = w

variable {t : Token} {c : Char} {w : List Char}

theorem ne_nil (h : Word t w) : w ≠ [] := by
  cases h with
  | whitespace nonempty => exact nonempty
  | integer nonempty => exact nonempty
  | float nonempty => exact List.append_ne_nil_of_left_ne_nil nonempty _
  | name => exact List.cons_ne_nil _ _
  | symbol s => exact Lexeme.spelling_ne_nil s

theorem fits (h : Word t (c :: w)) : Fits t (c :: w) (FirstClass.of c) := by
  generalize hw : c :: w = word at h ⊢
  cases h with
  | whitespace _ all =>
    have hall := fun d hd => isWhitespace_iff.2 (all d hd)
    rw [FirstClass.of_isWhitespace (hall c (hw ▸ List.mem_cons_self))]
    exact ⟨rfl, hall⟩
  | integer _ all =>
    rw [FirstClass.of_isDigit (all c (hw ▸ List.mem_cons_self))]
    exact .inl ⟨rfl, all⟩
  | @float ds fs nonempty all fraction =>
    cases ds with
    | nil => exact absurd rfl nonempty
    | cons d ds =>
      cases hw
      rw [FirstClass.of_isDigit (all c List.mem_cons_self)]
      exact .inr ⟨rfl, c :: ds, fs, rfl, all, fraction⟩
  | name first all =>
    cases hw
    rw [FirstClass.of_isIdentStart (isIdentStart_iff.2 first)]
    exact ⟨rfl, fun d hd => isIdentContinue_iff.2 (all d hd)⟩
  | symbol s =>
    rw [Lexeme.other_of_spelling hw.symm]
    exact ⟨s, rfl, rfl⟩

theorem fits_of {k : FirstClass} (h : Word t (c :: w)) (hc : FirstClass.of c = k) :
    Fits t (c :: w) k := by
  rw [← hc]
  exact h.fits

theorem exists_cons {cs : List Char} (h : Word t w) (starts : w <+: c :: cs) :
    ∃ ds, w = c :: ds ∧ ds <+: cs := by
  cases w with
  | nil => exact absurd rfl h.ne_nil
  | cons d ds =>
    rw [List.cons_prefix_cons] at starts
    exact ⟨ds, by rw [starts.1], starts.2⟩

end Word

theorem length_le_of_run {p : Char → Bool} {w run following : List Char}
    (hw : ∀ c ∈ w, p c = true) (hrun : ∀ c ∈ run, p c = true) (stops : Stops p following)
    (starts : w <+: run ++ following) : w.length ≤ run.length := by
  obtain ⟨v, hv⟩ := starts
  have htake := congrArg (List.takeWhile p) hv
  rw [takeWhile_of_stops hrun stops, List.takeWhile_append_of_pos hw] at htake
  rw [← htake, List.length_append]
  exact Nat.le_add_right _ _

theorem digits_eq_of_dot {ds es us vs : List Char} (hds : ∀ d ∈ ds, d.isDigit = true)
    (hes : ∀ d ∈ es, d.isDigit = true) (h : ds ++ '.' :: us = es ++ vs)
    (stops : Stops Char.isDigit vs) : ds = es ∧ '.' :: us = vs := by
  have htake := congrArg (List.takeWhile Char.isDigit) h
  rw [takeWhile_of_stops hds (stops_cons rfl), takeWhile_of_stops hes stops] at htake
  rw [htake] at h
  exact ⟨htake, List.append_cancel_left h⟩

namespace Longest

variable {following : List Char}

theorem whitespace {run : List Char} (nonempty : run ≠ [])
    (all : ∀ c ∈ run, isWhitespace c = true) (stops : Stops isWhitespace following) :
    Longest (run ++ following) .whitespace run := by
  cases run with
  | nil => exact absurd rfl nonempty
  | cons c cs =>
    have hc := FirstClass.of_isWhitespace (all c List.mem_cons_self)
    refine ⟨.whitespace nonempty ?_, List.prefix_append _ _, ?_, ?_⟩
    · intro d hd
      exact isWhitespace_iff.1 (all d hd)
    · intro t ht
      exact (ht.fits_of hc).1
    · intro t w ht starts
      obtain ⟨ds, rfl, -⟩ := ht.exists_cons starts
      exact length_le_of_run (ht.fits_of hc).2 all stops starts

theorem integer {run : List Char} (nonempty : run ≠ []) (all : ∀ d ∈ run, d.isDigit = true)
    (stops : Stops Char.isDigit following) (noDot : following.head? ≠ some '.') :
    Longest (run ++ following) .integer run := by
  cases run with
  | nil => exact absurd rfl nonempty
  | cons c cs =>
    have hc := FirstClass.of_isDigit (all c List.mem_cons_self)
    refine ⟨.integer nonempty all, List.prefix_append _ _, ?_, ?_⟩
    · intro t ht
      rcases ht.fits_of hc with ⟨h, -⟩ | ⟨-, ds, fs, hslice, -, -⟩
      · exact h
      · have hdot := all '.' (by simp [hslice])
        cases hdot
    · intro t w ht starts
      obtain ⟨w', rfl, -⟩ := ht.exists_cons starts
      -- A longer word would go on with a digit, or with a dot.
      rcases ht.fits_of hc with ⟨-, hw⟩ | ⟨-, ds, fs, hw, hds, -⟩
      · exact length_le_of_run hw all stops starts
      · rw [hw] at starts
        obtain ⟨v, hv⟩ := starts
        rw [List.append_assoc] at hv
        have hdot := (digits_eq_of_dot hds all hv stops).2
        rw [← hdot] at noDot
        exact absurd rfl noDot

theorem float {run fraction : List Char} (nonempty : run ≠ []) (all : ∀ d ∈ run, d.isDigit = true)
    (digits : ∀ d ∈ fraction, d.isDigit = true) (stops : Stops Char.isDigit following) :
    Longest (run ++ '.' :: fraction ++ following) .float (run ++ '.' :: fraction) := by
  cases run with
  | nil => exact absurd rfl nonempty
  | cons c cs =>
    have hc := FirstClass.of_isDigit (all c List.mem_cons_self)
    refine ⟨.float nonempty all digits, List.prefix_append _ _, ?_, ?_⟩
    · intro t ht
      rcases ht.fits_of hc with ⟨-, hslice⟩ | ⟨h, -⟩
      · have hdot := hslice '.' (by simp)
        cases hdot
      · exact h
    · intro t w ht starts
      obtain ⟨w', rfl, -⟩ := ht.exists_cons starts
      -- An integer ends at the dot at the latest; a longer float has the same digits before it.
      rcases ht.fits_of hc with ⟨-, hw⟩ | ⟨-, ds, fs, hw, hds, hfs⟩
      · rw [List.append_assoc] at starts
        have hle := length_le_of_run hw all (stops_cons rfl) starts
        rw [List.length_append]
        exact Nat.le_add_right_of_le hle
      · rw [hw] at starts ⊢
        obtain ⟨v, hv⟩ := starts
        rw [List.append_assoc, List.append_assoc] at hv
        have heq := digits_eq_of_dot hds all hv (stops_cons rfl)
        have htail := (List.cons.inj heq.2).2
        have hle := length_le_of_run hfs digits stops ⟨v, htail⟩
        rw [heq.1, List.length_append, List.length_append]
        exact Nat.add_le_add_left (Nat.succ_le_succ hle) _

theorem name {c : Char} {cs : List Char} (first : isIdentStart c = true)
    (all : ∀ d ∈ cs, isIdentContinue d = true) (stops : Stops isIdentContinue following) :
    Longest (c :: cs ++ following) (.ofIdent (String.ofList (c :: cs))) (c :: cs) := by
  have hc := FirstClass.of_isIdentStart first
  refine ⟨.name (isIdentStart_iff.1 first) ?_, List.prefix_append _ _, ?_, ?_⟩
  · intro d hd
    exact isIdentContinue_iff.1 (all d hd)
  · intro t ht
    exact (ht.fits_of hc).1
  · intro t w ht starts
    obtain ⟨ds, rfl, hds⟩ := ht.exists_cons starts
    exact Nat.succ_le_succ (length_le_of_run (ht.fits_of hc).2 all stops hds)

theorem symbol {s : Symbol} (longest : ∀ (t : Symbol) (d : Char),
      t.spelling.toList = s.spelling.toList ++ [d] → following.head? ≠ some d) :
    Longest (s.spelling.toList ++ following) (.symbol s) s.spelling.toList := by
  cases hs : s.spelling.toList with
  | nil => exact absurd hs (Lexeme.spelling_ne_nil s)
  | cons c cs =>
    have hc := Lexeme.other_of_spelling hs
    refine ⟨hs ▸ .symbol s, List.prefix_append _ _, ?_, ?_⟩
    · intro t ht
      obtain ⟨u, rfl, hu⟩ := ht.fits_of hc
      rw [Symbol.eq_of_toList_spelling (hu.trans hs.symm)]
    · intro t w ht starts
      obtain ⟨ds, rfl, hds⟩ := ht.exists_cons starts
      obtain ⟨u, rfl, hu⟩ := ht.fits_of hc
      rcases u.toList_spelling_cases with ⟨d, hd⟩ | ⟨d, e, hde⟩
      · rw [← hu, hd]
        exact Nat.succ_le_succ (Nat.zero_le _)
      · rw [hde] at hu
        cases hu
        cases cs with
        | nil =>
          obtain ⟨v, hv⟩ := hds
          have hhead : following.head? = some e := by
            change [e] ++ v = following at hv
            rw [← hv]
            rfl
          exact absurd hhead (longest u e (by rw [hde, hs]; rfl))
        | cons => exact Nat.succ_le_succ (Nat.succ_le_succ (Nat.zero_le _))

end Longest

theorem not_starts_of_illegal {c : Char} {following : List Char} (other : FirstClass.of c = .other)
    (single : ∀ s : Symbol, s.spelling.toList ≠ [c])
    (pair : ∀ (s : Symbol) (d : Char), s.spelling.toList = [c, d] → following.head? ≠ some d)
    {t : Token} {w : List Char} (h : Word t w) : ¬ w <+: c :: following := by
  intro starts
  obtain ⟨ds, rfl, hds⟩ := h.exists_cons starts
  obtain ⟨s, rfl, hs⟩ := h.fits_of other
  rcases s.toList_spelling_cases with ⟨d, hd⟩ | ⟨d, e, hde⟩
  · rw [hd] at hs
    cases hs
    exact single s hd
  · rw [hde] at hs
    cases hs
    obtain ⟨v, hv⟩ := hds
    exact pair s e hde (by rw [← hv]; rfl)

theorem cons_ne_of_isQuote {q c : Char} {cs ds : List Char} (hq : isQuote q = true)
    (hc : isQuote c = false) : c :: cs ≠ q :: ds := by
  intro h
  cases h
  rw [hq] at hc
  cases hc

theorem Lexeme.Spells.longest {start : Position} {c : Char} {cs following slice : List Char}
    {x : Lexeme} (h : x.Spells start following slice) (hrest : c :: cs = slice ++ following)
    (quote : isQuote c = false) :
    Longest (c :: cs) x.token slice ∨
      slice = [c] ∧ x = ⟨.illegal, start, String.singleton c⟩ ∧
        ∀ t w, Word t w → ¬ w <+: c :: cs := by
  rw [hrest]
  cases h with
  | whitespace nonempty all stops => exact .inl (.whitespace nonempty all stops)
  | integer nonempty all stops noDot => exact .inl (.integer nonempty all stops noDot)
  | float nonempty all fraction stops => exact .inl (.float nonempty all fraction stops)
  | @keyword d ds k first all stops spelled =>
    have htoken : Token.keyword k = .ofIdent (String.ofList (d :: ds)) := by
      rw [Token.ofIdent, Keyword.ofIdent?_eq_some_iff.2 spelled]
    rw [htoken]
    exact .inl (.name first all stops)
  | @ident d ds first all stops free =>
    have htoken : Token.ident = .ofIdent (String.ofList (d :: ds)) := by
      rw [Token.ofIdent, Keyword.ofIdent?_eq_none_iff.2 free]
    rw [htoken]
    exact .inl (.name first all stops)
  | symbol longest => exact .inl (.symbol longest)
  | illegal other single pair =>
    cases hrest
    exact .inr ⟨rfl, rfl, fun _ _ hw => not_starts_of_illegal other single pair hw⟩
  | string text hquote =>
    rw [Quoted.toList_encode] at hrest
    exact absurd hrest (cons_ne_of_isQuote hquote quote)
  | badString text hquote => exact absurd hrest (cons_ne_of_isQuote hquote quote)
  | badStringBackslash text hquote => exact absurd hrest (cons_ne_of_isQuote hquote quote)
  | badEscape text hquote => exact absurd hrest (cons_ne_of_isQuote hquote quote)

/-- Without skipping, a lexer takes the longest word, and one character where no word starts. -/
theorem Lexer.next_longest {κ : Type} [CharReader κ] (l : Lexer κ)
    (skip : l.settings.skipWhitespace = false) {c : Char} {cs : List Char}
    (hrest : l.rest = c :: cs) (quote : c ≠ '"' ∧ c ≠ '\'') :
    ∃ slice, l.rest = slice ++ l.next.2.rest ∧
      (Longest l.rest l.next.1.token slice ∨
        slice = [c] ∧ l.next.1 = ⟨.illegal, l.pos, String.singleton c⟩ ∧
          ∀ t w, Word t w → ¬ w <+: l.rest) ∧
      (c = '!' → cs.head? ≠ some '~' → ∀ t w, Word t w → ¬ w <+: l.rest) := by
  have hquote : isQuote c = false := by
    rw [← Bool.not_eq_true, isQuote_iff, not_or]
    exact quote
  obtain ⟨slice, htakes, hspells⟩ := exists_next skip (hrest ▸ List.cons_ne_nil c cs)
  have htaken : c :: cs = slice ++ l.next.2.rest := hrest.symm.trans htakes.rest_eq
  refine ⟨slice, htakes.rest_eq, ?_, ?_⟩
  · rw [hrest]
    exact hspells.longest htaken hquote
  · rintro rfl hnext t w hw
    rw [hrest]
    apply not_starts_of_illegal rfl ?_ ?_ hw
    · intro s hs
      cases s <;> cases hs
    · intro s d hs
      cases s <;> cases hs
      exact hnext

theorem Lexer.next_longest_comparison :
    let l := Lexer.ofString "<=1" .standard
    l.settings.skipWhitespace = false ∧ l.rest = ['<', '=', '1'] ∧
      ∃ slice, l.rest = slice ++ l.next.2.rest ∧
        (Longest l.rest l.next.1.token slice ∨
          slice = ['<'] ∧ l.next.1 = ⟨.illegal, l.pos, "<"⟩ ∧
            ∀ t w, Word t w → ¬ w <+: l.rest) ∧
        ('<' = '!' → ['=', '1'].head? ≠ some '~' → ∀ t w, Word t w → ¬ w <+: l.rest) := by
  intro l
  have hrest : l.rest = ['<', '=', '1'] := rfl
  exact ⟨rfl, hrest, l.next_longest rfl hrest ⟨by decide, by decide⟩⟩

end QueryLexer
