import QueryLexer.Proofs.CharReader.Takes
import QueryLexer.Quoted

namespace QueryLexer.Quoted

open CharReader

/-- A quote that cannot be mistaken for part of an escape of another character. -/
structure Delimits (quote : Char) : Prop where
  ne_backslash : quote ≠ '\\'
  ne_n : quote ≠ 'n'
  ne_newline : quote ≠ '\n'

/-- A character that comes back from its escape between two of the quotes. -/
structure Fits (quote c : Char) : Prop where
  ne_n : quote = 'n' → c ≠ 'n'
  ne_backslash : quote = '\\' → c ≠ '\\'
  ne_newline : quote = '\\' → c ≠ '\n'

theorem Delimits.fits {quote : Char} (hq : Delimits quote) (c : Char) : Fits quote c where
  ne_n h := absurd h hq.ne_n
  ne_backslash h := absurd h hq.ne_backslash
  ne_newline h := absurd h hq.ne_backslash

def opened (text : String) (quote : Char) : List Char :=
  quote :: text.toList.flatMap (escape quote)

theorem toList_encode (text : String) (quote : Char) :
    (encode text quote).toList = opened text quote ++ [quote] := by
  simp [encode, opened]

def LineEnd (following : List Char) : Prop := following = [] ∨ ∃ cs, following = '\n' :: cs

inductive Final (quote : Char) : List Char → Prop
  | closing (cs : List Char) : Final quote (quote :: cs)
  | lineEnd {cs : List Char} : LineEnd cs → Final quote cs
  | backslash : Final quote ['\\']
  | badEscape {c : Char} (cs : List Char) : unescape? quote c = none → Final quote ('\\' :: c :: cs)

variable {quote c d e : Char} {cs : List Char}

theorem escape_of_unescape? (hq : Delimits quote) (h : unescape? quote e = some d) :
    escape quote d = ['\\', e] := by
  simp only [unescape?] at h
  split at h
  · next he =>
    cases h
    rw [he]
    rfl
  · split at h
    · next he =>
      cases h
      cases he with
      | inl he => rw [he]; rfl
      | inr he => rw [he, escape, if_neg hq.ne_backslash, if_neg hq.ne_newline, if_pos rfl]
    · cases h

theorem escape_of_ne (hc : c ≠ quote) (hn : c ≠ '\n') (hb : c ≠ '\\') : escape quote c = [c] := by
  rw [escape, if_neg hb, if_neg hn, if_neg hc]

theorem escape_cases (h : Fits quote c) :
    (∃ e, escape quote c = ['\\', e] ∧ quote ≠ '\\' ∧ unescape? quote e = some c) ∨
      escape quote c = [c] ∧ c ≠ quote ∧ c ≠ '\n' ∧ c ≠ '\\' := by
  by_cases hb : c = '\\'
  · subst hb
    exact .inl ⟨'\\', rfl, fun hq => h.ne_backslash hq rfl, rfl⟩
  by_cases hn : c = '\n'
  · subst hn
    exact .inl ⟨'n', rfl, fun hq => h.ne_newline hq rfl, rfl⟩
  by_cases hc : c = quote
  · subst hc
    refine .inl ⟨c, ?_, hb, ?_⟩
    · rw [escape, if_neg hb, if_neg hn, if_pos rfl]
    · rw [unescape?, if_neg (fun hq => h.ne_n hq hq), if_pos (.inr rfl)]
  · exact .inr ⟨escape_of_ne hc hn hb, hc, hn, hb⟩

theorem exists_final (hq : Delimits quote) (cs : List Char) :
    ∃ (text : List Char) (behind : List Char),
      cs = text.flatMap (escape quote) ++ behind ∧ Final quote behind := by
  -- By recursion and not by induction, since an escape takes two characters.
  cases cs with
  | nil => exact ⟨[], [], rfl, .lineEnd (.inl rfl)⟩
  | cons c cs =>
    by_cases hc : c = quote
    · exact ⟨[], c :: cs, rfl, hc ▸ .closing cs⟩
    by_cases hn : c = '\n'
    · exact ⟨[], c :: cs, rfl, .lineEnd (.inr ⟨cs, by rw [hn]⟩)⟩
    by_cases hb : c = '\\'
    · cases cs with
      | nil => exact ⟨[], [c], rfl, hb ▸ .backslash⟩
      | cons e cs =>
        cases he : unescape? quote e with
        | none => exact ⟨[], c :: e :: cs, rfl, hb ▸ .badEscape cs he⟩
        | some d =>
          obtain ⟨text, behind, hcs, hfinal⟩ := exists_final hq cs
          refine ⟨d :: text, behind, ?_, hfinal⟩
          rw [List.flatMap_cons, escape_of_unescape? hq he, hb, hcs]
          rfl
    · obtain ⟨text, behind, hcs, hfinal⟩ := exists_final hq cs
      refine ⟨c :: text, behind, ?_, hfinal⟩
      rw [List.flatMap_cons, escape_of_ne hc hn hb, hcs]
      rfl
termination_by cs.length

section

variable {κ : Type} [CharReader κ] {k : κ} {content : String}

theorem readBody_eq (quote : Char) (content : String) (k : κ) :
    readBody quote content k =
      match read k with
      | (none, k') => (.unterminated content, k')
      | (some c, k₁) =>
        if c = quote then (.closed content, k₁)
        else if c = '\n' then (.unterminated content, unread k₁)
        else if c = '\\' then
          match read k₁ with
          | (none, k₂) => (.unterminated content, k₂)
          | (some e, k₂) =>
            match unescape? quote e with
            | some d => readBody quote (content.push d) k₂
            | none => (.badEscape e (pos k), k₂)
        else readBody quote (content.push c) k₁ := by
  rw [readBody]
  split
  · next h => rw [h]
  · next c k₁ h =>
    rw [h]
    dsimp only
    congr 3
    split
    · next h₁ => simp only [h₁]
    · next e k₂ h₁ =>
      cases hd : unescape? quote e with
      | none => simp only [h₁, hd]
      | some d => simp only [h₁, hd]

theorem readBody_of_nil (h : rest k = []) :
    readBody quote content k = (.unterminated content, (read k).2) := by
  rw [readBody_eq, read_of_rest_nil h]

theorem readBody_of_quote (h : rest k = quote :: cs) :
    readBody quote content k = (.closed content, (read k).2) := by
  rw [readBody_eq, read_of_rest_cons h]
  exact if_pos rfl

theorem readBody_of_newline (hq : Delimits quote) (h : rest k = '\n' :: cs) :
    readBody quote content k = (.unterminated content, unread (read k).2) := by
  rw [readBody_eq, read_of_rest_cons h]
  dsimp only
  rw [if_neg hq.ne_newline.symm, if_pos rfl]

theorem readBody_of_ne (h : rest k = c :: cs) (hc : c ≠ quote) (hn : c ≠ '\n') (hb : c ≠ '\\') :
    readBody quote content k = readBody quote (content.push c) (read k).2 := by
  rw [readBody_eq, read_of_rest_cons h]
  dsimp only
  rw [if_neg hc, if_neg hn, if_neg hb]

theorem readBody_of_backslash (hq : quote ≠ '\\') (h : rest k = ['\\']) :
    readBody quote content k = (.unterminated content, (read (read k).2).2) := by
  have hread := read_of_rest_cons h
  have hrest : rest (read k).2 = [] := (Takes.of_some hread).rest_eq_of_append h
  rw [readBody_eq, hread]
  dsimp only
  rw [if_neg hq.symm, if_neg (by decide), if_pos rfl, read_of_rest_nil hrest]

theorem readBody_of_escape (hq : quote ≠ '\\') (h : rest k = '\\' :: e :: cs) :
    readBody quote content k =
      match unescape? quote e with
      | some d => readBody quote (content.push d) (read (read k).2).2
      | none => (.badEscape e (pos k), (read (read k).2).2) := by
  have hread := read_of_rest_cons h
  have hrest : rest (read k).2 = e :: cs := (Takes.of_some hread).rest_eq_of_append h
  rw [readBody_eq, hread]
  dsimp only
  rw [if_neg hq.symm, if_neg (by decide), if_pos rfl, read_of_rest_cons hrest]

theorem readBody_flatMap (content : String) (text : List Char) (fits : ∀ c ∈ text, Fits quote c)
    (h : rest k = text.flatMap (escape quote) ++ cs) :
    ∃ k', Takes k (text.flatMap (escape quote)) k' ∧
      readBody quote content k = readBody quote (content ++ String.ofList text) k' := by
  induction text generalizing k content with
  | nil => exact ⟨k, .refl k, by simp⟩
  | cons c text ih =>
    rw [List.forall_mem_cons] at fits
    rw [List.flatMap_cons, List.append_assoc] at h
    have hstep : ∃ k', Takes k (escape quote c) k' ∧
        readBody quote content k = readBody quote (content.push c) k' := by
      rcases escape_cases fits.1 with ⟨e, he, hq, hu⟩ | ⟨he, hc, hn, hb⟩
      · rw [he] at h ⊢
        have hread := Takes.of_some (read_of_rest_cons h)
        have hread' := Takes.of_some (read_of_rest_cons (hread.rest_eq_of_append h))
        exact ⟨_, hread.trans hread', by rw [readBody_of_escape hq h, hu]⟩
      · rw [he] at h ⊢
        exact ⟨_, .of_some (read_of_rest_cons h), readBody_of_ne h hc hn hb⟩
    obtain ⟨k₁, htakes, heq⟩ := hstep
    obtain ⟨k₂, htakes', heq'⟩ := ih (content.push c) fits.2 (htakes.rest_eq_of_append h)
    exact ⟨k₂, htakes.trans htakes', by rw [heq, heq', push_append_ofList]⟩

theorem readBody_closing (text : List Char) (fits : ∀ c ∈ text, Fits quote c)
    (h : rest k = text.flatMap (escape quote) ++ quote :: cs) :
    (readBody quote "" k).1 = .closed (String.ofList text) ∧
      Takes k (text.flatMap (escape quote) ++ [quote]) (readBody quote "" k).2 := by
  obtain ⟨k', htakes, heq⟩ := readBody_flatMap "" text fits h
  have hrest := htakes.rest_eq_of_append h
  rw [heq, String.empty_append, readBody_of_quote hrest]
  exact ⟨rfl, htakes.trans (.of_some (read_of_rest_cons hrest))⟩

theorem readBody_lineEnd (hq : Delimits quote) (text : List Char) (hcs : LineEnd cs)
    (h : rest k = text.flatMap (escape quote) ++ cs) :
    (readBody quote "" k).1 = .unterminated (String.ofList text) ∧
      Takes k (text.flatMap (escape quote)) (readBody quote "" k).2 := by
  obtain ⟨k', htakes, heq⟩ := readBody_flatMap "" text (fun c _ => hq.fits c) h
  have hrest := htakes.rest_eq_of_append h
  rw [heq, String.empty_append, ← List.append_nil (text.flatMap (escape quote))]
  cases hcs with
  | inl hcs =>
    rw [hcs] at hrest
    rw [readBody_of_nil hrest]
    exact ⟨rfl, htakes.trans (.of_none (read_of_rest_nil hrest))⟩
  | inr hcs =>
    obtain ⟨ds, hds⟩ := hcs
    rw [hds] at hrest
    rw [readBody_of_newline hq hrest]
    exact ⟨rfl, htakes.trans (.unread (read_of_rest_cons hrest))⟩

theorem readBody_backslash (hq : Delimits quote) (text : List Char)
    (h : rest k = text.flatMap (escape quote) ++ ['\\']) :
    (readBody quote "" k).1 = .unterminated (String.ofList text) ∧
      Takes k (text.flatMap (escape quote) ++ ['\\']) (readBody quote "" k).2 := by
  obtain ⟨k', htakes, heq⟩ := readBody_flatMap "" text (fun c _ => hq.fits c) h
  have hrest := htakes.rest_eq_of_append h
  have hread := Takes.of_some (read_of_rest_cons hrest)
  have hnil := hread.rest_eq_of_append hrest
  rw [heq, String.empty_append, readBody_of_backslash hq.ne_backslash hrest]
  exact ⟨rfl, htakes.trans (hread.trans (.of_none (read_of_rest_nil hnil)))⟩

theorem readBody_badEscape (hq : Delimits quote) (text : List Char)
    (he : unescape? quote e = none)
    (h : rest k = text.flatMap (escape quote) ++ '\\' :: e :: cs) :
    (readBody quote "" k).1 =
        .badEscape e ((pos k).afterAll (text.flatMap (escape quote))) ∧
      Takes k (text.flatMap (escape quote) ++ ['\\', e]) (readBody quote "" k).2 := by
  obtain ⟨k', htakes, heq⟩ := readBody_flatMap "" text (fun c _ => hq.fits c) h
  have hrest := htakes.rest_eq_of_append h
  have hread := Takes.of_some (read_of_rest_cons hrest)
  have hread' := Takes.of_some (read_of_rest_cons (hread.rest_eq_of_append hrest))
  rw [heq, readBody_of_escape hq.ne_backslash hrest, he, htakes.pos_eq]
  exact ⟨rfl, htakes.trans (hread.trans hread')⟩

end

end QueryLexer.Quoted
