import QueryLexer.Lexeme.Regex
import QueryLexer.Proofs.CharReader.Takes

namespace QueryLexer.Lexeme

open CharReader

/-- A body, the slice that spells it with what closes it, and what follows the slice. -/
inductive RegexSpells : List Char → List Char → List Char → Prop
  | atEnd : RegexSpells [] [] []
  | lineEnd (cs : List Char) : RegexSpells [] [] ('\n' :: cs)
  | closed (cs : List Char) : RegexSpells [] ['/'] cs
  | slash {body slice following : List Char} : RegexSpells body slice following →
      RegexSpells ('/' :: body) ('\\' :: '/' :: slice) following
  | backslash {body slice following : List Char} : (slice ++ following).head? ≠ some '/' →
      RegexSpells body slice following → RegexSpells ('\\' :: body) ('\\' :: slice) following
  | char {c : Char} {body slice following : List Char} : c ≠ '/' → c ≠ '\n' → c ≠ '\\' →
      RegexSpells body slice following → RegexSpells (c :: body) (c :: slice) following

theorem exists_regexSpells (cs : List Char) :
    ∃ body slice following, cs = slice ++ following ∧ RegexSpells body slice following := by
  cases cs with
  | nil => exact ⟨[], [], [], rfl, .atEnd⟩
  | cons c cs =>
    by_cases hs : c = '/'
    · exact ⟨[], [c], cs, rfl, hs ▸ .closed cs⟩
    by_cases hn : c = '\n'
    · exact ⟨[], [], c :: cs, rfl, hn ▸ .lineEnd cs⟩
    by_cases hb : c = '\\'
    · by_cases hnext : cs.head? = some '/'
      · obtain ⟨ds, hds⟩ := List.head?_eq_some_iff.1 hnext
        obtain ⟨body, slice, following, hcs, hbody⟩ := exists_regexSpells ds
        refine ⟨_, _, following, ?_, .slash hbody⟩
        rw [hb, hds, hcs]
        rfl
      · obtain ⟨body, slice, following, hcs, hbody⟩ := exists_regexSpells cs
        rw [hcs] at hnext
        refine ⟨_, _, following, ?_, .backslash hnext hbody⟩
        rw [hb, hcs]
        rfl
    · obtain ⟨body, slice, following, hcs, hbody⟩ := exists_regexSpells cs
      exact ⟨_, _, following, congrArg (c :: ·) hcs, .char hs hn hb hbody⟩
termination_by cs.length
decreasing_by
  · rw [hds]
    exact Nat.lt_trans (Nat.lt_succ_self _) (Nat.lt_succ_self _)
  · exact Nat.lt_succ_self _
  · exact Nat.lt_succ_self _

variable {κ : Type} [CharReader κ] {k : κ} {text : String} {c : Char} {cs : List Char}

theorem readRegexBody_eq (text : String) (k : κ) :
    readRegexBody text k =
      match CharReader.read k with
      | (none, k') => (text, k')
      | (some c, k₁) =>
        if c = '/' then (text, k₁)
        else if c = '\n' then (text, unread k₁)
        else if c = '\\' then
          let next := matchChar '/' k₁
          readRegexBody (text.push (bif next.1 then '/' else '\\')) next.2
        else readRegexBody (text.push c) k₁ := by
  rw [readRegexBody]
  split
  · next h => rw [h]
  · next h => rw [h]

theorem readRegexBody_of_nil (h : rest k = []) :
    readRegexBody text k = (text, (CharReader.read k).2) := by
  rw [readRegexBody_eq, read_of_rest_nil h]

theorem readRegexBody_of_cons (h : rest k = c :: cs) :
    readRegexBody text k =
      if c = '/' then (text, (CharReader.read k).2)
      else if c = '\n' then (text, unread (CharReader.read k).2)
      else if c = '\\' then
        let next := matchChar '/' (CharReader.read k).2
        readRegexBody (text.push (bif next.1 then '/' else '\\')) next.2
      else readRegexBody (text.push c) (CharReader.read k).2 := by
  rw [readRegexBody_eq, read_of_rest_cons h]

theorem readRegexBody_of_spells {body slice following : List Char}
    (hbody : RegexSpells body slice following) (text : String)
    (h : rest k = slice ++ following) :
    (readRegexBody text k).1 = text ++ String.ofList body ∧
      Takes k slice (readRegexBody text k).2 := by
  induction hbody generalizing k text with
  | atEnd =>
    rw [readRegexBody_of_nil h]
    exact ⟨String.append_empty.symm, .of_none (read_of_rest_nil h)⟩
  | lineEnd =>
    rw [readRegexBody_of_cons h, if_neg (by decide), if_pos rfl]
    exact ⟨String.append_empty.symm, .unread (read_of_rest_cons h)⟩
  | closed =>
    rw [readRegexBody_of_cons h, if_pos rfl]
    exact ⟨String.append_empty.symm, .of_some (read_of_rest_cons h)⟩
  | slash _ ih =>
    have htakes := Takes.of_some (read_of_rest_cons h)
    have hrest := htakes.rest_eq_of_append h
    have hnext := htakes.trans (.matchChar_of_head (by rw [hrest]; rfl))
    have hbody := ih (text.push '/') (hnext.rest_eq_of_append h)
    rw [readRegexBody_of_cons h, if_neg (by decide), if_neg (by decide), if_pos rfl]
    simp only [matchChar_fst_of_head (show (rest (CharReader.read k).2).head? = some '/' by
      rw [hrest]; rfl), cond_true]
    exact ⟨by rw [hbody.1, push_append_ofList], hnext.trans hbody.2⟩
  | backslash hne _ ih =>
    have htakes := Takes.of_some (read_of_rest_cons h)
    have hrest := htakes.rest_eq_of_append h
    have hnext := htakes.trans (.matchChar_of_ne (by rwa [hrest]))
    have hbody := ih (text.push '\\') (hnext.rest_eq_of_append h)
    rw [readRegexBody_of_cons h, if_neg (by decide), if_neg (by decide), if_pos rfl]
    simp only [matchChar_fst_of_ne (show (rest (CharReader.read k).2).head? ≠ some '/' by
      rwa [hrest]), cond_false]
    exact ⟨by rw [hbody.1, push_append_ofList], hnext.trans hbody.2⟩
  | @char c _ _ _ hs hn hb _ ih =>
    have htakes := Takes.of_some (read_of_rest_cons h)
    have hbody := ih (text.push c) (htakes.rest_eq_of_append h)
    rw [readRegexBody_of_cons h, if_neg hs, if_neg hn, if_neg hb]
    exact ⟨by rw [hbody.1, push_append_ofList], htakes.trans hbody.2⟩

end QueryLexer.Lexeme
