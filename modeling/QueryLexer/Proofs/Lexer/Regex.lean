import QueryLexer.Proofs.Lexer.Progress

namespace QueryLexer

structure RegexBody (b : List Char) : Prop where
  line : '\n' ∉ b
  escaped : ∀ before behind, b = before ++ '/' :: behind → before.getLast? = some '\\'

structure LongestBody (text b : List Char) : Prop where
  starts : b <+: text
  body : RegexBody b
  longest : ∀ w, w <+: text → RegexBody w → w.length ≤ b.length

def unescapeSlashes : List Char → List Char
  | [] => []
  | '\\' :: '/' :: cs => '/' :: unescapeSlashes cs
  | c :: cs => c :: unescapeSlashes cs

theorem unescapeSlashes_cons {c : Char} {cs : List Char} (h : c = '\\' → cs.head? ≠ some '/') :
    unescapeSlashes (c :: cs) = c :: unescapeSlashes cs := by
  rw [unescapeSlashes.eq_def]
  split
  · next heq => cases heq
  · next heq =>
    cases heq
    exact absurd rfl (h rfl)
  · next heq =>
    cases heq
    rfl

namespace RegexBody

variable {b w following : List Char} {c : Char}

theorem nil : RegexBody [] := ⟨List.not_mem_nil, fun _ _ h => by simp at h⟩

theorem of_prefix (h : RegexBody b) (hw : w <+: b) : RegexBody w := by
  obtain ⟨v, rfl⟩ := hw
  refine ⟨fun hn => h.line (List.mem_append_left v hn), ?_⟩
  rintro before behind rfl
  exact h.escaped before (behind ++ v) (by simp)

theorem cons_iff (hc : c ≠ '/') (hn : c ≠ '\n') (hb : c = '\\' → b.head? ≠ some '/') :
    RegexBody (c :: b) ↔ RegexBody b := by
  constructor
  · intro h
    refine ⟨fun hmem => h.line (List.mem_cons_of_mem c hmem), ?_⟩
    rintro before behind rfl
    have hlast := h.escaped (c :: before) behind rfl
    cases before with
    | nil => exact absurd rfl (hb (Option.some.inj hlast))
    | cons d ds => rwa [List.getLast?_cons_cons] at hlast
  · intro h
    refine ⟨fun hmem => (List.mem_cons.1 hmem).elim (Ne.symm hn) h.line, ?_⟩
    intro before behind heq
    cases before with
    | nil =>
      cases heq
      exact absurd rfl hc
    | cons d ds =>
      cases heq
      have hlast := h.escaped ds behind rfl
      rw [List.getLast?_cons, hlast]
      rfl

theorem escaped_iff : RegexBody ('\\' :: '/' :: b) ↔ RegexBody b := by
  constructor
  · intro h
    refine ⟨fun hmem => h.line (by simp [hmem]), ?_⟩
    rintro before behind rfl
    have hlast := h.escaped ('\\' :: '/' :: before) behind rfl
    cases before with
    | nil => cases hlast
    | cons d ds => rwa [List.getLast?_cons_cons, List.getLast?_cons_cons] at hlast
  · intro h
    refine ⟨fun hmem => h.line (by simpa using hmem), ?_⟩
    intro before behind heq
    match before, heq with
    | [_], heq =>
      cases heq
      rfl
    | _ :: _ :: ds, heq =>
      cases heq
      have hlast := h.escaped ds behind rfl
      rw [List.getLast?_cons, List.getLast?_cons, hlast]
      rfl

end RegexBody

/-- A body that does not go on with the next character of the text. -/
structure BodyEnds (b behind : List Char) : Prop where
  body : RegexBody b
  stops : ∀ d, behind.head? = some d → ¬ RegexBody (b ++ [d])

namespace BodyEnds

variable {b behind : List Char} {c : Char}

theorem nil (h : ∀ d, behind.head? = some d → d = '/' ∨ d = '\n') : BodyEnds [] behind where
  body := .nil
  stops d hd hbody := by
    rcases h d hd with rfl | rfl
    · exact absurd (hbody.escaped [] [] rfl) (by decide)
    · exact hbody.line List.mem_cons_self

theorem cons (h : BodyEnds b behind) (hc : c ≠ '/') (hn : c ≠ '\n')
    (hb : c = '\\' → (b ++ behind).head? ≠ some '/') : BodyEnds (c :: b) behind where
  body := by
    refine (RegexBody.cons_iff hc hn fun h' hhead => hb h' ?_).2 h.body
    rw [List.head?_append, hhead]
    rfl
  stops d hd hbody := by
    refine h.stops d hd ((RegexBody.cons_iff hc hn fun h' hhead => hb h' ?_).1 hbody)
    rw [List.head?_append] at hhead ⊢
    rwa [hd]

theorem escaped (h : BodyEnds b behind) : BodyEnds ('\\' :: '/' :: b) behind where
  body := RegexBody.escaped_iff.2 h.body
  stops d hd hbody := h.stops d hd (RegexBody.escaped_iff.1 hbody)

theorem longestBody (h : BodyEnds b behind) : LongestBody (b ++ behind) b := by
  -- Bodies start with bodies, so a longer one would go on with the next character.
  refine ⟨List.prefix_append b behind, h.body, fun w hw hbody => Nat.le_of_not_lt fun hlt => ?_⟩
  obtain ⟨v, rfl⟩ := List.prefix_of_prefix_length_le (List.prefix_append b behind) hw
    (Nat.le_of_lt hlt)
  cases v with
  | nil => simp at hlt
  | cons d ds =>
    obtain ⟨cs, rfl⟩ := (List.prefix_append_right_inj b).1 hw
    refine h.stops d rfl (hbody.of_prefix ⟨ds, ?_⟩)
    rw [List.append_assoc]
    rfl

end BodyEnds

/-- What is left behind a body: the slash that closes it is read, a line feed is not. -/
def behindBody (behind : List Char) : List Char :=
  if behind.head? = some '/' then behind.tail else behind

theorem Lexeme.RegexSpells.exists_body {body slice following : List Char}
    (h : RegexSpells body slice following) :
    ∃ b behind, slice ++ following = b ++ behind ∧ BodyEnds b behind ∧
      body = unescapeSlashes b ∧ following = behindBody behind := by
  induction h with
  | atEnd => exact ⟨[], [], rfl, .nil (by simp), rfl, rfl⟩
  | lineEnd cs => exact ⟨[], '\n' :: cs, rfl, .nil (by simp), rfl, rfl⟩
  | closed cs => exact ⟨[], '/' :: cs, rfl, .nil (by simp), rfl, rfl⟩
  | slash _ ih =>
    obtain ⟨b, behind, heq, hends, rfl, hfollowing⟩ := ih
    refine ⟨'\\' :: '/' :: b, behind, ?_, hends.escaped, ?_, hfollowing⟩
    · exact congrArg ('\\' :: '/' :: ·) heq
    · rw [unescapeSlashes]
  | backslash hne _ ih =>
    obtain ⟨b, behind, heq, hends, rfl, hfollowing⟩ := ih
    rw [heq] at hne
    refine ⟨'\\' :: b, behind, congrArg ('\\' :: ·) heq,
      hends.cons (by decide) (by decide) fun _ => hne, ?_, hfollowing⟩
    refine (unescapeSlashes_cons fun _ hhead => hne ?_).symm
    rw [List.head?_append, hhead]
    rfl
  | @char c _ _ _ hs hn hb _ ih =>
    obtain ⟨b, behind, heq, hends, rfl, hfollowing⟩ := ih
    exact ⟨c :: b, behind, congrArg (c :: ·) heq, hends.cons hs hn fun h => absurd h hb,
      (unescapeSlashes_cons fun h => absurd h hb).symm, hfollowing⟩

/-- The body is the longest one that the text behind the slash starts with. -/
theorem Lexer.nextRegex_longestBody {κ : Type} [CharReader κ] (l : Lexer κ)
    {gap text : List Char} (blank : ∀ c ∈ gap, c = ' ' ∨ c = '\t' ∨ c = '\n')
    (skip : l.settings.skipWhitespace = false → gap = []) (hrest : l.rest = gap ++ '/' :: text) :
    ∃ b behind, text = b ++ behind ∧ LongestBody text b ∧
      l.nextRegex.1 = ⟨.regex, l.pos.afterAll gap, String.ofList (unescapeSlashes b)⟩ ∧
      l.nextRegex.2.rest = behindBody behind ∧
      l.nextRegex.2.report = l.report := by
  have hskip : Skipped l.settings gap ('/' :: text) :=
    ⟨fun c hc => isWhitespace_iff.2 (blank c hc), skip, fun _ => stops_cons rfl⟩
  have hm := moves_settle_of_skipped hskip hrest
  obtain ⟨body, slice, following, rfl, hbody⟩ := Lexeme.exists_regexSpells text
  obtain ⟨m, hm', hregex⟩ := exists_nextRegexHere_of_slash hbody (hm.rest_eq_of_append hrest)
  obtain ⟨b, behind, heq, hends, rfl, hfollowing⟩ := hbody.exists_body
  rw [nextRegex, hregex, hm.pos_eq]
  refine ⟨b, behind, heq, heq ▸ hends.longestBody, rfl, ?_, ?_⟩
  · rw [rest_record, hm'.rest_eq_of_append (hm.rest_eq_of_append hrest)]
    exact hfollowing
  · exact hm'.report_eq.trans hm.report_eq

theorem Lexer.nextRegex_longestBody_backslashes :
    let l := Lexer.ofString "\n /a\\\\/\\b\\\nc/" ⟨true, true⟩
    let gap := ['\n', ' ']
    let text := "a\\\\/\\b\\\nc/".toList
    (∀ c ∈ gap, c = ' ' ∨ c = '\t' ∨ c = '\n') ∧
      (l.settings.skipWhitespace = false → gap = []) ∧ l.rest = gap ++ '/' :: text ∧
      l.nextRegex.1 = ⟨.regex, ⟨1, 1⟩, "a\\/\\b\\"⟩ ∧
      ∃ b behind, text = b ++ behind ∧ LongestBody text b ∧
        l.nextRegex.1 = ⟨.regex, l.pos.afterAll gap, String.ofList (unescapeSlashes b)⟩ ∧
        l.nextRegex.2.rest = behindBody behind ∧
        l.nextRegex.2.report = l.report := by
  intro l gap text
  have blank : ∀ c ∈ gap, c = ' ' ∨ c = '\t' ∨ c = '\n' := by simp [gap]
  have skip : l.settings.skipWhitespace = false → gap = [] := Bool.noConfusion
  have hrest : l.rest = gap ++ '/' :: text := by decide +kernel
  exact ⟨blank, skip, hrest, by decide +kernel, l.nextRegex_longestBody blank skip hrest⟩

end QueryLexer
