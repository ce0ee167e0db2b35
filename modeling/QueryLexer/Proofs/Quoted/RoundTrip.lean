import QueryLexer.Proofs.Quoted.Grammar

namespace QueryLexer.Quoted

open CharReader

/-- The quote that a reader finds where the given one is written. -/
def normalQuote (quote : Char) : Char := if quote = '\r' then '\n' else quote

variable {quote c d e : Char}

theorem mem_escape_cases (h : d ∈ escape quote c) : d = '\\' ∨ d = 'n' ∨ d = c ∧ c ≠ '\n' := by
  simp only [escape] at h
  split at h
  · exact .inl (by simpa using h)
  · split at h
    · exact (show d = '\\' ∨ d = 'n' by simpa using h).imp_right .inl
    · next hn =>
      split at h
      · next hc =>
        have hd : d = '\\' ∨ d = quote := by simpa using h
        exact hd.imp_right fun hd => .inr ⟨hd.trans hc.symm, hn⟩
      · exact .inr (.inr ⟨List.mem_singleton.1 h, hn⟩)

theorem mem_of_mem_flatMap {text : List Char} (h : d ∈ text.flatMap (escape quote))
    (hb : d ≠ '\\') (hn : d ≠ 'n') : d ∈ text ∧ d ≠ '\n' := by
  obtain ⟨c, hmem, hc⟩ := List.mem_flatMap.1 h
  rcases mem_escape_cases hc with h | h | ⟨rfl, h⟩
  · exact absurd h hb
  · exact absurd h hn
  · exact ⟨hmem, h⟩

theorem newline_notMem_flatMap (quote : Char) (text : List Char) :
    '\n' ∉ text.flatMap (escape quote) :=
  fun h => (mem_of_mem_flatMap h (by decide) (by decide)).2 rfl

theorem return_notMem_flatMap (quote : Char) {text : List Char} (h : '\r' ∉ text) :
    '\r' ∉ text.flatMap (escape quote) :=
  fun hr => h (mem_of_mem_flatMap hr (by decide) (by decide)).1

theorem escape_return_eq (h : c ≠ '\r') : escape '\r' c = escape '\n' c := by
  simp only [escape, if_neg h]
  split
  · rfl
  · split
    · rfl
    · rfl

theorem flatMap_escape_return {text : List Char} (h : '\r' ∉ text) :
    text.flatMap (escape '\r') = text.flatMap (escape '\n') := by
  rw [List.flatMap_def, List.flatMap_def]
  congr 1
  apply List.map_congr_left
  intro c hc
  exact escape_return_eq fun hr => h (hr ▸ hc)

theorem normalize_encode {text : String} (h : '\r' ∉ text.toList) (quote : Char) :
    Newline.normalize (encode text quote).toList = (encode text (normalQuote quote)).toList := by
  -- No line feed follows the opening carriage return, so it stays a line terminator of its own.
  rw [toList_encode, toList_encode, opened, opened, normalQuote]
  by_cases hq : quote = '\r'
  · rw [if_pos hq, hq, flatMap_escape_return h]
    have hr := return_notMem_flatMap '\n' h
    have hn := newline_notMem_flatMap '\n' text.toList
    generalize text.toList.flatMap (escape '\n') = cs at hr hn
    cases cs with
    | nil => rfl
    | cons c cs =>
      have hc : c ≠ '\n' := fun hc => hn (hc ▸ List.mem_cons_self)
      change Newline.normalize ('\r' :: c :: (cs ++ ['\r'])) = _
      rw [Newline.normalize_return_cons _ hc, ← List.cons_append, Newline.normalize_append hr]
      rfl
  · rw [if_neg hq]
    apply Newline.normalize_of_notMem
    have hr := return_notMem_flatMap quote h
    simp [hr, Ne.symm hq]

theorem exists_normalize_encode (text : String) (quote : Char) :
    ∃ cs, Newline.normalize (encode text quote).toList = normalQuote quote :: cs := by
  rw [toList_encode, opened, normalQuote, List.cons_append]
  split
  · next hq =>
    rw [hq]
    exact Newline.exists_normalize_return _
  · next hq => exact ⟨_, Newline.normalize_cons_of_ne _ hq⟩

theorem fits_of_ne (hc : c ≠ quote) (hn : c ≠ '\n') (hb : c ≠ '\\') : Fits quote c :=
  ⟨fun hq => hq ▸ hc, fun _ => hb, fun _ => hn⟩

theorem fits_of_unescape? (hq : quote ≠ '\\') (h : unescape? quote e = some c) :
    Fits quote c := by
  refine ⟨fun hn hc => ?_, fun h => absurd h hq, fun h => absurd h hq⟩
  subst hn hc
  simp only [unescape?] at h
  split at h
  · cases h
  · next he =>
    split at h
    · exact he (Option.some.inj h)
    · cases h

theorem eq_of_unescape? (h : unescape? quote e = some c) : c = '\n' ∨ c = e := by
  simp only [unescape?] at h
  split at h
  · exact .inl (Option.some.inj h).symm
  · split at h
    · exact .inr (Option.some.inj h).symm
    · cases h

theorem fits_of_readBody {κ : Type} [CharReader κ] {k : κ} {content text : String}
    (hrest : '\r' ∉ rest k) (hcontent : ∀ c ∈ content.toList, Fits quote c ∧ c ≠ '\r')
    (h : (readBody quote content k).1 = .closed text) :
    ∀ c ∈ text.toList, Fits quote c ∧ c ≠ '\r' := by
  fun_induction readBody quote content k with
  | case1 content k k' hr => cases h
  | case2 content k k₁ hr =>
    cases h
    exact hcontent
  | case3 content k k₁ hr => cases h
  | case4 content k k₁ k₂ hr₁ hr => cases h
  | case5 content k k₁ e k₂ hr₁ d hd hr hq hn ih =>
    rw [rest_of_some hr, rest_of_some hr₁, List.mem_cons, List.mem_cons, not_or, not_or] at hrest
    refine ih hrest.2.2 ?_ h
    simp only [String.toList_push, List.mem_append, List.mem_singleton]
    rintro c (hc | rfl)
    · exact hcontent c hc
    · refine ⟨fits_of_unescape? (Ne.symm hq) hd, ?_⟩
      rcases eq_of_unescape? hd with rfl | rfl
      · decide
      · exact Ne.symm hrest.2.1
  | case6 content k k₁ e k₂ hr₁ hd hr => cases h
  | case7 content k c k₁ hr hq hn hb ih =>
    rw [rest_of_some hr, List.mem_cons, not_or] at hrest
    refine ih hrest.2 ?_ h
    simp only [String.toList_push, List.mem_append, List.mem_singleton]
    rintro d (hd | rfl)
    · exact hcontent d hd
    · exact ⟨fits_of_ne hq hn hb, Ne.symm hrest.1⟩

theorem fits_of_decode {text s : String} {cs : List Char}
    (h : Newline.normalize text.toList = quote :: cs) (hs : decode text = .ok s) :
    ∀ c ∈ s.toList, Fits quote c ∧ c ≠ '\r' := by
  have hrest : '\r' ∉ rest (behindQuote text) := by
    rw [rest_behindQuote h]
    intro hr
    apply Newline.return_notMem_normalize text.toList
    rw [h]
    exact List.mem_cons_of_mem quote hr
  rw [decode_eq_toExcept h] at hs
  cases hbody : (readBody quote "" (behindQuote text)).1 with
  | closed content =>
    rw [hbody] at hs
    cases hs
    exact fits_of_readBody hrest (by simp) hbody
  | unterminated content =>
    rw [hbody] at hs
    cases hs
  | badEscape c pos =>
    rw [hbody] at hs
    cases hs

theorem decode_encode_iff_fits (text : String) (quote : Char) :
    decode (encode text quote) = .ok text ↔
      ∀ c ∈ text.toList, Fits (normalQuote quote) c ∧ c ≠ '\r' := by
  constructor
  · intro h
    obtain ⟨cs, hcs⟩ := exists_normalize_encode text quote
    exact fits_of_decode hcs h
  · intro h
    have hplain : '\r' ∉ text.toList := fun hr => (h '\r' hr).2 rfl
    have hnormal := (normalize_encode hplain quote).trans (List.append_nil _).symm
    exact (decode_of_closing (fun c hc => (h c hc).1) hnormal).1

theorem normalQuote_eq_iff (hr : d ≠ '\r') (hn : d ≠ '\n') :
    normalQuote quote = d ↔ quote = d := by
  rw [normalQuote]
  split
  · next hq =>
    rw [hq]
    exact ⟨fun h => absurd h.symm hn, fun h => absurd h.symm hr⟩
  · rfl

theorem fits_normalQuote_iff :
    Fits (normalQuote quote) c ↔
      (quote = 'n' → c ≠ 'n') ∧ (quote = '\\' → c ≠ '\\' ∧ c ≠ '\n') := by
  have hn : normalQuote quote = 'n' ↔ quote = 'n' := normalQuote_eq_iff (by decide) (by decide)
  have hb : normalQuote quote = '\\' ↔ quote = '\\' := normalQuote_eq_iff (by decide) (by decide)
  constructor
  · intro h
    exact ⟨fun hq => h.ne_n (hn.2 hq), fun hq => ⟨h.ne_backslash (hb.2 hq), h.ne_newline (hb.2 hq)⟩⟩
  · intro h
    exact ⟨fun hq => h.1 (hn.1 hq), fun hq => (h.2 (hb.1 hq)).1, fun hq => (h.2 (hb.1 hq)).2⟩

theorem decode_encode_of_return {text : String} (hq : quote ∉ ['\\', 'n', '\r', '\n'])
    (h : '\r' ∈ text.toList) :
    decode (encode text quote) =
      .error (.unterminated (String.ofList (text.toList.takeWhile (· ≠ '\r')))) := by
  -- A carriage return is written as it is, and ends the literal like any line terminator.
  obtain ⟨before, after, htext, hbefore⟩ := List.eq_append_cons_of_mem h
  have hne : '\r' ≠ quote := by
    rintro rfl
    exact hq (by decide)
  have htake : text.toList.takeWhile (· ≠ '\r') = before := by
    rw [htext]
    apply takeWhile_of_stops
    · intro c hc
      exact decide_eq_true fun hr => hbefore (hr ▸ hc)
    · exact stops_cons (by decide)
  have hwritten : (encode text quote).toList = opened (String.ofList before) quote ++
      '\r' :: (after.flatMap (escape quote) ++ [quote]) := by
    rw [toList_encode, opened, opened, htext, String.toList_ofList, List.flatMap_append,
      List.flatMap_cons, escape_of_ne hne (by decide) (by decide)]
    simp
  have hopened : '\r' ∉ opened (String.ofList before) quote := by
    rw [opened, String.toList_ofList, List.mem_cons, not_or]
    exact ⟨hne, return_notMem_flatMap quote hbefore⟩
  obtain ⟨behind, hbehind⟩ :=
    Newline.exists_normalize_return (after.flatMap (escape quote) ++ [quote])
  rw [htake]
  apply decode_of_lineEnd (delimits_of_notMem hq) (.inr ⟨behind, rfl⟩)
  rw [hwritten, Newline.normalize_append hopened, hbehind]

theorem decode_encode_iff (text : String) (quote : Char) :
    (decode (encode text quote) = .ok text ↔
      '\r' ∉ text.toList ∧ (quote = 'n' → 'n' ∉ text.toList) ∧
        (quote = '\\' → '\\' ∉ text.toList ∧ '\n' ∉ text.toList)) ∧
      (quote ∉ ['\\', 'n', '\r', '\n'] → '\r' ∈ text.toList →
        decode (encode text quote) =
          .error (.unterminated (String.ofList (text.toList.takeWhile (· ≠ '\r'))))) := by
  refine ⟨?_, decode_encode_of_return⟩
  rw [decode_encode_iff_fits]
  simp only [fits_normalQuote_iff]
  constructor
  · intro h
    refine ⟨fun hr => (h _ hr).2 rfl, fun hq hn => (h _ hn).1.1 hq rfl, fun hq => ⟨?_, ?_⟩⟩
    · exact fun hb => ((h _ hb).1.2 hq).1 rfl
    · exact fun hn => ((h _ hn).1.2 hq).2 rfl
  · rintro ⟨hr, hn, hb⟩ c hc
    refine ⟨⟨?_, fun hq => ⟨?_, ?_⟩⟩, ?_⟩
    · rintro hq rfl
      exact hn hq hc
    · rintro rfl
      exact (hb hq).1 hc
    · rintro rfl
      exact (hb hq).2 hc
    · rintro rfl
      exact hr hc

theorem decode_encode_return :
    let text := "a\"b\rc"
    '"' ∉ ['\\', 'n', '\r', '\n'] ∧ '\r' ∈ text.toList ∧
      decode (encode text '"') = .error (.unterminated "a\"b") ∧
      decode (encode text '"') ≠ .ok text := by
  intro text
  have hq : '"' ∉ ['\\', 'n', '\r', '\n'] := by decide
  have hr : '\r' ∈ text.toList := by decide
  have hbefore : String.ofList (text.toList.takeWhile (· ≠ '\r')) = "a\"b" := by decide
  have hdecode := decode_encode_iff text '"'
  exact ⟨hq, hr, hbefore ▸ hdecode.2 hq hr, fun h => (hdecode.1.1 h).1 hr⟩

end QueryLexer.Quoted
