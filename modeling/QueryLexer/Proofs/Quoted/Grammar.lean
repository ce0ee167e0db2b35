import QueryLexer.Proofs.Quoted.Body

/-!
The grammar of quoted literals. Main statement: decoding gives a result exactly where the normal
text has the form that the grammar asks for, and every text has the form for one result.
-/

namespace QueryLexer.Quoted

open CharReader (Takes)

/-- The texts that a result stands for. Behind a literal, and behind what breaks it off, there
may be anything. -/
def Grammar (quote : Char) (cs : List Char) : Except DecodeError String → Prop
  | .ok text => '\r' ∉ text.toList ∧ ∃ behind, cs = (encode text quote).toList ++ behind
  | .error (.unterminated text) =>
    '\r' ∉ text.toList ∧
      (cs = opened text quote ∨ cs = opened text quote ++ ['\\'] ∨
        ∃ behind, cs = opened text quote ++ '\n' :: behind)
  | .error (.badEscape c) =>
    c ≠ 'n' ∧ c ≠ '\\' ∧ c ≠ quote ∧
      ∃ text : String, '\r' ∉ text.toList ∧
        ∃ behind, cs = opened text quote ++ '\\' :: c :: behind

variable {quote c : Char} {cs : List Char}

theorem delimits_of_notMem (h : quote ∉ ['\\', 'n', '\r', '\n']) : Delimits quote := by
  simp only [List.mem_cons, not_or] at h
  exact ⟨h.1, h.2.1, h.2.2.2.1⟩

theorem unescape?_eq_none_iff : unescape? quote c = none ↔ c ≠ 'n' ∧ c ≠ '\\' ∧ c ≠ quote := by
  rw [unescape?]
  by_cases hn : c = 'n'
  · simp [hn]
  · by_cases hc : c = '\\' ∨ c = quote
    · simp only [if_neg hn, if_pos hc, reduceCtorEq, false_iff]
      exact fun h => hc.elim h.2.1 h.2.2
    · simp only [if_neg hn, if_neg hc, true_iff]
      exact ⟨hn, not_or.1 hc⟩

theorem mem_escape (h : c ≠ '\n') : c ∈ escape quote c := by
  simp only [escape]
  split
  · next hb => simp [hb]
  · split
    · next hc => simp [hc]
    · simp

theorem return_notMem_of_flatMap {text : List Char} (h : '\r' ∉ text.flatMap (escape quote)) :
    '\r' ∉ text := by
  intro hr
  exact h (List.mem_flatMap.2 ⟨'\r', hr, mem_escape (by decide)⟩)

def behindQuote (text : String) : Cursor (List Char) := (Cursor.ofSource text.toList).read.2

section

variable {text : String} (h : Newline.normalize text.toList = quote :: cs)

include h

theorem rest_ofSource_toList : CharReader.rest (Cursor.ofSource text.toList) = quote :: cs :=
  (Cursor.rest_ofSource text.toList).trans h

theorem takes_quote : Takes (Cursor.ofSource text.toList) [quote] (behindQuote text) :=
  .of_some (CharReader.read_of_rest_cons (rest_ofSource_toList h))

theorem rest_behindQuote : CharReader.rest (behindQuote text) = cs :=
  (takes_quote h).rest_eq_of_append (rest_ofSource_toList h)

theorem decode_eq_toExcept : decode text = (readBody quote "" (behindQuote text)).1.toExcept := by
  have hread : (Cursor.ofSource text.toList).read = (some quote, behindQuote text) :=
    CharReader.read_of_rest_cons (rest_ofSource_toList h)
  rw [decode, hread]

end

theorem decode_of_closing {text s : String} (fits : ∀ c ∈ s.toList, Fits quote c)
    (h : Newline.normalize text.toList = (encode s quote).toList ++ cs) :
    decode text = .ok s ∧
      Takes (Cursor.ofSource text.toList) (encode s quote).toList
        (readBody quote "" (behindQuote text)).2 := by
  rw [toList_encode, opened, List.append_assoc] at h
  have hbody := readBody_closing s.toList fits (rest_behindQuote h)
  rw [decode_eq_toExcept h, hbody.1, String.ofList_toList, toList_encode]
  exact ⟨rfl, (takes_quote h).trans hbody.2⟩

theorem decode_of_lineEnd {text s : String} (hq : Delimits quote) (hcs : LineEnd cs)
    (h : Newline.normalize text.toList = opened s quote ++ cs) :
    decode text = .error (.unterminated s) := by
  have hbody := readBody_lineEnd hq s.toList hcs (rest_behindQuote h)
  rw [decode_eq_toExcept h, hbody.1, String.ofList_toList]
  rfl

theorem decode_of_backslash {text s : String} (hq : Delimits quote)
    (h : Newline.normalize text.toList = opened s quote ++ ['\\']) :
    decode text = .error (.unterminated s) := by
  have hbody := readBody_backslash hq s.toList (rest_behindQuote h)
  rw [decode_eq_toExcept h, hbody.1, String.ofList_toList]
  rfl

theorem decode_of_badEscape {text s : String} (hq : Delimits quote)
    (unsupported : unescape? quote c = none)
    (h : Newline.normalize text.toList = opened s quote ++ '\\' :: c :: cs) :
    decode text = .error (.badEscape c) := by
  have hbody := readBody_badEscape hq s.toList unsupported (rest_behindQuote h)
  rw [decode_eq_toExcept h, hbody.1]
  rfl

theorem decode_of_grammar {text : String} {r : Except DecodeError String} (hq : Delimits quote)
    (h : Grammar quote (Newline.normalize text.toList) r) : decode text = r := by
  rcases r with e | s
  · cases e with
    | unterminated s =>
      rcases h with ⟨-, h | h | ⟨behind, h⟩⟩
      · exact decode_of_lineEnd hq (.inl rfl) (h.trans (List.append_nil _).symm)
      · exact decode_of_backslash hq h
      · exact decode_of_lineEnd hq (.inr ⟨behind, rfl⟩) h
    | badEscape c =>
      obtain ⟨hn, hb, hc, s, -, behind, h⟩ := h
      exact decode_of_badEscape hq (unescape?_eq_none_iff.2 ⟨hn, hb, hc⟩) h
  · obtain ⟨-, behind, h⟩ := h
    exact (decode_of_closing (fun c _ => hq.fits c) h).1

theorem exists_grammar (hq : Delimits quote) (hcs : '\r' ∉ cs) :
    ∃ r, Grammar quote (quote :: cs) r := by
  obtain ⟨text, behind, hsplit, hfinal⟩ := exists_final hq cs
  have hopened : quote :: cs = opened (String.ofList text) quote ++ behind := by
    rw [opened, String.toList_ofList, hsplit, List.cons_append]
  have hplain : '\r' ∉ (String.ofList text).toList := by
    rw [String.toList_ofList]
    apply return_notMem_of_flatMap
    exact fun hr => hcs (hsplit ▸ List.mem_append_left behind hr)
  cases hfinal with
  | closing behind =>
    refine ⟨.ok _, hplain, behind, ?_⟩
    rw [hopened, toList_encode, List.append_assoc]
    rfl
  | lineEnd hend =>
    refine ⟨.error (.unterminated _), hplain, ?_⟩
    rcases hend with rfl | ⟨behind, rfl⟩
    · exact .inl (hopened.trans (List.append_nil _))
    · exact .inr (.inr ⟨behind, hopened⟩)
  | backslash => exact ⟨.error (.unterminated _), hplain, .inr (.inl hopened)⟩
  | badEscape behind he =>
    obtain ⟨hn, hb, hc⟩ := unescape?_eq_none_iff.1 he
    exact ⟨.error (.badEscape _), hn, hb, hc, _, hplain, behind, hopened⟩

/-- Reading a literal and writing its content again gives what was read. -/
theorem decode_eq_iff_grammar (text : String) {quote : Char}
    (hq : quote ∉ ['\\', 'n', '\r', '\n']) (first : text.toList.head? = some quote) :
    let cs := Newline.normalize text.toList
    (∀ r, decode text = r ↔ Grammar quote cs r) ∧
      (∃ r, Grammar quote cs r ∧ ∀ r', Grammar quote cs r' → r' = r) ∧
      (∀ c, (DecodeError.badEscape c).text = String.ofList ['\\', c]) ∧
      ∀ s, decode text = .ok s →
        Takes (Cursor.ofSource text.toList) (encode s quote).toList
          (readBody quote "" (behindQuote text)).2 := by
  intro cs
  have hdelimits := delimits_of_notMem hq
  have hsound : ∀ r, Grammar quote cs r → decode text = r := fun r => decode_of_grammar hdelimits
  have hcomplete : ∃ r, Grammar quote cs r := by
    obtain ⟨tail, htail⟩ := List.head?_eq_some_iff.1 first
    have hne : quote ≠ '\r' := by
      rintro rfl
      exact hq (by decide)
    have hcs : cs = quote :: Newline.normalize tail := by
      change Newline.normalize text.toList = _
      rw [htail, Newline.normalize_cons_of_ne _ hne]
    rw [hcs]
    exact exists_grammar hdelimits (Newline.return_notMem_normalize tail)
  obtain ⟨r, hr⟩ := hcomplete
  have hiff : ∀ r', decode text = r' ↔ Grammar quote cs r' := by
    refine fun r' => ⟨fun h => ?_, hsound r'⟩
    rw [← h, hsound r hr]
    exact hr
  refine ⟨hiff, ⟨r, hr, fun r' hr' => (hsound r' hr').symm.trans (hsound r hr)⟩, fun _ => rfl, ?_⟩
  intro s hs
  obtain ⟨-, behind, hcs⟩ := (hiff (.ok s)).1 hs
  exact (decode_of_closing (fun c _ => hdelimits.fits c) hcs).2

theorem decode_escaped_quote :
    let text := "\"a\\\"b\" c"
    '"' ∉ ['\\', 'n', '\r', '\n'] ∧ text.toList.head? = some '"' ∧ decode text = .ok "a\"b" := by
  intro text
  have hq : '"' ∉ ['\\', 'n', '\r', '\n'] := by decide
  have first : text.toList.head? = some '"' := by decide
  have hdecode := decode_eq_iff_grammar text hq first
  exact ⟨hq, first, (hdecode.1 (.ok "a\"b")).2 ⟨by decide, [' ', 'c'], by decide⟩⟩

end QueryLexer.Quoted
