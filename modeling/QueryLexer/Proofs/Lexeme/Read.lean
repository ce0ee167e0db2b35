import QueryLexer.Lexeme.Read
import QueryLexer.Proofs.Lexeme.Spells

namespace QueryLexer.Lexeme

open CharReader

theorem ofWord_of_keyword (start : Position) {text : String} {k : Keyword}
    (h : text.map Char.toUpper = k.spelling) : ofWord start text = ⟨.keyword k, start, ""⟩ := by
  rw [ofWord, Keyword.ofIdent?_eq_some_iff.2 h]

theorem ofWord_of_ident (start : Position) {text : String}
    (h : ∀ k : Keyword, text.map Char.toUpper ≠ k.spelling) :
    ofWord start text = ⟨.ident, start, text⟩ := by
  rw [ofWord, Keyword.ofIdent?_eq_none_iff.2 h]

section

variable {κ : Type} [CharReader κ] {k : κ} {following : List Char}

theorem readFrom_eq (c : Char) (start : Position) (k : κ) :
    readFrom c start k =
      match FirstClass.of c with
      | .whitespace => readWhitespace start (unread k)
      | .quote => readString c start k
      | .digit => readNumber start (unread k)
      | .identStart => readWord start (unread k)
      | .other => readSymbol c start k := by
  simp only [readFrom, FirstClass.of]
  split
  · rfl
  split
  · rfl
  split
  · rfl
  split
  · rfl
  · rfl

theorem read_eq_readFrom (start : Position) {c : Char} {cs : List Char} (h : rest k = c :: cs) :
    read start k = readFrom c start (CharReader.read k).2 := by
  rw [read, read_of_rest_cons h]

theorem readWhitespace_run (start : Position) {run : List Char}
    (all : ∀ c ∈ run, isWhitespace c = true)
    (stops : Stops isWhitespace following) (h : rest k = run ++ following) :
    (readWhitespace start k).1 = ⟨.whitespace, start, String.ofList run⟩ ∧
      Takes k run (readWhitespace start k).2 := by
  refine ⟨?_, .readWhile "" all stops h⟩
  simp only [readWhitespace, readWhile_fst_of_stops "" all stops h, String.empty_append]

theorem readNumber_integer (start : Position) {ds : List Char} (all : ∀ d ∈ ds, d.isDigit = true)
    (stops : Stops Char.isDigit following) (noDot : following.head? ≠ some '.')
    (h : rest k = ds ++ following) :
    (readNumber start k).1 = ⟨.integer, start, String.ofList ds⟩ ∧
      Takes k ds (readNumber start k).2 := by
  have htakes := Takes.readWhile "" all stops h
  have hdot : (rest (readWhile Char.isDigit "" k).2).head? ≠ some '.' := by
    rwa [htakes.rest_eq_of_append h]
  simp only [readNumber, matchChar_fst_of_ne hdot, readWhile_fst_of_stops "" all stops h,
    String.empty_append]
  refine ⟨rfl, ?_⟩
  simpa using htakes.trans (.matchChar_of_ne hdot)

theorem readNumber_float (start : Position) {ds fs : List Char} (all : ∀ d ∈ ds, d.isDigit = true)
    (fraction : ∀ d ∈ fs, d.isDigit = true) (stops : Stops Char.isDigit following)
    (h : rest k = ds ++ '.' :: (fs ++ following)) :
    (readNumber start k).1 = ⟨.float, start, String.ofList (ds ++ '.' :: fs)⟩ ∧
      Takes k (ds ++ '.' :: fs) (readNumber start k).2 := by
  have hstops : Stops Char.isDigit ('.' :: (fs ++ following)) := stops_cons (by decide)
  have htakes := Takes.readWhile "" all hstops h
  have hdot : (rest (readWhile Char.isDigit "" k).2).head? = some '.' := by
    rw [htakes.rest_eq_of_append h]
    rfl
  have htakes' := htakes.trans (.matchChar_of_head hdot)
  have hrest : rest (matchChar '.' (readWhile Char.isDigit "" k).2).2 = fs ++ following :=
    htakes'.rest_eq_of_append (by simpa using h)
  simp only [readNumber, matchChar_fst_of_head hdot, readWhile_fst_of_stops "" all hstops h,
    readWhile_fst_of_stops _ fraction stops hrest, String.empty_append]
  refine ⟨?_, ?_⟩
  · rw [Lexeme.mk.injEq, ← String.toList_inj]
    simp
  · simpa using htakes'.trans (.readWhile _ fraction stops hrest)

theorem readWord_run (start : Position) {c : Char} {cs : List Char}
    (all : ∀ d ∈ cs, isIdentContinue d = true)
    (stops : Stops isIdentContinue following) (h : rest k = c :: (cs ++ following)) :
    (readWord start k).1 = ofWord start (String.ofList (c :: cs)) ∧
      Takes k (c :: cs) (readWord start k).2 := by
  have hread := read_of_rest_cons h
  have htakes := Takes.of_some hread
  have hrest := htakes.rest_eq_of_append h
  have hfst : (CharReader.read k).1 = some c := by rw [hread]
  simp only [readWord, hfst, readWhile_fst_of_stops _ all stops hrest, Option.toList_some,
    ← String.ofList_append]
  exact ⟨rfl, htakes.trans (.readWhile _ all stops hrest)⟩

theorem matchSecond_none (seconds : List (Char × Symbol))
    (h : ∀ d, (rest k).head? = some d → seconds.lookup d = none) :
    (matchSecond seconds k).1 = none ∧ Takes k [] (matchSecond seconds k).2 := by
  induction seconds generalizing k with
  | nil => exact ⟨rfl, .refl k⟩
  | cons second others ih =>
    have hne : (rest k).head? ≠ some second.1 := by
      intro hd
      have hnone := h _ hd
      rw [List.lookup_cons_self] at hnone
      cases hnone
    have htakes := Takes.matchChar_of_ne hne
    have hrest : rest (matchChar second.1 k).2 = rest k := htakes.rest_eq.symm
    have hothers := ih (k := (matchChar second.1 k).2) (by
      intro d hd
      rw [hrest] at hd
      have hnone := h d hd
      rw [List.lookup_cons] at hnone
      split at hnone
      · cases hnone
      · exact hnone)
    simp only [matchSecond, matchChar_fst_of_ne hne]
    exact ⟨hothers.1, htakes.trans hothers.2⟩

theorem matchSecond_some {seconds : List (Char × Symbol)} {d : Char} {s : Symbol}
    (hd : (rest k).head? = some d) (hs : seconds.lookup d = some s) :
    (matchSecond seconds k).1 = some s ∧ Takes k [d] (matchSecond seconds k).2 := by
  induction seconds generalizing k with
  | nil => cases hs
  | cons second others ih =>
    rw [List.lookup_cons] at hs
    split at hs
    · next heq =>
      cases hs
      rw [eq_of_beq heq] at hd ⊢
      simp only [matchSecond, matchChar_fst_of_head hd]
      exact ⟨rfl, .matchChar_of_head hd⟩
    · next hne =>
      have hhead : (rest k).head? ≠ some second.1 := by
        rw [hd]
        intro h
        cases h
        rw [beq_self_eq_true] at hne
        cases hne
      have htakes := Takes.matchChar_of_ne hhead
      have hrest : rest (matchChar second.1 k).2 = rest k := htakes.rest_eq.symm
      have hothers := ih (k := (matchChar second.1 k).2) (by rwa [hrest]) hs
      simp only [matchSecond, matchChar_fst_of_ne hhead]
      exact ⟨hothers.1, htakes.trans hothers.2⟩

theorem read_whitespace {run : List Char} (nonempty : run ≠ [])
    (all : ∀ c ∈ run, isWhitespace c = true) (stops : Stops isWhitespace following)
    (h : rest k = run ++ following) :
    (read (CharReader.pos k) k).1 = ⟨.whitespace, CharReader.pos k, String.ofList run⟩ ∧
      Takes k run (read (CharReader.pos k) k).2 := by
  cases run with
  | nil => exact absurd rfl nonempty
  | cons c cs =>
    have hunread := Takes.unread (read_of_rest_cons h)
    have hrun := readWhitespace_run (CharReader.pos k) all stops (hunread.rest_eq.symm.trans h)
    rw [read_eq_readFrom _ h, readFrom_eq, FirstClass.of_isWhitespace (all c List.mem_cons_self)]
    exact ⟨hrun.1, hunread.trans hrun.2⟩

theorem read_integer {ds : List Char} (nonempty : ds ≠ []) (all : ∀ d ∈ ds, d.isDigit = true)
    (stops : Stops Char.isDigit following) (noDot : following.head? ≠ some '.')
    (h : rest k = ds ++ following) :
    (read (CharReader.pos k) k).1 = ⟨.integer, CharReader.pos k, String.ofList ds⟩ ∧
      Takes k ds (read (CharReader.pos k) k).2 := by
  cases ds with
  | nil => exact absurd rfl nonempty
  | cons c cs =>
    have hunread := Takes.unread (read_of_rest_cons h)
    have hrun := readNumber_integer (CharReader.pos k) all stops noDot
      (hunread.rest_eq.symm.trans h)
    rw [read_eq_readFrom _ h, readFrom_eq, FirstClass.of_isDigit (all c List.mem_cons_self)]
    exact ⟨hrun.1, hunread.trans hrun.2⟩

theorem read_float {ds fs : List Char} (nonempty : ds ≠ []) (all : ∀ d ∈ ds, d.isDigit = true)
    (fraction : ∀ d ∈ fs, d.isDigit = true) (stops : Stops Char.isDigit following)
    (h : rest k = ds ++ '.' :: (fs ++ following)) :
    (read (CharReader.pos k) k).1 = ⟨.float, CharReader.pos k, String.ofList (ds ++ '.' :: fs)⟩ ∧
      Takes k (ds ++ '.' :: fs) (read (CharReader.pos k) k).2 := by
  cases ds with
  | nil => exact absurd rfl nonempty
  | cons c cs =>
    have hunread := Takes.unread (read_of_rest_cons h)
    have hrun := readNumber_float (CharReader.pos k) all fraction stops
      (hunread.rest_eq.symm.trans h)
    rw [read_eq_readFrom _ h, readFrom_eq, FirstClass.of_isDigit (all c List.mem_cons_self)]
    exact ⟨hrun.1, hunread.trans hrun.2⟩

theorem read_word {c : Char} {cs : List Char} (first : isIdentStart c = true)
    (all : ∀ d ∈ cs, isIdentContinue d = true) (stops : Stops isIdentContinue following)
    (h : rest k = c :: (cs ++ following)) :
    (read (CharReader.pos k) k).1 = ofWord (CharReader.pos k) (String.ofList (c :: cs)) ∧
      Takes k (c :: cs) (read (CharReader.pos k) k).2 := by
  have hunread := Takes.unread (read_of_rest_cons h)
  have hrun := readWord_run (CharReader.pos k) all stops (hunread.rest_eq.symm.trans h)
  rw [read_eq_readFrom _ h, readFrom_eq, FirstClass.of_isIdentStart first]
  exact ⟨hrun.1, hunread.trans hrun.2⟩

theorem read_symbol {c d : Char} {s : Symbol} (other : FirstClass.of c = .other)
    (spelled : s.spelling.toList = [c, d]) (h : rest k = c :: d :: following) :
    (read (CharReader.pos k) k).1 = ⟨.symbol s, CharReader.pos k, ""⟩ ∧
      Takes k [c, d] (read (CharReader.pos k) k).2 := by
  have hread := Takes.of_some (read_of_rest_cons h)
  have hsecond := matchSecond_some (k := (CharReader.read k).2)
    (by rw [hread.rest_eq_of_append h]; rfl) (Symbol.lookup_longer_eq_some_iff.2 spelled)
  rw [read_eq_readFrom _ h, readFrom_eq, other]
  simp only [readSymbol, hsecond.1, true_and]
  exact hread.trans hsecond.2

theorem read_char {c : Char} (other : FirstClass.of c = .other)
    (pair : ∀ (s : Symbol) (d : Char), s.spelling.toList = [c, d] → following.head? ≠ some d)
    (h : rest k = c :: following) :
    (read (CharReader.pos k) k).1 = ofChar (CharReader.pos k) c ∧
      Takes k [c] (read (CharReader.pos k) k).2 := by
  have hread := Takes.of_some (read_of_rest_cons h)
  have hsecond := matchSecond_none (k := (CharReader.read k).2) (Symbol.longer c) (by
    intro d hd
    rw [hread.rest_eq_of_append h] at hd
    cases hs : (Symbol.longer c).lookup d with
    | none => rfl
    | some s => exact absurd hd (pair s d (Symbol.lookup_longer_eq_some_iff.1 hs)))
  rw [read_eq_readFrom _ h, readFrom_eq, other]
  simp only [readSymbol, hsecond.1, true_and]
  exact hread.trans hsecond.2

theorem read_quoted {q : Char} {cs : List Char} (quote : isQuote q = true)
    (h : rest k = q :: cs) :
    read (CharReader.pos k) k = readString q (CharReader.pos k) (CharReader.read k).2 := by
  rw [read_eq_readFrom _ h, readFrom_eq, FirstClass.of_isQuote quote]

theorem read_of_spells {x : Lexeme} {slice : List Char}
    (hx : Spells (CharReader.pos k) following x slice) (h : rest k = slice ++ following) :
    (read (CharReader.pos k) k).1 = x ∧ Takes k slice (read (CharReader.pos k) k).2 := by
  cases hx with
  | whitespace nonempty all stops => exact read_whitespace nonempty all stops h
  | integer nonempty all stops noDot => exact read_integer nonempty all stops noDot h
  | float nonempty all fraction stops =>
    apply read_float nonempty all fraction stops
    rw [h, List.append_assoc, List.cons_append]
  | keyword first all stops spelled =>
    rw [← ofWord_of_keyword _ spelled]
    exact read_word first all stops h
  | ident first all stops free =>
    rw [← ofWord_of_ident _ free]
    exact read_word first all stops h
  | @symbol s longest =>
    rcases s.toList_spelling_cases with ⟨c, hc⟩ | ⟨c, d, hcd⟩
    · have hread := read_char (other_of_spelling hc) (by
        intro t d ht
        apply longest t d
        rw [ht, hc]
        rfl) (by rwa [hc] at h)
      rw [ofChar, Symbol.ofChar?_eq_some_iff.2 hc] at hread
      rwa [hc]
    · rw [hcd] at h ⊢
      exact read_symbol (other_of_spelling hcd) hcd h
  | @illegal c other single pair =>
    have hread := read_char other pair h
    have hnone : Symbol.ofChar? c = none := by
      rw [Option.eq_none_iff_forall_ne_some]
      intro s hs
      exact single s (Symbol.ofChar?_eq_some_iff.1 hs)
    rwa [ofChar, hnone] at hread
  | @string q text quote =>
    rw [Quoted.toList_encode, Quoted.opened] at h ⊢
    have hread := Takes.of_some (read_of_rest_cons h)
    have hbody := Quoted.readBody_closing text.toList
      (fun c _ => (delimits_of_isQuote quote).fits c)
      (by simpa using hread.rest_eq_of_append h)
    rw [read_quoted quote h, readString, hbody.1, ofEnding, String.ofList_toList]
    exact ⟨rfl, hread.trans hbody.2⟩
  | badString text quote lineEnd =>
    have hread := Takes.of_some (read_of_rest_cons h)
    have hbody := Quoted.readBody_lineEnd (delimits_of_isQuote quote) text.toList lineEnd
      (hread.rest_eq_of_append h)
    rw [read_quoted quote h, readString, hbody.1, ofEnding, String.ofList_toList]
    exact ⟨rfl, hread.trans hbody.2⟩
  | badStringBackslash text quote atEnd =>
    rw [atEnd, List.append_nil] at h
    have hread := Takes.of_some (read_of_rest_cons h)
    have hbody := Quoted.readBody_backslash (delimits_of_isQuote quote) text.toList
      (hread.rest_eq_of_append h)
    rw [read_quoted quote h, readString, hbody.1, ofEnding, String.ofList_toList]
    exact ⟨rfl, hread.trans hbody.2⟩
  | badEscape text quote unsupported =>
    rw [List.append_assoc] at h
    have hread := Takes.of_some (read_of_rest_cons h)
    have hbody := Quoted.readBody_badEscape (delimits_of_isQuote quote) text.toList unsupported
      (hread.rest_eq_of_append h)
    rw [read_quoted quote h, readString, hbody.1, ofEnding, hread.pos_eq]
    exact ⟨rfl, hread.trans hbody.2⟩

end

end QueryLexer.Lexeme
