import QueryLexer.Proofs.Lexer.Moves
import QueryLexer.Proofs.Quoted.Grammar

namespace QueryLexer

namespace Quoted

/-- What comes before the first backslash that begins an escape without a meaning. -/
def beforeBadEscape (quote : Char) : List Char → List Char
  | '\\' :: c :: cs =>
    if (unescape? quote c).isSome then '\\' :: c :: beforeBadEscape quote cs else []
  | c :: cs => c :: beforeBadEscape quote cs
  | [] => []

def Leaves (quote : Char) (cs : List Char) : Except DecodeError String → List Char → Prop
  | .ok text, behind => cs = (encode text quote).toList ++ behind
  | .error (.unterminated text), behind =>
    LineEnd behind ∧ ∃ last ∈ [[], ['\\']], cs = opened text quote ++ last ++ behind
  | .error (.badEscape c), behind => cs = beforeBadEscape quote cs ++ '\\' :: c :: behind

variable {quote c : Char}

theorem beforeBadEscape_of_ne (h : c ≠ '\\') (cs : List Char) :
    beforeBadEscape quote (c :: cs) = c :: beforeBadEscape quote cs := by
  rw [beforeBadEscape]
  rintro d ds rfl
  exact absurd rfl h

theorem beforeBadEscape_of_none (h : unescape? quote c = none) (cs : List Char) :
    beforeBadEscape quote ('\\' :: c :: cs) = [] := by
  rw [beforeBadEscape, h]
  rfl

theorem beforeBadEscape_escape (fits : Fits quote c) (cs : List Char) :
    beforeBadEscape quote (escape quote c ++ cs) = escape quote c ++ beforeBadEscape quote cs := by
  rcases escape_cases fits with ⟨e, he, -, hu⟩ | ⟨he, -, -, hb⟩
  · rw [he, List.cons_append, List.singleton_append, beforeBadEscape, hu]
    rfl
  · rw [he, List.singleton_append, beforeBadEscape_of_ne hb]
    rfl

theorem beforeBadEscape_opened (hq : Delimits quote) (text : String) (cs : List Char) :
    beforeBadEscape quote (opened text quote ++ cs) =
      opened text quote ++ beforeBadEscape quote cs := by
  rw [opened, List.cons_append, List.cons_append, beforeBadEscape_of_ne hq.ne_backslash]
  congr 1
  induction text.toList with
  | nil => rfl
  | cons d ds ih =>
    rw [List.flatMap_cons, List.append_assoc, beforeBadEscape_escape (hq.fits d), ih,
      List.append_assoc]

end Quoted

namespace Lexeme

def ofDecoded (start bad : Position) : Except Quoted.DecodeError String → Lexeme
  | .ok text => ⟨.string, start, text⟩
  | .error (.unterminated text) => ⟨.badString, start, text⟩
  | .error (.badEscape c) => ⟨.badEscape, bad, (Quoted.DecodeError.badEscape c).text⟩

section

variable {start bad : Position} {decoded : Except Quoted.DecodeError String} {text : String}

theorem ofDecoded_eq_string_iff :
    ofDecoded start bad decoded = ⟨.string, start, text⟩ ↔ decoded = .ok text := by
  rcases decoded with e | s
  · cases e <;> simp [ofDecoded]
  · simp [ofDecoded]

theorem ofDecoded_eq_badString_iff :
    ofDecoded start bad decoded = ⟨.badString, start, text⟩ ↔
      decoded = .error (.unterminated text) := by
  rcases decoded with e | s
  · cases e <;> simp [ofDecoded]
  · simp [ofDecoded]

theorem ofDecoded_eq_badEscape_iff :
    ofDecoded start bad decoded = ⟨.badEscape, bad, text⟩ ↔
      ∃ c, decoded = .error (.badEscape c) ∧ (Quoted.DecodeError.badEscape c).text = text := by
  rcases decoded with e | s
  · cases e <;> simp [ofDecoded]
  · simp [ofDecoded]

end

theorem exists_spells_ofDecoded (start : Position) {q : Char} {cs : List Char}
    (quote : isQuote q = true) (first : cs.head? = some q) (plain : '\r' ∉ cs) :
    let decoded := Quoted.decode (String.ofList cs)
    ∃ slice behind, cs = slice ++ behind ∧ Quoted.Leaves q cs decoded behind ∧
      Spells start behind
        (ofDecoded start (start.afterAll (Quoted.beforeBadEscape q cs)) decoded) slice := by
  intro decoded
  have hq := delimits_of_isQuote quote
  have hnormal : Newline.normalize (String.ofList cs).toList = cs := by
    rw [String.toList_ofList]
    exact Newline.normalize_of_notMem plain
  obtain ⟨ds, rfl⟩ := List.head?_eq_some_iff.1 first
  obtain ⟨text, behind, hsplit, hfinal⟩ := Quoted.exists_final hq ds
  have hopened : q :: ds = Quoted.opened (String.ofList text) q ++ behind := by
    rw [hsplit, Quoted.opened, String.toList_ofList]
    rfl
  cases hfinal with
  | closing behind =>
    have hclosed : q :: ds = (Quoted.encode (String.ofList text) q).toList ++ behind := by
      rw [hopened, Quoted.toList_encode, List.append_assoc]
      rfl
    have hdecoded : decoded = .ok (String.ofList text) :=
      (Quoted.decode_of_closing (fun c _ => hq.fits c) (hnormal.trans hclosed)).1
    rw [hdecoded]
    exact ⟨_, behind, hclosed, hclosed, .string _ quote⟩
  | lineEnd hend =>
    have hdecoded : decoded = .error (.unterminated (String.ofList text)) :=
      Quoted.decode_of_lineEnd hq hend (hnormal.trans hopened)
    rw [hdecoded]
    refine ⟨_, behind, hopened, ⟨hend, [], List.mem_cons_self, ?_⟩, .badString _ quote hend⟩
    rwa [List.append_nil]
  | backslash =>
    have hdecoded : decoded = .error (.unterminated (String.ofList text)) :=
      Quoted.decode_of_backslash hq (hnormal.trans hopened)
    have hend := hopened.trans (List.append_nil _).symm
    rw [hdecoded]
    exact ⟨_, [], hend, ⟨.inl rfl, ['\\'], by simp, hend⟩, .badStringBackslash _ quote rfl⟩
  | @badEscape c behind he =>
    have hdecoded : decoded = .error (.badEscape c) :=
      Quoted.decode_of_badEscape hq he (hnormal.trans hopened)
    have hbefore : Quoted.beforeBadEscape q (q :: ds) = Quoted.opened (String.ofList text) q := by
      rw [hopened, Quoted.beforeBadEscape_opened hq, Quoted.beforeBadEscape_of_none he,
        List.append_nil]
    have hleaves : Quoted.Leaves q (q :: ds) (.error (.badEscape c)) behind := by
      rw [Quoted.Leaves, hbefore]
      exact hopened
    rw [hdecoded, hbefore]
    refine ⟨_, behind, ?_, hleaves, .badEscape _ quote he⟩
    rw [hopened, List.append_assoc]
    rfl

end Lexeme

namespace Lexer

variable {κ : Type} [CharReader κ] {l : Lexer κ} {q : Char}

theorem scan_of_quote (quote : isQuote q = true) (first : l.rest.head? = some q)
    (plain : '\r' ∉ l.rest) :
    let decoded := Quoted.decode (String.ofList l.rest)
    l.scan.1 = .ofDecoded l.pos (l.pos.afterAll (Quoted.beforeBadEscape q l.rest)) decoded ∧
      Quoted.Leaves q l.rest decoded l.scan.2.rest := by
  intro decoded
  obtain ⟨slice, behind, hrest, hleaves, hspells⟩ :=
    Lexeme.exists_spells_ofDecoded l.pos quote first plain
  obtain ⟨hx, hm⟩ := moves_scan_of_spells hspells hrest
  rw [hm.rest_eq_of_append hrest]
  exact ⟨hx, hleaves⟩

theorem return_notMem_rest_run {σ : Type} [Source σ] (source : σ) (settings : Settings)
    (before : List Call) :
    '\r' ∉ (run answer before (ofReader (Cursor.ofSource source) settings)).2.rest := by
  -- Reading gives out no carriage return, so what is left is normal text at any time.
  have hsuffix := run_suffix before (ofReader (Cursor.ofSource source) settings)
  rw [rest_ofReader] at hsuffix
  exact fun h => Newline.return_notMem_normalize _ (hsuffix.subset h)

/-- After any calls, a literal comes to what it comes to alone. -/
theorem next_of_quote {σ : Type} [Source σ] (source : σ) (reportDiagnostics : Bool)
    (before : List Call) (quote : q = '"' ∨ q = '\'')
    (first : (run answer before (ofReader (Cursor.ofSource source) ⟨false, reportDiagnostics⟩)
      ).2.rest.head? = some q) :
    let l := (run answer before (ofReader (Cursor.ofSource source) ⟨false, reportDiagnostics⟩)).2
    let decoded := Quoted.decode (String.ofList l.rest)
    (∀ text, l.next.1 = ⟨.string, l.pos, text⟩ ↔ decoded = .ok text) ∧
      (∀ text, l.next.1 = ⟨.badString, l.pos, text⟩ ↔ decoded = .error (.unterminated text)) ∧
      (∀ text,
        l.next.1 = ⟨.badEscape, l.pos.afterAll (Quoted.beforeBadEscape q l.rest), text⟩ ↔
          ∃ c, decoded = .error (.badEscape c) ∧ (Quoted.DecodeError.badEscape c).text = text) ∧
      Quoted.Leaves q l.rest decoded l.next.2.rest := by
  intro l decoded
  have skip : l.settings.skipWhitespace = false :=
    congrArg Settings.skipWhitespace (settings_run before _)
  obtain ⟨hx, hleaves⟩ := scan_of_quote (isQuote_iff.2 quote) first
    (return_notMem_rest_run source ⟨false, reportDiagnostics⟩ before)
  rw [next_of_settings skip, rest_record, hx]
  exact ⟨fun _ => Lexeme.ofDecoded_eq_string_iff, fun _ => Lexeme.ofDecoded_eq_badString_iff,
    fun _ => Lexeme.ofDecoded_eq_badEscape_iff, hleaves⟩

theorem next_of_quote_behind :
    let source := "a /b\r\n\"c\\\\\\qd".toList
    let before := [.next, .next, .nextRegex, .next]
    let l := (run answer before (ofReader (Cursor.ofSource source) ⟨false, true⟩)).2
    ('"' = '"' ∨ '"' = '\'') ∧ l.rest.head? = some '"' ∧
      l.next.1 = ⟨.badEscape, ⟨1, 4⟩, "\\q"⟩ ∧
      ∃ c, Quoted.decode (String.ofList l.rest) = .error (.badEscape c) ∧
        (Quoted.DecodeError.badEscape c).text = "\\q" := by
  intro source before l
  have first : l.rest.head? = some '"' := by decide +kernel
  have hpos : l.pos.afterAll (Quoted.beforeBadEscape '"' l.rest) = ⟨1, 4⟩ := by decide +kernel
  have hx : l.next.1 = ⟨.badEscape, ⟨1, 4⟩, "\\q"⟩ := by decide +kernel
  refine ⟨.inl rfl, first, hx, ?_⟩
  apply ((next_of_quote source true before (.inl rfl) first).2.2.1 "\\q").1
  exact hx.trans (congrArg (Lexeme.mk .badEscape · "\\q") hpos.symm)

end Lexer

end QueryLexer
