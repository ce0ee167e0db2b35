import QueryLexer.Proofs.Lexer.Moves
import QueryLexer.Proofs.Quoted.Grammar

namespace QueryLexer

def Lexeme.Plain (x : Lexeme) : Prop := '\r' ∉ x.literal.toList

def Diagnostic.texts (d : Diagnostic) : List String := d.message :: d.helps

def Diagnostic.Plain (d : Diagnostic) : Prop := ∀ text ∈ d.texts, '\r' ∉ text.toList

namespace Diagnostic

variable {d : Diagnostic} {message help : String}

theorem plain_error (h : '\r' ∉ message.toList) (pos : Position) : (error message pos).Plain :=
  List.forall_mem_singleton.2 h

theorem plain_warning (h : '\r' ∉ message.toList) (pos : Position) : (warning message pos).Plain :=
  List.forall_mem_singleton.2 h

theorem Plain.withCode (h : d.Plain) (c : Code) : (d.withCode c).Plain := h

theorem Plain.withHelp (h : d.Plain) (hhelp : '\r' ∉ help.toList) : (d.withHelp help).Plain := by
  rw [Plain, texts, Diagnostic.withHelp, ← List.cons_append, List.forall_mem_append,
    List.forall_mem_singleton]
  exact ⟨h, hhelp⟩

theorem plain_notARegex (pos : Position) : (notARegex pos).Plain :=
  (plain_warning (by decide) pos).withCode .notARegex

end Diagnostic

namespace Lexeme

variable {x : Lexeme} {d : Diagnostic} {p : Position} {body slice following : List Char}

theorem Plain.diagnostic? (h : x.Plain) (hd : x.diagnostic? = some d) : d.Plain := by
  have hquoted : ∀ before : String, '\r' ∉ before.toList →
      '\r' ∉ (before ++ x.literal ++ "'").toList := by
    intro before hbefore
    rw [Plain] at h
    simp [h, hbefore]
  rw [Lexeme.diagnostic?] at hd
  split at hd
  · cases hd
    have hmessage := hquoted "unexpected character '" (by decide)
    exact (Diagnostic.plain_error hmessage x.pos).withCode .unexpectedCharacter
  · cases hd
    exact (Diagnostic.plain_error (by decide) x.pos).withCode .unterminatedString
  · cases hd
    have hmessage := hquoted "invalid escape sequence '" (by decide)
    have herror := (Diagnostic.plain_error hmessage x.pos).withCode .invalidEscape
    exact herror.withHelp (by decide)
  · cases hd

theorem Spells.plain (h : x.Spells p following slice) (hr : '\r' ∉ slice) : x.Plain := by
  cases h with
  | whitespace => simpa [Plain] using hr
  | integer => simpa [Plain] using hr
  | float => simpa [Plain] using hr
  | keyword => exact List.not_mem_nil
  | ident => simpa [Plain] using hr
  | symbol => exact List.not_mem_nil
  | illegal => simpa [Plain] using hr
  | string text quote =>
    rw [Quoted.toList_encode, List.mem_append, not_or] at hr
    exact Quoted.return_notMem_of_flatMap (List.not_mem_of_not_mem_cons hr.1)
  | badString text quote =>
    exact Quoted.return_notMem_of_flatMap (List.not_mem_of_not_mem_cons hr)
  | badStringBackslash text quote =>
    rw [List.mem_append, not_or] at hr
    exact Quoted.return_notMem_of_flatMap (List.not_mem_of_not_mem_cons hr.1)
  | badEscape text quote =>
    rw [List.mem_append, not_or] at hr
    simpa [Plain] using hr.2

theorem RegexSpells.return_notMem (h : RegexSpells body slice following) (hr : '\r' ∉ slice) :
    '\r' ∉ body := by
  induction h with
  | atEnd => exact hr
  | lineEnd => exact hr
  | closed => exact List.not_mem_nil
  | slash _ ih => simp_all
  | backslash _ _ ih => simp_all
  | char _ _ _ _ ih => simp_all

end Lexeme

namespace Lexer

structure Plain {κ : Type} [CharReader κ] (l : Lexer κ) : Prop where
  rest : '\r' ∉ l.rest
  report : ∀ d ∈ l.report.toList, d.Plain

namespace Plain

variable {κ : Type} [CharReader κ] {l m : Lexer κ} {x : Lexeme} {d : Diagnostic}

theorem moves (h : l.Plain) {slice : List Char} (hm : Moves l slice m) :
    '\r' ∉ slice ∧ m.Plain := by
  have hrest : l.rest = slice ++ m.rest := hm.takes.rest_eq
  have hplain := h.rest
  rw [hrest, List.mem_append, not_or] at hplain
  exact ⟨hplain.1, hplain.2, hm.report_eq ▸ h.report⟩

theorem log (h : l.Plain) (e : Event) : (l.log e).Plain := ⟨h.rest, h.report⟩

theorem emit (h : l.Plain) (hd : d.Plain) : (l.emit d).Plain := by
  rw [Lexer.emit]
  split
  · refine ⟨h.rest, ?_⟩
    rw [Report.toList_emit, List.forall_mem_append, List.forall_mem_singleton]
    exact ⟨h.report, hd⟩
  · exact h

theorem record (h : l.Plain) (hx : x.Plain) : (l.record x).Plain := by
  rw [Lexer.record]
  cases hd : x.diagnostic? with
  | none => exact h.log (.scanned x)
  | some d => exact ((h.log (.scanned x)).log (.malformed x)).emit (hx.diagnostic? hd)

theorem scan (h : l.Plain) : l.scan.1.Plain ∧ l.scan.2.Plain := by
  cases hrest : l.rest with
  | nil =>
    have hscan := scan_of_nil hrest
    rw [hscan.1]
    exact ⟨List.not_mem_nil, (h.moves ⟨hscan.2, rfl, rfl⟩).2⟩
  | cons c cs =>
    obtain ⟨slice, htakes, hspells⟩ := exists_scan (hrest ▸ List.cons_ne_nil c cs)
    have hscan := h.moves ⟨htakes, rfl, rfl⟩
    exact ⟨hspells.plain hscan.1, hscan.2⟩

theorem next {l : Lexer κ} (h : l.Plain) : l.next.1.Plain ∧ l.next.2.Plain := by
  rw [next_eq]
  split
  · exact h.scan.2.next
  · exact ⟨h.scan.1, h.scan.2.record h.scan.1⟩
termination_by l.rest.length
decreasing_by
  next hw =>
  apply length_rest_scan_lt
  rw [hw.1]
  exact Token.noConfusion

theorem skipWhitespace (h : l.Plain) : l.skipWhitespace.Plain := by
  refine ⟨fun hr => h.rest ?_, h.report⟩
  exact (CharReader.readWhile_suffix isWhitespace "" l.reader).mem hr

theorem settle (h : l.Plain) : l.settle.Plain := by
  rw [Lexer.settle]
  split
  · exact h.skipWhitespace
  · exact h

theorem nextRegexHere (h : l.Plain) : l.nextRegexHere.1.Plain ∧ l.nextRegexHere.2.Plain := by
  by_cases hslash : l.rest.head? = some '/'
  · obtain ⟨cs, hcs⟩ := List.head?_eq_some_iff.1 hslash
    obtain ⟨body, slice, following, rfl, hbody⟩ := Lexeme.exists_regexSpells cs
    obtain ⟨m, hm, hregex⟩ := exists_nextRegexHere_of_slash hbody hcs
    have hmoved := h.moves hm
    have hx : Lexeme.Plain ⟨.regex, l.pos, String.ofList body⟩ := by
      rw [Lexeme.Plain, String.toList_ofList]
      exact hbody.return_notMem (List.not_mem_of_not_mem_cons hmoved.1)
    rw [hregex]
    exact ⟨hx, hmoved.2.record hx⟩
  · obtain ⟨m, hm, hregex⟩ := exists_nextRegexHere_of_ne hslash
    rw [hregex]
    exact (((h.moves hm).2.log _).emit (Diagnostic.plain_notARegex l.pos)).next

theorem nextRegex (h : l.Plain) : l.nextRegex.1.Plain ∧ l.nextRegex.2.Plain :=
  h.settle.nextRegexHere

end Plain

end Lexer

end QueryLexer
