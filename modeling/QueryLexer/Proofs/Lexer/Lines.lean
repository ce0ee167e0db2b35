import QueryLexer.Proofs.Lexer.Content
import QueryLexer.Proofs.Newline
import QueryLexer.Proofs.Position.Counters

namespace QueryLexer

namespace Position

def onLine (k : Nat) (p : Position) : Position := ⟨.ofNat k, p.column⟩

theorem bump_ofNat {k : Nat} (h : k + 1 < UInt32.size) : bump (.ofNat k) = .ofNat (k + 1) := by
  simp only [UInt32.size] at h
  rw [← UInt32.toNat_inj, toNat_bump, UInt32.toNat_ofNat', UInt32.toNat_ofNat']
  omega

theorem line_afterAll (p : Position) {cs : List Char} (h : '\n' ∉ cs) :
    (p.afterAll cs).line = p.line := by
  have hline := p.line.toNat_lt
  rw [← UInt32.toNat_inj, toNat_line_afterAll, List.count_eq_zero.2 h]
  omega

theorem after_newline_of_line {k : Nat} (hk : k + 1 < UInt32.size) {line : List Char}
    (h : '\n' ∉ line) :
    (afterAll ⟨.ofNat k, 0⟩ line).after '\n' = ⟨.ofNat (k + 1), 0⟩ := by
  rw [after_newline, line_afterAll _ h, bump_ofNat hk]

theorem relocate_eq_onLine {p : Position} (k : Nat) (h : p.line = 0) :
    relocate ⟨.ofNat k, 0⟩ p = p.onLine k := by
  rw [relocate, if_pos h, zero_addCounter, onLine]

end Position

def Lexeme.onLine (k : Nat) (x : Lexeme) : Lexeme := { x with pos := x.pos.onLine k }

def Diagnostic.onLine (k : Nat) (d : Diagnostic) : Diagnostic := { d with pos := d.pos.onLine k }

theorem Lexeme.diagnostic?_onLine (k : Nat) (x : Lexeme) :
    (x.onLine k).diagnostic? = x.diagnostic?.map (Diagnostic.onLine k) := by
  cases x with
  | mk token pos literal => cases token <;> rfl

theorem Settings.reported_map_onLine (s : Settings) (k : Nat) (xs : List Lexeme) :
    s.reported (xs.map (Lexeme.onLine k)) = (s.reported xs).map (Diagnostic.onLine k) := by
  rw [reported, reported]
  split
  · rw [List.filterMap_map, List.map_filterMap]
    congr 1
    funext x
    exact x.diagnostic?_onLine k
  · rfl

theorem Settings.reported_flatMap {ι : Type} (s : Settings) (f : ι → List Lexeme) (is : List ι) :
    s.reported (is.flatMap f) = is.flatMap fun i => s.reported (f i) := by
  induction is with
  | nil => exact s.reported_nil
  | cons i is ih => rw [List.flatMap_cons, reported_append, ih, List.flatMap_cons]

theorem Stops.append_newline {p : Char → Bool} {following : List Char} (h : Stops p following)
    (hp : p '\n' = false) (behind : List Char) : Stops p (following ++ '\n' :: behind) := by
  cases following with
  | nil => exact stops_cons hp
  | cons c cs => exact h

theorem head?_ne_append_newline {c : Char} {following : List Char} (h : following.head? ≠ some c)
    (hc : c ≠ '\n') (behind : List Char) : (following ++ '\n' :: behind).head? ≠ some c := by
  cases following with
  | nil =>
    rintro ⟨⟩
    exact hc rfl
  | cons d cs => exact h

theorem newline_notMem_spelling (s : Symbol) : '\n' ∉ s.spelling.toList :=
  fun h => absurd (Lexeme.isWhitespace_of_mem_spelling h) (by decide)

namespace Lexeme.Spells

variable {p : Position} {following slice : List Char} {x : Lexeme}

theorem append_newline (h : x.Spells p following slice) (token : x.token ≠ .whitespace)
    (hn : '\n' ∉ following) (hb : (slice ++ following).getLast? ≠ some '\\') (behind : List Char) :
    x.Spells p (following ++ '\n' :: behind) slice := by
  -- In front of a line feed a lexeme is written as it is at the end of a text. The one that spans
  -- lines is whitespace, and a backslash would escape the line feed.
  cases h with
  | whitespace => exact absurd rfl token
  | integer nonempty all stops noDot =>
    exact .integer nonempty all (stops.append_newline rfl behind)
      (head?_ne_append_newline noDot (by decide) behind)
  | float nonempty all fraction stops =>
    exact .float nonempty all fraction (stops.append_newline rfl behind)
  | keyword first all stops spelled =>
    exact .keyword first all (stops.append_newline rfl behind) spelled
  | ident first all stops free =>
    exact .ident first all (stops.append_newline rfl behind) free
  | symbol longest =>
    refine .symbol fun t d ht => head?_ne_append_newline (longest t d ht) ?_ behind
    rintro rfl
    apply newline_notMem_spelling t
    rw [ht]
    exact List.mem_append_right _ List.mem_cons_self
  | illegal other single pair =>
    refine .illegal other single fun t d ht => head?_ne_append_newline (pair t d ht) ?_ behind
    rintro rfl
    apply newline_notMem_spelling t
    rw [ht]
    exact List.mem_cons_of_mem _ List.mem_cons_self
  | string text quote => exact .string text quote
  | badString text quote lineEnd =>
    rcases lineEnd with rfl | ⟨cs, rfl⟩
    · exact .badString text quote (.inr ⟨behind, rfl⟩)
    · exact absurd List.mem_cons_self hn
  | badStringBackslash text quote atEnd =>
    rw [atEnd, List.append_nil, List.getLast?_concat] at hb
    exact absurd rfl hb
  | badEscape text quote unsupported => exact .badEscape text quote unsupported

end Lexeme.Spells

theorem getLast?_ne_of_append {c : Char} {cs ds : List Char} (h : (cs ++ ds).getLast? ≠ some c) :
    ds.getLast? ≠ some c := by
  intro hds
  rw [List.getLast?_append, hds] at h
  exact h rfl

namespace Holds

variable {p : Position} {line : List Char} {xs : List Lexeme}

theorem line_eq (h : Holds p line xs) (hn : '\n' ∉ line) : ∀ x ∈ xs, x.pos.line = p.line := by
  induction h with
  | blank => simp
  | @lexeme p run slice following x xs all spells token behind ih =>
    rw [List.mem_append, List.mem_append, not_or, not_or] at hn
    have hslice : '\n' ∉ run ++ slice := by
      rw [List.mem_append, not_or]
      exact ⟨hn.1, hn.2.1⟩
    have hothers := ih hn.2.2
    rw [Position.line_afterAll p hslice] at hothers
    refine List.forall_mem_cons.2 ⟨?_, hothers⟩
    obtain ⟨before, behind, rfl, -, hpos⟩ := spells.exists_pos_eq
    have hbefore : '\n' ∉ run ++ before := fun h => hslice (by
      rw [← List.append_assoc]
      exact List.mem_append_left _ h)
    rw [hpos, ← Position.afterAll_append, Position.line_afterAll p hbefore]

theorem append_newline (h : Holds p line xs) (hn : '\n' ∉ line)
    (hb : line.getLast? ≠ some '\\') {behind : List Char} {ys : List Lexeme}
    (hbehind : Holds ((p.afterAll line).after '\n') behind ys) :
    Holds p (line ++ '\n' :: behind) (xs ++ ys) := by
  induction h with
  | @blank p run all =>
    have hnewline : Holds (p.afterAll run) (['\n'] ++ behind) ys :=
      append_run (List.forall_mem_singleton.2 rfl) hbehind
    exact append_run all hnewline
  | @lexeme p run slice following x xs all spells token others ih =>
    rw [List.mem_append, List.mem_append, not_or, not_or] at hn
    have hslice := getLast?_ne_of_append hb
    rw [← List.append_assoc, Position.afterAll_append] at hbehind
    rw [List.append_assoc, List.append_assoc]
    exact .lexeme all (spells.append_newline token hn.2.2 hslice behind) token
      (ih hn.2.2 (getLast?_ne_of_append hslice) hbehind)

theorem onLine (h : Holds .start line xs) (hn : '\n' ∉ line) (k : Nat) :
    Holds ⟨.ofNat k, 0⟩ line (xs.map (Lexeme.onLine k)) := by
  have hmap : xs.map (Lexeme.onLine k) = xs.map (Lexeme.relocate ⟨.ofNat k, 0⟩) := by
    apply List.map_congr_left
    intro x hx
    rw [Lexeme.onLine, Lexeme.relocate, Position.relocate_eq_onLine k (h.line_eq hn x hx)]
  have hrelocated := h.relocate ⟨.ofNat k, 0⟩
  rwa [Position.relocate_start, ← hmap] at hrelocated

theorem intercalate {content : List Char → List Lexeme} {ls : List (List Char)} {k : Nat}
    (held : ∀ line ∈ ls, Holds .start line (content line)) (plain : ∀ line ∈ ls, '\n' ∉ line)
    (bound : k + ls.length ≤ UInt32.size) (unescaped : ¬ ['\\', '\n'] <:+: ['\n'].intercalate ls) :
    Holds ⟨.ofNat k, 0⟩ (['\n'].intercalate ls)
      ((ls.zipIdx k).flatMap fun (line, k) => (content line).map (Lexeme.onLine k)) := by
  induction ls generalizing k with
  | nil => exact .blank (by simp)
  | cons line others ih =>
    rw [List.forall_mem_cons] at held plain
    have hline := held.1.onLine plain.1 k
    cases others with
    | nil => simpa using hline
    | cons next others =>
      have hsplit := Newline.intercalate_cons line (List.cons_ne_nil next others)
      have hlast : line.getLast? ≠ some '\\' := by
        intro h
        obtain ⟨cs, rfl⟩ := List.getLast?_eq_some_iff.1 h
        exact unescaped ⟨cs, ['\n'].intercalate (next :: others), by simp [hsplit]⟩
      rw [hsplit] at unescaped ⊢
      rw [List.length_cons, List.length_cons] at bound
      rw [List.zipIdx_cons, List.flatMap_cons]
      apply hline.append_newline plain.1 hlast
      rw [Position.after_newline_of_line (by omega) plain.1]
      refine ih held.2 plain.2 (by rw [List.length_cons]; omega) fun h => unescaped ?_
      exact h.trans ⟨line ++ ['\n'], [], by simp⟩

end Holds

namespace Lexer

def ofLine (settings : Settings) (line : List Char) : Lexer (Cursor (List Char)) :=
  .ofString (String.ofList line) settings

theorem holds_ofLine (settings : Settings) {line : List Char} (h : '\r' ∉ line) :
    Holds .start line ((ofLine settings line).stream.1.filter Lexeme.isContent) := by
  have hrest : (ofLine settings line).rest = line := by
    rw [ofLine, ofString, rest_ofReader, String.toList_ofList]
    exact Newline.normalize_of_notMem h
  have hholds := (ofLine settings line).holds_stream.1
  rwa [hrest] at hholds

theorem report_ofLine (settings : Settings) (line : List Char) :
    (ofLine settings line).stream.2.report.toList =
      settings.reported ((ofLine settings line).stream.1.filter Lexeme.isContent) :=
  (ofLine settings line).holds_stream.2

/-- Each line gives its lexemes, and what is reported of them, as it does alone. -/
theorem stream_lines {σ : Type} [Source σ] (source : σ) (settings : Settings)
    (few : (Newline.lines (Source.toList source)).length < UInt32.size)
    (unescaped : ¬ ['\\', '\r'] <:+: Source.toList source ∧
      ¬ ['\\', '\n'] <:+: Source.toList source) :
    let whole := (ofReader (Cursor.ofSource source) settings).stream
    let numbered := (Newline.lines (Source.toList source)).zipIdx
    whole.1.filter Lexeme.isContent =
        (numbered.flatMap fun (line, k) =>
          ((ofLine settings line).stream.1.filter Lexeme.isContent).map (Lexeme.onLine k)) ∧
      whole.2.report.toList =
        (numbered.flatMap fun (line, k) =>
          (ofLine settings line).stream.2.report.toList.map (Diagnostic.onLine k)) := by
  intro whole numbered
  let l := ofReader (Cursor.ofSource source) settings
  have hrest : l.rest = ['\n'].intercalate (Newline.lines (Source.toList source)) := by
    rw [rest_ofReader, Newline.normalize_eq_intercalate_lines]
  have hplain : ¬ ['\\', '\n'] <:+: ['\n'].intercalate (Newline.lines (Source.toList source)) := by
    rw [← Newline.normalize_eq_intercalate_lines]
    exact fun h => (Newline.infix_of_normalize h).elim unescaped.1 unescaped.2
  have hholds := Holds.intercalate (k := 0)
    (fun line hline => holds_ofLine settings (Newline.plain_of_mem_lines hline).1)
    (fun line hline => (Newline.plain_of_mem_lines hline).2) (by omega) hplain
  have hstream := filter_stream_of_holds (l := l) (hrest ▸ hholds)
  refine ⟨hstream.1, hstream.2.trans ?_⟩
  rw [Settings.reported_flatMap]
  simp only [report_ofLine, Settings.reported_map_onLine]
  rfl

theorem stream_lines_malformed :
    let text := "<\r\n= 'b\\q\rc"
    let whole := (Lexer.ofString text ⟨false, true⟩).stream
    (Newline.lines text.toList).length < UInt32.size ∧
      (¬ ['\\', '\r'] <:+: text.toList ∧ ¬ ['\\', '\n'] <:+: text.toList) ∧
      whole.1.filter Lexeme.isContent =
        [⟨.symbol .lt, ⟨0, 0⟩, ""⟩, ⟨.symbol .eq, ⟨1, 0⟩, ""⟩, ⟨.badEscape, ⟨1, 4⟩, "\\q"⟩,
          ⟨.ident, ⟨2, 0⟩, "c"⟩] ∧
      whole.2.report.toList.map Diagnostic.pos = [⟨1, 4⟩] := by
  intro text whole
  have hfew : (Newline.lines text.toList).length < UInt32.size := by decide
  have hplain : ¬ ['\\', '\r'] <:+: text.toList ∧ ¬ ['\\', '\n'] <:+: text.toList := by
    simp [text, List.infix_cons_iff]
  have hstream := stream_lines text.toList ⟨false, true⟩ hfew hplain
  refine ⟨hfew, hplain, hstream.1.trans (by decide +kernel), ?_⟩
  exact (congrArg (List.map Diagnostic.pos) hstream.2).trans (by decide +kernel)

end Lexer

end QueryLexer
