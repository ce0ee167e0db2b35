import QueryLexer.Lexer
import QueryLexer.Proofs.Lexeme.Read

namespace QueryLexer.Lexer

open CharReader (Takes)

variable {κ : Type} [CharReader κ] {l : Lexer κ}

theorem rest_ofReader {σ : Type} [Source σ] (source : σ) (settings : Settings) :
    (ofReader (Cursor.ofSource source) settings).rest =
      Newline.normalize (Source.toList source) := Cursor.rest_ofSource source

theorem scan_of_spells {x : Lexeme} {slice following : List Char}
    (hx : Lexeme.Spells l.pos following x slice) (h : l.rest = slice ++ following) :
    l.scan.1 = x ∧ Takes l.reader slice l.scan.2.reader :=
  Lexeme.read_of_spells hx h

theorem exists_scan (h : l.rest ≠ []) :
    ∃ slice, Takes l.reader slice l.scan.2.reader ∧
      Lexeme.Spells l.pos l.scan.2.rest l.scan.1 slice := by
  obtain ⟨x, slice, following, hrest, hx⟩ := Lexeme.exists_spells l.pos h
  have hscan := scan_of_spells hx hrest
  refine ⟨slice, hscan.2, ?_⟩
  have hfollowing : l.scan.2.rest = following := hscan.2.rest_eq_of_append hrest
  rwa [hscan.1, hfollowing]

theorem scan_of_nil (h : l.rest = []) :
    l.scan.1 = ⟨.eof, l.pos, ""⟩ ∧ Takes l.reader [] l.scan.2.reader := by
  have hread := CharReader.read_of_rest_nil h
  have hscan : Lexeme.read l.pos l.reader =
      (⟨.eof, l.pos, ""⟩, (CharReader.read l.reader).2) := by
    rw [Lexeme.read, hread]
  refine ⟨congrArg Prod.fst hscan, ?_⟩
  change Takes l.reader [] (Lexeme.read l.pos l.reader).2
  rw [hscan]
  exact .of_none hread

theorem next_eq (l : Lexer κ) :
    l.next =
      if l.scan.1.token = .whitespace ∧ l.scan.2.settings.skipWhitespace = true then l.scan.2.next
      else (l.scan.1, l.scan.2.record l.scan.1) := by
  rw [next]
  rfl

theorem next_of_settings (h : l.settings.skipWhitespace = false) :
    l.next = (l.scan.1, l.scan.2.record l.scan.1) := by
  rw [next_eq, settings_scan, h, if_neg (fun hx => Bool.noConfusion hx.2)]

theorem exists_next (h : l.settings.skipWhitespace = false) (hrest : l.rest ≠ []) :
    ∃ slice, Takes l.reader slice l.next.2.reader ∧
      Lexeme.Spells l.pos l.next.2.rest l.next.1 slice := by
  have hreader := l.scan.2.reader_record l.scan.1
  rw [next_of_settings h, rest_record, hreader]
  exact exists_scan hrest

theorem next_of_nil (h : l.settings.skipWhitespace = false) (hrest : l.rest = []) :
    l.next.1 = ⟨.eof, l.pos, ""⟩ ∧ Takes l.reader [] l.next.2.reader := by
  have hreader := l.scan.2.reader_record l.scan.1
  rw [next_of_settings h, hreader]
  exact scan_of_nil hrest

theorem tokens_eq (l : Lexer κ) :
    l.tokens =
      if l.next.1.token = .eof then ([], l.next.2)
      else (l.next.1 :: l.next.2.tokens.1, l.next.2.tokens.2) := by
  rw [tokens]
  rfl

@[simp] theorem settings_next (l : Lexer κ) : l.next.2.settings = l.settings := by
  fun_induction next l with
  | case1 l x l' h _ ih => rw [ih, ← settings_scan l, h]
  | case2 l x l' h _ => rw [settings_record, ← settings_scan l, h]

end QueryLexer.Lexer
