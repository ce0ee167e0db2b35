import QueryLexer.Proofs.Quoted.RoundTrip

namespace QueryLexer.Quoted

open CharReader

def ending (quote : Char) (content : String) (p : Position) : List Char → Ending
  | [] => .unterminated content
  | c :: cs =>
    if c = quote then .closed content
    else if c = '\n' then .unterminated content
    else if c = '\\' then
      match cs with
      | [] => .unterminated content
      | e :: cs =>
        match unescape? quote e with
        | some d => ending quote (content.push d) ((p.after c).after e) cs
        | none => .badEscape e p
    else ending quote (content.push c) (p.after c) cs

variable {quote : Char} {content : String} {cs : List Char} {p : Position}

theorem ending_cons (quote : Char) (content : String) (p : Position) (c : Char) (cs : List Char) :
    ending quote content p (c :: cs) =
      if c = quote then .closed content
      else if c = '\n' then .unterminated content
      else if c = '\\' then
        match cs with
        | [] => .unterminated content
        | e :: cs =>
          match unescape? quote e with
          | some d => ending quote (content.push d) ((p.after c).after e) cs
          | none => .badEscape e p
      else ending quote (content.push c) (p.after c) cs := by
  rw [ending.eq_def]

theorem readBody_fst {κ : Type} [CharReader κ] (quote : Char) (content : String) (k : κ) :
    (readBody quote content k).1 = ending quote content (pos k) (rest k) := by
  fun_induction readBody quote content k with
  | case1 content k k' h => rw [rest_of_none h, ending]
  | case2 content k k₁ h => rw [rest_of_some h, ending_cons, if_pos rfl]
  | case3 content k k₁ h hq => rw [rest_of_some h, ending_cons, if_neg hq, if_pos rfl]
  | case4 content k k₁ k₂ h₁ h hq hn =>
    rw [rest_of_some h, rest_of_none h₁, ending_cons, if_neg hq, if_neg hn, if_pos rfl]
  | case5 content k k₁ e k₂ h₁ d hd h hq hn ih =>
    rw [ih, rest_of_some h, rest_of_some h₁, pos_of_some h₁, pos_of_some h, ending_cons, if_neg hq,
      if_neg hn, if_pos rfl]
    simp only [hd]
  | case6 content k k₁ e k₂ h₁ hd h hq hn =>
    rw [rest_of_some h, rest_of_some h₁, ending_cons, if_neg hq, if_neg hn, if_pos rfl]
    simp only [hd]
  | case7 content k c k₁ h hq hn hb ih =>
    rw [ih, rest_of_some h, pos_of_some h, ending_cons, if_neg hq, if_neg hn, if_neg hb]

theorem decode_eq (text : String) :
    decode text =
      match Newline.normalize text.toList with
      | [] => .error (.unterminated "")
      | quote :: cs => (ending quote "" (Position.start.after quote) cs).toExcept := by
  cases h : Newline.normalize text.toList with
  | nil =>
    have hrest : rest (Cursor.ofSource text.toList) = [] := (Cursor.rest_ofSource _).trans h
    have hread : (Cursor.ofSource text.toList).read = (none, _) := read_of_rest_nil hrest
    rw [decode, hread]
  | cons quote cs =>
    rw [decode_eq_toExcept h, readBody_fst, rest_behindQuote h, (takes_quote h).pos_eq]
    rfl

def Ending.texts : Ending → List String
  | closed content => [content]
  | unterminated content => [content]
  | badEscape c _ => [String.ofList ['\\', c]]

theorem return_notMem_push {c : Char} (hcontent : '\r' ∉ content.toList) (hc : '\r' ≠ c) :
    '\r' ∉ (content.push c).toList := by
  rw [String.toList_push, List.mem_append, List.mem_singleton, not_or]
  exact ⟨hcontent, hc⟩

theorem return_notMem_texts_ending (hcs : '\r' ∉ cs) (hcontent : '\r' ∉ content.toList) :
    ∀ text ∈ (ending quote content p cs).texts, '\r' ∉ text.toList := by
  fun_induction ending quote content p cs with
  | case1 => exact List.forall_mem_singleton.2 hcontent
  | case2 => exact List.forall_mem_singleton.2 hcontent
  | case3 => exact List.forall_mem_singleton.2 hcontent
  | case4 => exact List.forall_mem_singleton.2 hcontent
  | case5 content p e cs d hd _ _ ih =>
    rw [List.mem_cons, List.mem_cons, not_or, not_or] at hcs
    apply ih hcs.2.2
    apply return_notMem_push hcontent
    rcases eq_of_unescape? hd with rfl | rfl
    · decide
    · exact hcs.2.1
  | case6 =>
    rw [List.mem_cons, List.mem_cons, not_or, not_or] at hcs
    refine List.forall_mem_singleton.2 ?_
    rw [String.toList_ofList, List.mem_cons, List.mem_singleton, not_or]
    exact ⟨by decide, hcs.2.1⟩
  | case7 content p c cs _ _ _ ih =>
    rw [List.mem_cons, not_or] at hcs
    exact ih hcs.2 (return_notMem_push hcontent hcs.1)

def texts : Except DecodeError String → List String
  | .ok content => [content]
  | .error e => [e.text, e.message]

theorem return_notMem_texts_toExcept {e : Ending} (h : ∀ text ∈ e.texts, '\r' ∉ text.toList) :
    ∀ text ∈ texts e.toExcept, '\r' ∉ text.toList := by
  cases e with
  | closed content => exact h
  | unterminated content =>
    have hmessage : '\r' ∉ "bad string".toList := by decide
    exact List.forall_mem_cons.2
      ⟨h content List.mem_cons_self, List.forall_mem_singleton.2 hmessage⟩
  | badEscape c pos =>
    have hmessage : '\r' ∉ "bad escape".toList := by decide
    exact List.forall_mem_cons.2 ⟨h _ List.mem_cons_self, List.forall_mem_singleton.2 hmessage⟩

theorem return_notMem_texts_decode (text : String) :
    ∀ s ∈ texts (decode text), '\r' ∉ s.toList := by
  have hnormal := Newline.return_notMem_normalize text.toList
  rw [decode_eq]
  split
  · decide
  · next quote cs hcs =>
    rw [hcs, List.mem_cons, not_or] at hnormal
    exact return_notMem_texts_toExcept (return_notMem_texts_ending hnormal.2 (by decide))

end QueryLexer.Quoted
