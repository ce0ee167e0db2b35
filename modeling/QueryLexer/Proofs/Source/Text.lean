import QueryLexer.Source.Text
import QueryLexer.Proofs.Run

namespace QueryLexer.Text

def answer (_ : Unit) (t : Text) : Option Char × Text :=
  match t.next? with
  | some (c, t') => (some c, t')
  | none => (none, t)

/-- The text from a byte offset on. Inside a character, and behind the end, there is none. -/
def suffixAt? (text : String) (offset : Nat) : Option String :=
  (text.pos? ⟨offset⟩).map fun p => (text.sliceFrom p).copy

example : (List.range 6).map (suffixAt? "a€") =
    [some "a€", some "€", none, none, some "", none] := by decide +kernel

def answerAt (text : String) (_ : Unit) (offset : Nat) : Option Char × Nat :=
  match (suffixAt? text offset).bind (·.toList.head?) with
  | some c => (some c, offset + c.utf8Size)
  | none => (none, offset)

structure At (text : String) (t : Text) (offset : Nat) : Prop where
  text_eq : t.text = text
  offset_eq : t.offset = offset

section

variable {t t' : Text} {c : Char} {cs : List Char}

theorem pos?_offset {text : String} (p : text.Pos) : text.pos? p.offset = some p := by
  have hvalid := String.Pos.Raw.isValidForSlice_eq_true_iff.2 p.isValid.toSlice
  rw [String.pos?, String.Slice.pos?, dif_pos hvalid]
  rfl

theorem suffixAt?_offset (t : Text) : suffixAt? t.text t.offset = some (.ofList t.toList) := by
  have hpos : t.text.pos? ⟨t.offset⟩ = some t.pos := pos?_offset t.pos
  rw [suffixAt?, hpos, toList, String.ofList_toList]
  rfl

theorem offset_of_text_eq {given : String} (h : t.text = given ++ .ofList t.toList) :
    t.offset = given.utf8ByteSize := by
  have hsplits := t.pos.splits
  have hgiven : given = (t.text.sliceTo t.pos).copy := by
    rw [toList, String.ofList_toList] at h
    exact String.append_left_inj _ |>.1 (h.symm.trans hsplits.eq_append)
  rw [offset, hsplits.offset_eq_rawEndPos, hgiven]
  rfl

theorem answer_of_nil (h : t.toList = []) : answer () t = (none, t) := by
  rw [answer]
  split
  · next hnext => rw [toList_of_some hnext] at h; cases h
  · rfl

theorem answer_of_cons (h : t.toList = c :: cs) :
    ∃ t', answer () t = (some c, t') ∧ t'.toList = cs ∧
      t'.text = t.text ∧ t'.offset = t.offset + c.utf8Size := by
  rw [answer]
  split
  · next d t' hnext =>
    obtain ⟨rfl, rfl⟩ := List.cons.inj ((toList_of_some hnext).symm.trans h)
    refine ⟨t', rfl, rfl, ?_⟩
    rw [next?] at hnext
    split at hnext
    · contradiction
    · next hend =>
      obtain ⟨rfl, rfl⟩ := Prod.mk.inj (Option.some.inj hnext)
      exact ⟨rfl, String.Pos.byteIdx_offset_next t.pos hend⟩
  · next hnext => rw [toList_of_none hnext] at h; cases h

theorem At.answer {text : String} {offset : Nat} (h : At text t offset) :
    SameStep (At text) (answer () t) (answerAt text () offset) := by
  obtain ⟨rfl, rfl⟩ := h
  rw [answerAt, suffixAt?_offset, Option.bind_some, String.toList_ofList]
  cases hleft : t.toList with
  | nil =>
    rw [answer_of_nil hleft]
    exact ⟨rfl, rfl, rfl⟩
  | cons c cs =>
    obtain ⟨t', hanswer, -, htext, hoffset⟩ := answer_of_cons hleft
    rw [hanswer]
    exact ⟨rfl, htext, hoffset⟩

theorem run_answer_eq (n : Nat) (t : Text) :
    let r := run answer (List.replicate n ()) t
    r.1 = (t.toList.take n).map some ++ List.replicate (n - t.toList.length) none ∧
      r.2.text = t.text ∧ r.2.toList = t.toList.drop n := by
  induction n generalizing t with
  | zero => exact ⟨by rw [Nat.zero_sub]; rfl, rfl, rfl⟩
  | succ n ih =>
    rw [List.replicate_succ, run]
    cases hleft : t.toList with
    | nil =>
      obtain ⟨hanswers, htext, hdrop⟩ := ih t
      rw [answer_of_nil hleft]
      refine ⟨?_, htext, ?_⟩
      · rw [hleft, List.take_nil, List.length_nil, Nat.sub_zero] at hanswers
        exact congrArg (none :: ·) hanswers
      · rw [hdrop, hleft, List.drop_nil, List.drop_nil]
    | cons c cs =>
      obtain ⟨t', hanswer, hcs, htext, -⟩ := answer_of_cons hleft
      obtain ⟨hanswers, htext', hdrop⟩ := ih t'
      rw [hanswer]
      refine ⟨?_, htext'.trans htext, ?_⟩
      · rw [hcs] at hanswers
        rw [hanswers, List.length_cons, Nat.add_sub_add_right]
        rfl
      · rw [hdrop, hcs]
        rfl

end

/-- A bare offset, moved on by the width of each character, never leaves the bounds between
characters. -/
theorem run_eq_take (text : String) (n : Nat) :
    let requests := List.replicate n ()
    let r := run answer requests (ofString text)
    let given := text.toList.take n
    r.1 = given.map some ++ List.replicate (n - text.toList.length) none ∧
      r.2.text = text ∧
      r.2.offset = (String.ofList given).utf8ByteSize ∧
      r.2.offset ≤ text.utf8ByteSize ∧
      suffixAt? text r.2.offset = some (.ofList (text.toList.drop n)) ∧
      run (answerAt text) requests 0 = (r.1, r.2.offset) := by
  intro requests r given
  obtain ⟨hanswers, htext, hdrop⟩ := run_answer_eq n (ofString text)
  rw [toList_ofString] at hanswers hdrop
  have hsplit : r.2.text = String.ofList given ++ .ofList r.2.toList := by
    rw [hdrop, ← String.ofList_append, List.take_append_drop, String.ofList_toList]
    exact htext
  have hbare := run_sameStep (fun _ _ _ h => h.answer) requests (At.mk (t := ofString text) rfl rfl)
  have hoffset := offset_of_text_eq hsplit
  have hfound := r.2.suffixAt?_offset
  rw [htext, hdrop] at hfound
  refine ⟨hanswers, htext, hoffset, ?_, hfound, ?_⟩
  · have hsize := congrArg String.utf8ByteSize hsplit
    rw [String.utf8ByteSize_append, ← hoffset, htext] at hsize
    exact hsize ▸ Nat.le_add_right _ _
  · exact Prod.ext hbare.eq.symm hbare.related.offset_eq.symm

end QueryLexer.Text
