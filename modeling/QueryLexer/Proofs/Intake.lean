import QueryLexer.Intake
import QueryLexer.Proofs.Session.SameButSource

namespace QueryLexer

theorem Utf8.decode_eq_ok_iff {bytes : ByteArray} {text : String} :
    decode bytes = .ok text ↔ text.toList.utf8Encode = bytes := by
  rw [String.utf8Encode_toList, decode, String.fromUTF8?]
  by_cases hvalid : bytes.IsValidUTF8
  · rw [dif_pos hvalid]
    constructor
    · rintro ⟨⟩
      rfl
    · rintro rfl
      rfl
  · rw [dif_neg hvalid]
    constructor
    · rintro ⟨⟩
    · rintro rfl
      exact absurd text.isValidUTF8 hvalid

theorem Utf8.decode_eq_error {bytes : ByteArray}
    (h : ∀ text : String, text.toList.utf8Encode ≠ bytes) :
    decode bytes = .error (faultOf bytes) := by
  cases hdecode : String.fromUTF8? bytes with
  | none => rw [decode, hdecode]
  | some text => exact absurd (decode_eq_ok_iff.1 (by rw [decode, hdecode])) (h text)

namespace Intake

namespace Outcome

def isEnd : Outcome → Bool
  | chunk bytes => bytes.isEmpty
  | _ => false

def failure? : Outcome → Option String
  | failed message => some message
  | _ => none

def bytes : Outcome → ByteArray
  | chunk bytes => bytes
  | _ => .empty

end Outcome

def untilEnd (outcomes : List Outcome) : List Outcome := outcomes.takeWhile fun o => !o.isEnd

def firstFailure? (outcomes : List Outcome) : Option String := outcomes.findSome? Outcome.failure?

def content (outcomes : List Outcome) : ByteArray :=
  (outcomes.map Outcome.bytes).foldr (· ++ ·) .empty

theorem untilEnd_of_isEmpty {b : ByteArray} (outcomes : List Outcome) (h : b.isEmpty = true) :
    untilEnd (.chunk b :: outcomes) = [] :=
  List.takeWhile_cons_of_neg (by simpa [Outcome.isEnd] using h)

theorem untilEnd_of_not_isEmpty {b : ByteArray} (outcomes : List Outcome)
    (h : ¬ b.isEmpty = true) : untilEnd (.chunk b :: outcomes) = .chunk b :: untilEnd outcomes :=
  List.takeWhile_cons_of_pos (by simpa [Outcome.isEnd] using h)

theorem gather_eq (bytes : ByteArray) (outcomes : List Outcome) :
    gather bytes outcomes =
      match firstFailure? (untilEnd outcomes) with
      | some message => .error (.stream message)
      | none => .ok (bytes ++ content (untilEnd outcomes)) := by
  fun_induction gather bytes outcomes with
  | case1 bytes => exact congrArg Except.ok ByteArray.append_empty.symm
  | case2 bytes b outcomes h =>
    rw [untilEnd_of_isEmpty outcomes h]
    exact congrArg Except.ok ByteArray.append_empty.symm
  | case3 bytes b outcomes h ih =>
    rw [ih, untilEnd_of_not_isEmpty outcomes h, ByteArray.append_assoc]
    rfl
  | case4 bytes outcomes ih =>
    have hcontent : content (untilEnd (.interrupted :: outcomes)) = content (untilEnd outcomes) :=
      ByteArray.empty_append
    rw [ih, hcontent]
    rfl
  | case5 bytes message outcomes => rfl

theorem gather_empty (outcomes : List Outcome) (h : firstFailure? (untilEnd outcomes) = none) :
    gather .empty outcomes = .ok (content (untilEnd outcomes)) := by
  rw [gather_eq, h, ByteArray.empty_append]

theorem lexer_of_failure {outcomes : List Outcome} {message : String}
    (h : firstFailure? (untilEnd outcomes) = some message) :
    lexer outcomes = .error (.stream message) := by
  rw [lexer, text, gather_eq, h]
  rfl

theorem lexer_of_decode {outcomes : List Outcome} (h : firstFailure? (untilEnd outcomes) = none) :
    lexer outcomes = ((Utf8.decode (content (untilEnd outcomes))).mapError .encoding).map
      fun t => .ofText (.ofString t) .standard := by
  rw [lexer, text, gather_empty outcomes h]
  rfl

/-- How a text has been cut into chunks, and interruptions between them, cannot be told from what
the lexer answers, reports and enters into its journal. -/
theorem lexer_of_stream (outcomes : List Outcome) :
    let failure? := firstFailure? (untilEnd outcomes)
    let bytes := content (untilEnd outcomes)
    (∀ message, failure? = some message → lexer outcomes = .error (.stream message)) ∧
    (failure? = none → (∀ text : String, text.toList.utf8Encode ≠ bytes) →
      lexer outcomes = .error (.encoding (Utf8.faultOf bytes))) ∧
    (∀ text : String, failure? = none → text.toList.utf8Encode = bytes →
      ∃ l, lexer outcomes = .ok l ∧ ∀ requests,
        let r := run Session.answerLogged requests (.plain l)
        let r' := run Session.answerLogged requests (.plain (.ofString text .standard))
        r.1 = r'.1 ∧ r.2.lexer.report.toList = r'.2.lexer.report.toList) := by
  intro failure? bytes
  refine ⟨fun message => lexer_of_failure, ?_, ?_⟩
  · intro hnone hbytes
    rw [lexer_of_decode hnone, Utf8.decode_eq_error hbytes]
    rfl
  · intro text hnone hbytes
    have hlexer : lexer outcomes = .ok (.ofText (.ofString text) .standard) := by
      rw [lexer_of_decode hnone, Utf8.decode_eq_ok_iff.2 hbytes]
      rfl
    have hsame : Newline.normalize (Source.toList (Text.ofString text)) =
        Newline.normalize (Source.toList text.toList) :=
      congrArg Newline.normalize (Text.toList_ofString text)
    refine ⟨_, hlexer, fun requests => ?_⟩
    have hrun := run_sameAnswer
      (fun request _ _ h => Session.SameButSource.answerLogged h request) requests
      (Session.SameButSource.plain (Lexer.SameButSource.ofSource .standard hsame))
    exact ⟨hrun.eq, hrun.related.lexer.report_eq⟩

theorem lexer_of_stream_split :
    let failing := [.chunk ⟨#[0xFF]⟩, .interrupted, .failed "reset"]
    let broken := [.chunk ⟨#[0xC3]⟩, .chunk .empty, .chunk ⟨#[0xA9]⟩]
    let split := [.chunk ⟨#[0xC3]⟩, .interrupted, .chunk ⟨#[0xA9, 0x2B]⟩, .chunk .empty,
      .failed "reset"]
    (firstFailure? (untilEnd failing) = some "reset" ∧ lexer failing = .error (.stream "reset")) ∧
    (firstFailure? (untilEnd broken) = none ∧
      (∀ text : String, text.toList.utf8Encode ≠ content (untilEnd broken)) ∧
      lexer broken = .error (.encoding (Utf8.faultOf (content (untilEnd broken))))) ∧
    firstFailure? (untilEnd split) = none ∧
      "é+".toList.utf8Encode = content (untilEnd split) ∧
      ∃ l, lexer split = .ok l ∧ ∀ requests,
        let r := run Session.answerLogged requests (.plain l)
        let r' := run Session.answerLogged requests (.plain (.ofString "é+" .standard))
        r.1 = r'.1 ∧ r.2.lexer.report.toList = r'.2.lexer.report.toList := by
  intro failing broken split
  have hfailing : firstFailure? (untilEnd failing) = some "reset" := by decide +kernel
  have hbroken : firstFailure? (untilEnd broken) = none := by decide +kernel
  have hsplit : firstFailure? (untilEnd split) = none := by decide +kernel
  have hbytes : "é+".toList.utf8Encode = content (untilEnd split) := by decide +kernel
  have hinvalid : ¬ (content (untilEnd broken)).IsValidUTF8 := by decide +kernel
  have hno : ∀ text : String, text.toList.utf8Encode ≠ content (untilEnd broken) :=
    fun text htext => hinvalid ⟨text.toList, htext.symm⟩
  exact ⟨⟨hfailing, (lexer_of_stream failing).1 "reset" hfailing⟩,
    ⟨hbroken, hno, (lexer_of_stream broken).2.1 hbroken hno⟩,
    hsplit, hbytes, (lexer_of_stream split).2.2 "é+" hsplit hbytes⟩

end Intake

end QueryLexer
