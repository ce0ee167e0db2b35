import QueryLexer.Proofs.Lexer.SameButSource
import QueryLexer.Proofs.Quoted.Ending
import QueryLexer.Proofs.Session.Simulation

namespace QueryLexer

variable {σ τ : Type} [Source σ] [Source τ]

namespace Session

def Reply.texts : Reply → List String
  | lexeme x => [x.literal]
  | tokens xs => xs.filterMap fun x => x.map Lexeme.literal
  | diagnostics ds => ds.flatMap Diagnostic.texts
  | _ => []

def Reply.Plain (reply : Reply) : Prop := ∀ text ∈ reply.texts, '\r' ∉ text.toList

namespace Reply

variable {x : Lexeme} {xs : List (Option Lexeme)} {ds : List Diagnostic}

theorem plain_lexeme (h : x.Plain) : (lexeme x).Plain := List.forall_mem_singleton.2 h

theorem plain_tokens (h : ∀ x, some x ∈ xs → x.Plain) : (tokens xs).Plain := by
  intro text ht
  obtain ⟨y, hy, ht⟩ := List.mem_filterMap.1 ht
  obtain ⟨x, rfl, rfl⟩ := Option.map_eq_some_iff.1 ht
  exact h x hy

theorem plain_diagnostics (h : ∀ d ∈ ds, d.Plain) : (diagnostics ds).Plain := by
  intro text ht
  obtain ⟨d, hd, ht⟩ := List.mem_flatMap.1 ht
  exact h d hd text ht

end Reply

def Replies (answer : Option Reply) : Prop := ∀ reply, answer = some reply → reply.Plain

theorem replies_none : Replies none := by
  rintro reply ⟨⟩

theorem replies_some {reply : Reply} (h : reply.Plain) : Replies (some reply) := by
  rintro _ ⟨⟩
  exact h

theorem Shows.replies {answer : Option Reply} (h : Shows Lexeme.Plain answer) :
    Replies answer := by
  cases h with
  | refused => exact replies_none
  | done => exact replies_some (List.forall_mem_nil _)
  | lexeme x hx => exact replies_some (Reply.plain_lexeme hx)
  | tokens xs hxs => exact replies_some (Reply.plain_tokens hxs)
  | pos p => exact replies_some (List.forall_mem_nil _)

theorem replies_of_concernsReport {s : Session (Cursor σ)} (h : s.lexer.Plain) {request : Request}
    (hr : request.concernsReport = true) : Replies (answer request s).1 := by
  cases request with
  | settings => exact replies_some (List.forall_mem_nil _)
  | diagnostics => exact replies_some (Reply.plain_diagnostics h.report)
  | counts => exact replies_some (List.forall_mem_nil _)
  | take => exact replies_some (Reply.plain_diagnostics h.report)
  | clear => exact replies_some (List.forall_mem_nil _)
  | _ => cases hr

abbrev SameButSource (s : Session (Cursor σ)) (s' : Session (Cursor τ)) : Prop :=
  Related Lexeme.Plain Lexer.SameButSource s s'

namespace SameButSource

variable {s : Session (Cursor σ)} {s' : Session (Cursor τ)}

theorem plain {l : Lexer (Cursor σ)} {l' : Lexer (Cursor τ)} (h : l.SameButSource l') :
    SameButSource (plain l) (plain l') := Related.plain h

theorem answer (h : SameButSource s s') (request : Request) :
    SameAnswer Replies SameButSource (answer request s) (answer request s') := by
  cases hr : request.concernsReport with
  | false =>
    have hanswer := Related.answer Lexer.SameButSource.simulation h hr
    exact ⟨hanswer.eq, hanswer.holds.replies, hanswer.related⟩
  | true =>
    have hreplies := replies_of_concernsReport h.lexer.plain hr
    exact (Related.answer_report Lexer.SameButSource.sameReport h hr).and hreplies

theorem answerLogged (h : SameButSource s s') (request : Request) :
    SameAnswer (fun a => Replies a.1) SameButSource
      (answerLogged request s) (answerLogged request s') :=
  Related.answerLogged Lexer.SameButSource.simulation (h.answer request)

end SameButSource

/-- Sources that differ in the style of their line terminators only cannot be told apart. -/
theorem run_eq_of_normalize_eq (source : σ) (source' : τ) (settings : Settings)
    (requests : List Request)
    (same : Newline.normalize (Source.toList source) = Newline.normalize (Source.toList source')) :
    let r := run answerLogged requests (plain (.ofReader (Cursor.ofSource source) settings))
    let r' := run answerLogged requests (plain (.ofReader (Cursor.ofSource source') settings))
    let decoded := Quoted.decode (String.ofList (Source.toList source))
    let decoded' := Quoted.decode (String.ofList (Source.toList source'))
    (r.1 = r'.1 ∧ decoded = decoded') ∧
      (∀ reply events, (some reply, events) ∈ r.1 → ∀ text ∈ reply.texts, '\r' ∉ text.toList) ∧
      ∀ text ∈ Quoted.texts decoded, '\r' ∉ text.toList := by
  intro r r' decoded decoded'
  have hstart := Lexer.SameButSource.ofSource settings same
  have hrun := run_sameAnswer (fun request _ _ h => SameButSource.answerLogged h request) requests
    (SameButSource.plain hstart)
  have hdecoded : decoded = decoded' := by
    simp only [decoded, decoded', Quoted.decode_eq, String.toList_ofList, same]
  refine ⟨⟨hrun.eq, hdecoded⟩, ?_, Quoted.return_notMem_texts_decode _⟩
  exact fun reply events hmem => hrun.holds (some reply, events) hmem reply rfl

theorem run_eq_of_normalize_eq_mixed :
    let text := "a\r\n'b\rc"
    let text' := "a\n'b\nc"
    let requests := [.next, .addLookahead, .peek, .nextIgnoringWhitespace]
    Newline.normalize text.toList = Newline.normalize text'.toList ∧
      (run answerLogged requests (plain (Lexer.ofString text ⟨false, true⟩))).1.map Prod.fst =
        [some (.lexeme ⟨.ident, ⟨0, 0⟩, "a"⟩), some .done,
          some (.lexeme ⟨.whitespace, ⟨0, 1⟩, "\n"⟩),
          some (.lexeme ⟨.badString, ⟨1, 0⟩, "b"⟩)] := by
  intro text text' requests
  have same : Newline.normalize text.toList = Newline.normalize text'.toList := by decide
  have hrun := (run_eq_of_normalize_eq text.toList text'.toList ⟨false, true⟩ requests same).1.1
  exact ⟨same, (congrArg (List.map Prod.fst) hrun).trans (by decide +kernel)⟩

end Session

end QueryLexer
