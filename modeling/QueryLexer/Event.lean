import QueryLexer.Event.Unprintable
import QueryLexer.Letter
import QueryLexer.Lexeme

namespace QueryLexer

inductive Event
  | scanned (x : Lexeme)
  | malformed (x : Lexeme)
  | notARegex (pos : Position)
  | stepBackIgnored (pending : Nat)
  deriving DecidableEq

namespace Event

def isPrintable (c : Char) : Bool :=
  !inRanges c.toNat unprintable

/-- A character inside double quotes. -/
def escape (c : Char) : List Char :=
  match c with
  | '"' => ['\\', '"']
  | '\\' => ['\\', '\\']
  | '\n' => ['\\', 'n']
  | '\r' => ['\\', 'r']
  | '\t' => ['\\', 't']
  | '\x00' => ['\\', '0']
  | _ =>
    if isPrintable c then [c] else ['\\', 'u', '\x7b'] ++ Nat.toDigits 16 c.toNat ++ ['\x7d']

def quoted (text : String) : String :=
  String.ofList ('"' :: (text.toList.flatMap escape ++ ['"']))

theorem isPrintable_digitChar : ∀ {k : Nat}, k < 16 → isPrintable k.digitChar = true := by
  decide

theorem isPrintable_of_mem_toDigits {d : Char} {n : Nat} (h : d ∈ Nat.toDigits 16 n) :
    isPrintable d = true := by
  induction n using Nat.strongRecOn with
  | ind n ih =>
    rw [Nat.toDigits_eq_if (by decide)] at h
    split at h
    case isTrue hn =>
      rw [List.mem_singleton.1 h]
      exact isPrintable_digitChar hn
    case isFalse hn =>
      rcases List.mem_append.1 h with h | h
      · exact ih (n / 16) (by omega) h
      · rw [List.mem_singleton.1 h]
        exact isPrintable_digitChar (Nat.mod_lt n (by decide))

theorem isPrintable_of_mem_escape {c d : Char} (h : d ∈ escape c) : isPrintable d = true := by
  have hall : ['"', '\\', 'n', 'r', 't', '0', 'u', '\x7b', '\x7d'].all isPrintable = true := by
    decide
  have hplain := List.all_eq_true.1 hall d
  unfold escape at h
  split at h
  case h_7 =>
    split at h
    case isTrue hc =>
      rw [List.mem_singleton.1 h]
      exact hc
    case isFalse =>
      rcases List.mem_append.1 h with h | h
      · rcases List.mem_append.1 h with h | h
        · exact hplain (by grind)
        · exact isPrintable_of_mem_toDigits h
      · exact hplain (by grind)
  all_goals exact hplain (by grind)

theorem isPrintable_of_mem_quoted {text : String} {d : Char} (h : d ∈ (quoted text).toList) :
    isPrintable d = true := by
  rw [quoted, String.toList_ofList, List.mem_cons, List.mem_append, List.mem_flatMap] at h
  rcases h with rfl | ⟨c, _, h⟩ | h
  · decide
  · exact isPrintable_of_mem_escape h
  · rw [List.mem_singleton.1 h]
    decide

example : quoted "e\u0301\u200b\x00é" = "\"e\\u\x7b301\x7d\\u\x7b200b\x7d\\0é\"" := by
  decide +kernel

def describe (x : Lexeme) : String :=
  s!"{x.token.render} {quoted x.literal} at {x.pos.render}"

def render : Event → String
  | scanned x => "TRACE scanned " ++ describe x
  | malformed x => "DEBUG malformed token " ++ describe x
  | notARegex pos =>
    s!"WARN scan_regex called at {pos.render} without a leading '/'; scanning an ordinary token"
  | stepBackIgnored pending =>
    s!"WARN unscan with {pending} token(s) already pending; ignoring"

end Event

end QueryLexer
