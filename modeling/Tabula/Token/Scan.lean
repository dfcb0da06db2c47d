import Tabula.Text.Word
import Tabula.Token

/-!
Reading text as tokens.

`readToken` reads the token at the head of a text: the longest numeral, else the longest word, else
quoted text, else a symbol. In quoted text the quote is written twice; where the closing quote would
be missing, the last doubled quote is taken apart and closes. `scan` repeats it, skipping blanks.
-/

namespace Tabula.Token

open Text

/-- Why no token can be read at a place. -/
inductive Refusal where
  | unterminated
  | unexpected (c : Char)
  | number (fault : NumberFault)
deriving DecidableEq

/-- The content of quoted text after its opening quote, and the rest after the closing one. -/
def content? (quote : Char) : List Char → Option (List Char × List Char)
  | [] => none
  | c :: cs =>
    if c = quote then
      match cs with
      | d :: ds =>
        if d = quote then
          match content? quote ds with
          | some (inner, rest) => some (quote :: inner, rest)
          | none => some ([], d :: ds)
        else some ([], d :: ds)
      | [] => some ([], [])
    else
      match content? quote cs with
      | some (inner, rest) => some (c :: inner, rest)
      | none => none

/-- Of two symbols of which one starts the other, the longer is read. -/
def symbol? : List Char → Option (Symbol × List Char)
  | '>' :: '=' :: cs => some (.comparison .atLeast, cs)
  | '<' :: '=' :: cs => some (.comparison .atMost, cs)
  | '!' :: '=' :: cs => some (.comparison .notEqual, cs)
  | '(' :: cs => some (.opening, cs)
  | ')' :: cs => some (.closing, cs)
  | ',' :: cs => some (.comma, cs)
  | '*' :: cs => some (.star, cs)
  | '=' :: cs => some (.comparison .equal, cs)
  | '<' :: cs => some (.comparison .less, cs)
  | '>' :: cs => some (.comparison .greater, cs)
  | '.' :: cs => some (.dot, cs)
  | ';' :: cs => some (.semicolon, cs)
  | _ => none

/-- The part of a text before its rest. -/
def lexeme (cs rest : List Char) : String := String.ofList (cs.take (cs.length - rest.length))

/-- The token at the head of the text `c :: cs`, and the rest. -/
def readToken (c : Char) (cs : List Char) : Except Refusal (Token × List Char) :=
  match Numeral.scan? (c :: cs) with
  | some (n, rest) =>
    match n.value with
    | .ok value => .ok (.number (lexeme (c :: cs) rest) value, rest)
    | .error fault => .error (.number fault)
  | none =>
    if isWordStart c then
      .ok (.word (String.ofList (c :: cs.takeWhile isWordChar)), cs.dropWhile isWordChar)
    else if c = singleQuote || c = doubleQuote then
      match content? c cs with
      | some (inner, rest) => .ok (.quoted (lexeme (c :: cs) rest) (String.ofList inner), rest)
      | none => .error .unterminated
    else
      match symbol? (c :: cs) with
      | some (s, rest) => .ok (.symbol s, rest)
      | none => .error (.unexpected c)

end Token

/-- A text that cannot be read as tokens: why, and the number of characters before the place. -/
structure ScanFault where
  refusal : Token.Refusal
  position : Nat
deriving DecidableEq

namespace Token

open Text

theorem length_content?_lt {quote : Char} {cs inner rest : List Char}
    (h : content? quote cs = some (inner, rest)) : rest.length < cs.length := by
  fun_induction content? quote cs generalizing inner <;> grind

theorem length_symbol?_lt {cs rest : List Char} {s : Symbol}
    (h : symbol? cs = some (s, rest)) : rest.length < cs.length := by
  unfold symbol? at h
  split at h <;> simp only [Option.some.injEq, Prod.mk.injEq, reduceCtorEq] at h <;>
    obtain ⟨_, rfl⟩ := h <;> simp only [List.length_cons] <;> omega

theorem length_readToken_lt {c : Char} {cs rest : List Char} {t : Token}
    (h : readToken c cs = .ok (t, rest)) : rest.length < cs.length + 1 := by
  unfold readToken at h
  split at h
  · rename_i hn
    split at h
    · simp only [Except.ok.injEq, Prod.mk.injEq] at h
      obtain ⟨_, rfl⟩ := h
      exact Numeral.length_scan?_lt hn
    · simp at h
  · split at h
    · simp only [Except.ok.injEq, Prod.mk.injEq] at h
      obtain ⟨_, rfl⟩ := h
      exact Nat.lt_succ_of_le (List.dropWhile_suffix _).length_le
    · split at h
      · split at h
        · rename_i hc
          simp only [Except.ok.injEq, Prod.mk.injEq] at h
          obtain ⟨_, rfl⟩ := h
          exact Nat.lt_succ_of_lt (length_content?_lt hc)
        · simp at h
      · split at h
        · rename_i hs
          simp only [Except.ok.injEq, Prod.mk.injEq] at h
          obtain ⟨_, rfl⟩ := h
          exact length_symbol?_lt hs
        · simp at h

/-- The tokens of a text that starts after `position` characters. -/
def scanFrom (position : Nat) (cs : List Char) : Except ScanFault (List Placed) :=
  match cs with
  | [] => .ok []
  | c :: cs =>
    if isBlank c then scanFrom (position + 1) cs
    else
      match h : readToken c cs with
      | .error refusal => .error ⟨refusal, position⟩
      | .ok (t, rest) =>
        have : rest.length < cs.length + 1 := length_readToken_lt h
        (⟨t, position⟩ :: ·) <$> scanFrom (position + (cs.length + 1 - rest.length)) rest
termination_by cs.length

def scan (s : String) : Except ScanFault (List Placed) := scanFrom 0 s.toList

end Token

/-- A token at its place, or the end of the text. -/
inductive Mark where
  | token (placed : Placed)
  | finish (position : Nat)
deriving DecidableEq

/-- The tokens of a text, and its end behind them. -/
def Token.marks (s : String) : Except ScanFault (List Mark) :=
  (fun placed => placed.map .token ++ [.finish s.length]) <$> scan s

namespace ScanFault

/-- The message of a fault of the text; numbers have messages of their own. -/
def message (f : ScanFault) : String :=
  match f.refusal with
  | .unterminated => "Unterminated string literal at position " ++ toString f.position
  | .unexpected c =>
    "Unexpected character " ++ Text.quoted (String.singleton c) ++ " at position " ++
      toString f.position
  | .number fault => fault.message

end ScanFault

end Tabula
