import Tabula.Document
import Tabula.Text.Encoding
import Tabula.Text.Hex

/-!
Reading JSON.

A document is read from the head of a text, with blanks around it and around its parts. Of members
of one name the last counts, at the place of the first. Besides what the format has, the words
`NaN`, `Infinity` and `-Infinity` are numbers. An escape may stand for half of a pair of units. How
many lists and objects may lie inside each other depends on where a document is read.
-/

namespace Tabula.Json

open Text

/-- Why a text is no document. -/
inductive Fault where
  /-- nothing fits at this number of characters before the end -/
  | unexpected (left : Nat)
  | number (fault : NumberFault)
  | tooDeep
deriving DecidableEq

/-- How many lists and objects may lie inside each other where nothing else is said. -/
def deepest : Nat := 980

def Fault.message : Fault → String
  | unexpected left => "no value " ++ toString left ++ " characters before the end"
  | number fault => fault.message
  | tooDeep => "too many lists and objects inside each other"

def unexpected {α : Type} (cs : List Char) : Except Fault α := .error (.unexpected cs.length)

def skipBlanks (cs : List Char) : List Char :=
  cs.dropWhile fun c => c == ' ' || c == '\t' || c == '\n' || c == '\r'

/-- The character of an escape of one letter. -/
def unescape? : Char → Option Char
  | '\x22' => some '\x22'
  | '\x5c' => some '\x5c'
  | '/' => some '/'
  | 'b' => some '\x08'
  | 'f' => some '\x0c'
  | 'n' => some '\n'
  | 'r' => some '\r'
  | 't' => some '\t'
  | _ => none

/-- A 16-bit unit by its four digits. -/
def unit? (a b c d : Char) : Option Nat := do
  return ((((← hexValue? a) * 16 + (← hexValue? b)) * 16 + (← hexValue? c)) * 16 + (← hexValue? d))

/-- The code point of a unit by itself. -/
def codePoint (unit : Nat) : CodePoint :=
  if isHigh unit || isLow unit then .half unit else .char (Char.ofNat unit)

/-- A unit before text. A high one and a low one after it are one character. -/
def addUnit (unit : Nat) : Wide → Wide
  | .half low :: s =>
    if isHigh unit && isLow low then .char (joinUnits unit low) :: s
    else codePoint unit :: .half low :: s
  | s => codePoint unit :: s

/-- Text up to the closing quote, and what comes after it. Controls are refused. -/
def readText : List Char → Except Fault (Wide × List Char)
  | [] => unexpected []
  | '\x22' :: rest => .ok ([], rest)
  | '\x5c' :: 'u' :: a :: b :: c :: d :: rest =>
    match unit? a b c d with
    | none => unexpected rest
    | some unit => (readText rest).map fun (s, rest) => (addUnit unit s, rest)
  | '\x5c' :: e :: rest =>
    match unescape? e with
    | none => unexpected rest
    | some c => (readText rest).map fun (s, rest) => (.char c :: s, rest)
  | c :: rest =>
    if c = '\x5c' || c.toNat < 0x20 then unexpected rest
    else (readText rest).map fun (s, rest) => (.char c :: s, rest)

/-- The ASCII digits at the head of a text. -/
def readDigits (cs : List Char) : List Nat × List Char :=
  ((cs.takeWhile Char.isDigit).map fun c => c.toNat - '0'.toNat, cs.dropWhile Char.isDigit)

/-- The digits before the point: none may follow a zero. -/
def readWhole : List Char → List Nat × List Char
  | '0' :: cs => ([0], cs)
  | cs => readDigits cs

/-- A point counts only if a digit follows. -/
def readFraction (cs : List Char) : Option (List Nat) × List Char :=
  match cs with
  | '.' :: rest =>
    match readDigits rest with
    | ([], _) => (none, cs)
    | (ds, rest) => (some ds, rest)
  | _ => (none, cs)

def readExponent (cs : List Char) : Option Int × List Char :=
  match cs with
  | e :: rest =>
    if e == 'e' || e == 'E' then
      match readDigits (Numeral.sign rest).2 with
      | ([], _) => (none, cs)
      | (ds, after) =>
        (some (if (Numeral.sign rest).1 then -(ofDigits ds : Int) else ofDigits ds), after)
    else (none, cs)
  | [] => (none, cs)

def readNumber (cs : List Char) : Except Fault (Value × List Char) :=
  let (negative, unsigned) : Bool × List Char :=
    match cs with
    | '-' :: rest => (true, rest)
    | _ => (false, cs)
  match readWhole unsigned with
  | ([], _) => unexpected cs
  | (whole, rest) =>
    let (fraction, rest) := readFraction rest
    let (exponent, rest) := readExponent rest
    match (Numeral.mk negative whole fraction exponent).value with
    | .ok n => .ok (.ofNumber n, rest)
    | .error fault => .error (.number fault)

/-- A scalar that is no text. -/
def readScalar : List Char → Except Fault (Value × List Char)
  | 'n' :: 'u' :: 'l' :: 'l' :: rest => .ok (.null, rest)
  | 't' :: 'r' :: 'u' :: 'e' :: rest => .ok (.bool true, rest)
  | 'f' :: 'a' :: 'l' :: 's' :: 'e' :: rest => .ok (.bool false, rest)
  | 'N' :: 'a' :: 'N' :: rest => .ok (.real (.nan 0), rest)
  | 'I' :: 'n' :: 'f' :: 'i' :: 'n' :: 'i' :: 't' :: 'y' :: rest =>
    .ok (.real (.infinite false), rest)
  | '-' :: 'I' :: 'n' :: 'f' :: 'i' :: 'n' :: 'i' :: 't' :: 'y' :: rest =>
    .ok (.real (.infinite true), rest)
  | cs => readNumber cs

mutual

/-- Reads a document of at most the given depth, the second number, and what comes after it; the
first number bounds the steps. -/
def readValue : Nat → Nat → List Char → Except Fault (Document × List Char)
  | 0, _, cs => unexpected cs
  | fuel + 1, depth, cs =>
    match cs with
    | '\x22' :: rest => do
      let (s, rest) ← readText rest
      return (.text s, rest)
    | '[' :: rest =>
      if depth = 0 then .error .tooDeep
      else
        match skipBlanks rest with
        | ']' :: rest => .ok (.array [], rest)
        | rest => do
          let (items, rest) ← readItems fuel (depth - 1) rest
          return (.array items, rest)
    | '\x7b' :: rest =>
      if depth = 0 then .error .tooDeep
      else
        match skipBlanks rest with
        | '\x7d' :: rest => .ok (.object [], rest)
        | rest => do
          let (members, rest) ← readMembers fuel (depth - 1) rest
          return (.object (Keyed.ofList members), rest)
    | _ => do
      let (v, rest) ← readScalar cs
      return (.atom (.ofValue v), rest)

/-- The items from the first to the closing bracket. -/
def readItems : Nat → Nat → List Char → Except Fault (List Document × List Char)
  | 0, _, cs => unexpected cs
  | fuel + 1, depth, cs => do
    let (x, rest) ← readValue fuel depth cs
    match skipBlanks rest with
    | ',' :: rest =>
      let (xs, rest) ← readItems fuel depth (skipBlanks rest)
      return (x :: xs, rest)
    | ']' :: rest => return ([x], rest)
    | rest => unexpected rest

/-- The members from the first to the closing brace. -/
def readMembers : Nat → Nat → List Char → Except Fault (List (Wide × Document) × List Char)
  | 0, _, cs => unexpected cs
  | fuel + 1, depth, cs => do
    match cs with
    | '\x22' :: rest =>
      let (name, rest) ← readText rest
      match skipBlanks rest with
      | ':' :: rest =>
        let (x, rest) ← readValue fuel depth (skipBlanks rest)
        match skipBlanks rest with
        | ',' :: rest =>
          let (xs, rest) ← readMembers fuel depth (skipBlanks rest)
          return ((name, x) :: xs, rest)
        | '\x7d' :: rest => return ([(name, x)], rest)
        | rest => unexpected rest
      | rest => unexpected rest
    | rest => unexpected rest

end

/-- The document that a whole text is, if it is not deeper than this. -/
def readDocument (limit : Nat) (s : String) : Except Fault Document := do
  let cs := s.toList
  let (d, rest) ← readValue (2 * cs.length + 1) limit (skipBlanks cs)
  match skipBlanks rest with
  | [] => return d
  | rest => unexpected rest

end Tabula.Json
