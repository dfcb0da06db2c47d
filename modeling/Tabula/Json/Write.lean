import Tabula.Json
import Tabula.Text.Hex
import Tabula.Text.Quoted

/-!
Writing JSON.

Every item and member has a line of its own, two blanks further in than what encloses it. Text is
ASCII: other characters are escaped by the 16-bit units that encode them. Numbers out of range are
written as `Infinity` and `NaN`.
-/

namespace Tabula.Json

open Text

/-- One 16-bit unit. -/
def escapeUnit (n : Nat) : List Char := backslash :: 'u' :: hexDigits 4 n

def escapeChar (c : Char) : List Char :=
  let n := c.toNat
  if c = doubleQuote || c = backslash then [backslash, c]
  else if c = '\n' then [backslash, 'n']
  else if c = '\r' then [backslash, 'r']
  else if c = '\t' then [backslash, 't']
  else if n = 0x0C then [backslash, 'f']
  else if n = 0x08 then [backslash, 'b']
  else if 0x20 ≤ n && n ≤ 0x7E then [c]
  else if n < 0x10000 then escapeUnit n
  else
    -- two units, of ten bits each
    let m := n - 0x10000
    escapeUnit (0xD800 + m / 0x400) ++ escapeUnit (0xDC00 + m % 0x400)

def writeText (s : String) : List Char :=
  doubleQuote :: s.toList.flatMap escapeChar ++ [doubleQuote]

def writeScalar : Value → List Char
  | .null => ['n', 'u', 'l', 'l']
  | .bool true => ['t', 'r', 'u', 'e']
  | .bool false => ['f', 'a', 'l', 's', 'e']
  | .int n => decimalInt n
  | .real x => x.textWith ['I', 'n', 'f', 'i', 'n', 'i', 't', 'y'] ['N', 'a', 'N']
  | .text s => writeText s

def newline (depth : Nat) : List Char := '\n' :: List.replicate (2 * depth) ' '

/-- The lines of a document that stands `depth` levels deep. -/
def writeAt (depth : Nat) : Json → List Char
  | scalar v => writeScalar v
  | array [] => ['[', ']']
  | array (x :: xs) =>
    '[' :: newline (depth + 1) ++ writeAt (depth + 1) x ++ items xs ++ newline depth ++ [']']
  | object [] => ['\x7b', '\x7d']
  | object ((name, x) :: xs) =>
    '\x7b' :: newline (depth + 1) ++ writeText name ++ ':' :: ' ' :: writeAt (depth + 1) x ++
      members xs ++ newline depth ++ ['\x7d']
where
  items : List Json → List Char
    | [] => []
    | x :: xs => ',' :: newline (depth + 1) ++ writeAt (depth + 1) x ++ items xs
  members : List (String × Json) → List Char
    | [] => []
    | (name, x) :: xs =>
      ',' :: newline (depth + 1) ++ writeText name ++ ':' :: ' ' :: writeAt (depth + 1) x ++
        members xs

/-- Whether every whole number of a document is short enough to be written. -/
def isWritable (j : Json) : Bool :=
  j.scalars.all fun
    | .int n => Writable n
    | _ => true

def write (j : Json) : Except NumberFault String :=
  if j.isWritable then .ok (String.ofList (j.writeAt 0)) else .error .tooLongToWrite

end Tabula.Json
