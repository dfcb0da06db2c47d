/-!
Text as bytes: the encoding forms of Unicode.

`decodeLeniently` reads UTF-8 and puts a replacement character in the place of what is none: of a
character that is cut off, or of a byte that starts no character. `Encoding.detect` tells the form
of a text that starts with an ASCII character or with a mark of the byte order.
-/

namespace Tabula.Text

/-- Bytes that are missing from a character: how many, the range of the next of them, and the
character's value so far. -/
structure Missing where
  more : Nat
  low : Nat
  high : Nat
  value : Nat

/-- What the first byte of a character leaves missing. The range of the second byte keeps out forms
that are too long, surrogates, and what is beyond the last character. -/
def afterFirst? (b : Nat) : Option Missing :=
  if b < 0x80 then some ⟨0, 0x80, 0xBF, b⟩
  else if b < 0xC2 then none
  else if b < 0xE0 then some ⟨1, 0x80, 0xBF, b - 0xC0⟩
  else if b < 0xF0 then
    some ⟨2, if b = 0xE0 then 0xA0 else 0x80, if b = 0xED then 0x9F else 0xBF, b - 0xE0⟩
  else if b < 0xF5 then
    some ⟨3, if b = 0xF0 then 0x90 else 0x80, if b = 0xF4 then 0x8F else 0xBF, b - 0xF0⟩
  else none

def replacement : Char := Char.ofNat 0xFFFD

/-- Reads UTF-8 after what is missing from a character, if one has been begun. -/
def decodeAfter : Option Missing → List UInt8 → List Char
  | none, [] => []
  | some _, [] => [replacement]
  | none, b :: bs => first b.toNat bs
  | some m, b :: bs =>
    if m.low ≤ b.toNat && b.toNat ≤ m.high then
      go ⟨m.more - 1, 0x80, 0xBF, m.value * 64 + (b.toNat - 0x80)⟩ bs
    else replacement :: first b.toNat bs
where
  first (b : Nat) (bs : List UInt8) : List Char :=
    match afterFirst? b with
    | none => replacement :: decodeAfter none bs
    | some m => go m bs
  go (m : Missing) (bs : List UInt8) : List Char :=
    if m.more = 0 then Char.ofNat m.value :: decodeAfter none bs else decodeAfter (some m) bs

def decodeLeniently (bytes : List UInt8) : List Char := decodeAfter none bytes

def isHigh (unit : Nat) : Bool := 0xD800 ≤ unit && unit < 0xDC00
def isLow (unit : Nat) : Bool := 0xDC00 ≤ unit && unit < 0xE000

/-- The character that a high and a low unit encode. -/
def joinUnits (high low : Nat) : Char :=
  Char.ofNat (0x10000 + (high - 0xD800) * 0x400 + (low - 0xDC00))

/-- The characters that 16-bit units encode; no unit of a pair may stand alone. -/
def joinAll? : List Nat → Option (List Char)
  | [] => some []
  | [u] => if isHigh u || isLow u then none else some [Char.ofNat u]
  | u :: v :: us =>
    if isHigh u then if isLow v then (joinUnits u v :: ·) <$> joinAll? us else none
    else if isLow u then none
    else (Char.ofNat u :: ·) <$> joinAll? (v :: us)

/-- A number by its bytes, of which the last or the first counts least. -/
def ofBytes (littleEndian : Bool) (bytes : List UInt8) : Nat :=
  (if littleEndian then bytes.reverse else bytes).foldl (fun n b => n * 256 + b.toNat) 0

def pairs? (littleEndian : Bool) : List UInt8 → Option (List Nat)
  | [] => some []
  | a :: b :: bs => (ofBytes littleEndian [a, b] :: ·) <$> pairs? littleEndian bs
  | [_] => none

def quads? (littleEndian : Bool) : List UInt8 → Option (List Nat)
  | [] => some []
  | a :: b :: c :: d :: bs =>
    (ofBytes littleEndian [a, b, c, d] :: ·) <$> quads? littleEndian bs
  | _ => none

inductive Encoding where
  | utf8
  | utf16 (littleEndian : Bool)
  | utf32 (littleEndian : Bool)
deriving DecidableEq

namespace Encoding

/-- The form that a mark of the byte order tells, and the bytes after the mark. -/
def ofMark? : List UInt8 → Option (Encoding × List UInt8)
  | 0x00 :: 0x00 :: 0xFE :: 0xFF :: rest => some (utf32 false, rest)
  | 0xFF :: 0xFE :: 0x00 :: 0x00 :: rest => some (utf32 true, rest)
  | 0xFE :: 0xFF :: rest => some (utf16 false, rest)
  | 0xFF :: 0xFE :: rest => some (utf16 true, rest)
  | 0xEF :: 0xBB :: 0xBF :: rest => some (utf8, rest)
  | _ => none

/-- The form of a text whose first character is ASCII, by the zero bytes beside that character. -/
def ofZeros : List UInt8 → Encoding
  | 0x00 :: b :: _ :: _ :: _ => if b = 0 then utf32 false else utf16 false
  | _ :: 0x00 :: c :: d :: _ => if c = 0 ∧ d = 0 then utf32 true else utf16 true
  | [0x00, _] => utf16 false
  | [_, 0x00] => utf16 true
  | _ => utf8

/-- The form of a text, and its bytes without a mark of their order. -/
def detect (bytes : List UInt8) : Encoding × List UInt8 :=
  (ofMark? bytes).getD (ofZeros bytes, bytes)

def decode? : Encoding → List UInt8 → Option String
  | utf8, bytes => String.fromUTF8? (ByteArray.mk bytes.toArray)
  | utf16 littleEndian, bytes => do
    return String.ofList (← joinAll? (← pairs? littleEndian bytes))
  | utf32 littleEndian, bytes => do
    let ns ← quads? littleEndian bytes
    if ns.all (·.isValidChar) then return String.ofList (ns.map Char.ofNat) else none

end Encoding

/-- The text that bytes are, in the form that they seem to have. -/
def decode? (bytes : List UInt8) : Option String :=
  (Encoding.detect bytes).1.decode? (Encoding.detect bytes).2

end Tabula.Text
