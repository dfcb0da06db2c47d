/-!
Letter case, as far as it matters to words written in ASCII.

`capitals` is the upper case of a text wherever that can be ASCII; `sameLetter` is the weaker
comparison of single letters that ignores case.
-/

namespace Tabula.Text

/-- The upper case of a character. Characters whose upper case is not ASCII stay as they are. -/
def capital (c : Char) : List Char :=
  match c.toNat with
  | 0xDF => ['S', 'S']
  | 0x131 => ['I']
  | 0x17F => ['S']
  | 0xFB00 => ['F', 'F']
  | 0xFB01 => ['F', 'I']
  | 0xFB02 => ['F', 'L']
  | 0xFB03 => ['F', 'F', 'I']
  | 0xFB04 => ['F', 'F', 'L']
  | 0xFB05 => ['S', 'T']
  | 0xFB06 => ['S', 'T']
  | _ => [c.toUpper]

def capitals (cs : List Char) : List Char := cs.flatMap capital

/-- Whether `c` is the ASCII capital `k` in some case: the dotted and the dotless i count as
an I, the long s as an S, and the Kelvin sign as a K. -/
def sameLetter (k c : Char) : Bool :=
  c.toUpper == k ||
    (k == 'I' && (c.toNat == 0x130 || c.toNat == 0x131)) ||
    (k == 'S' && c.toNat == 0x17F) || (k == 'K' && c.toNat == 0x212A)

/-- The rest of a text after a word of ASCII capitals, read in any case. -/
def dropWord? : List Char → List Char → Option (List Char)
  | [], cs => some cs
  | _ :: _, [] => none
  | k :: ks, c :: cs => if sameLetter k c then dropWord? ks cs else none

end Tabula.Text
