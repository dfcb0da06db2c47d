import Tabula.Json

/-!
Documents as plain text: items in brackets, members in braces, and text inside of them quoted.
-/

namespace Tabula.Json

/-- The text of a document inside another one. -/
def literal : Json → List Char
  | scalar (.text s) => (Text.quoted s).toList
  | scalar v => v.plain.toList
  | array [] => ['[', ']']
  | array (x :: xs) => '[' :: literal x ++ items xs ++ [']']
  | object [] => ['\x7b', '\x7d']
  | object ((name, x) :: xs) =>
    '\x7b' :: (Text.quoted name).toList ++ ':' :: ' ' :: literal x ++ members xs ++ ['\x7d']
where
  items : List Json → List Char
    | [] => []
    | x :: xs => ',' :: ' ' :: literal x ++ items xs
  members : List (String × Json) → List Char
    | [] => []
    | (name, x) :: xs =>
      ',' :: ' ' :: (Text.quoted name).toList ++ ':' :: ' ' :: literal x ++ members xs

def plain : Json → String
  | scalar v => v.plain
  | j => String.ofList j.literal

end Tabula.Json
