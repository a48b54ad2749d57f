/-!
# Blank characters

The characters that separate words and are trimmed from the ends of a text: the Unicode property
White_Space.  Texts are lists of characters.
-/

namespace SchemaDesign.Text

/-- Whether a character separates words: tab to carriage return, the space, the next-line and
no-break characters and the wide spaces. -/
def isBlank (c : Char) : Bool :=
  let n := c.toNat
  (9 ≤ n && n ≤ 13) || n == 0x20 || n == 0x85 || n == 0xA0 || n == 0x1680 ||
    (0x2000 ≤ n && n ≤ 0x200A) || n == 0x2028 || n == 0x2029 || n == 0x202F || n == 0x205F ||
    n == 0x3000

/-- The text without the blanks at its start. -/
def trimStart (text : List Char) : List Char :=
  text.dropWhile isBlank

/-- The text without the blanks at its end. -/
def trimEnd (text : List Char) : List Char :=
  (text.reverse.dropWhile isBlank).reverse

/-- The text without the blanks at either end. -/
def trim (text : List Char) : List Char :=
  trimEnd (trimStart text)

/-- The text without the characters of a class at either end. -/
def trimMatching (drop : Char → Bool) (text : List Char) : List Char :=
  ((text.dropWhile drop).reverse.dropWhile drop).reverse

/-- The string without the blanks at either end. -/
def trimmed (s : String) : String :=
  String.ofList (trim s.toList)

/-- The pieces between the characters of a class; neighbouring separators have an empty piece
between them, and a text without separators is its only piece. -/
def split (isSeparator : Char → Bool) : List Char → List (List Char)
  | [] => [[]]
  | c :: rest =>
      if isSeparator c then
        [] :: split isSeparator rest
      else
        match split isSeparator rest with
        | [] => [[c]]
        | piece :: pieces => (c :: piece) :: pieces

/-- The words of a text: its longest runs without blanks. -/
def words (text : List Char) : List (List Char) :=
  (split isBlank text).filter fun word => !word.isEmpty

end SchemaDesign.Text
