/-
# `SoapBindings.Text.Blank` — white space

Two notions of white space meet in a document: the four characters that separate markup, and the
characters with the property `White_Space`, at which values are trimmed and lists are split.
-/
namespace SoapBindings.Text

/-- A character with the property `White_Space`. -/
def isBlank (c : Char) : Bool :=
  let n := c.toNat
  (9 ≤ n && n ≤ 13) || n == 32 || n == 0x85 || n == 0xA0 || n == 0x1680 ||
    (0x2000 ≤ n && n ≤ 0x200A) || n == 0x2028 || n == 0x2029 || n == 0x202F || n == 0x205F ||
    n == 0x3000

/-- The characters without the ones at the end that satisfy `p`. -/
def dropEndWhile {α : Type} (p : α → Bool) (xs : List α) : List α :=
  (xs.reverse.dropWhile p).reverse

/-- The characters without the ones at either end that satisfy `p`. -/
def stripWhile {α : Type} (p : α → Bool) (xs : List α) : List α :=
  dropEndWhile p (xs.dropWhile p)

/-- A text without white space at its ends. -/
def trim (s : String) : String := String.ofList (stripWhile isBlank s.toList)

/-- Consume characters up to the next blank, gathering them last first. -/
private def gatherWords (word : List Char) : List Char → List (List Char)
  | [] => if word.isEmpty then [] else [word.reverse]
  | c :: rest =>
    if isBlank c then
      if word.isEmpty then gatherWords [] rest else word.reverse :: gatherWords [] rest
    else gatherWords (c :: word) rest

/-- The words of a text, which white space separates. -/
def words (s : String) : List String := (gatherWords [] s.toList).map String.ofList

/-- The lines of a text.  A line feed ends a line, so the end of the text begins no other one. -/
def lines (s : String) : List String :=
  let parts := s.toList.splitOn '\n'
  (if parts.getLast? == some [] then parts.dropLast else parts).map String.ofList

end SoapBindings.Text
