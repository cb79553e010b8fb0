namespace Cadence

/-!
# Texts under the ASCII rules

A schedule is written in ASCII.  Blanks, letter case and digits are those of
ASCII alone: every other character is an ordinary one, so a no-break space
separates nothing and an Arabic digit is no digit.  Texts are lists of
characters; a caller converts a string once, at the edge.
-/

namespace Text

/-- Blank characters: tab, line feed, vertical tab, form feed, carriage return and space. -/
def isBlank (c : Char) : Bool :=
  c == ' ' || ('\t'.toNat ≤ c.toNat && c.toNat ≤ '\r'.toNat)

/-- The text without the blanks at either end. -/
def trim (text : List Char) : List Char :=
  (((text.dropWhile isBlank).reverse).dropWhile isBlank).reverse

/-- The maximal runs of characters that are not blank, in order. -/
def words (text : List Char) : List (List Char) :=
  (text.splitOnP isBlank).filter fun word => !word.isEmpty

/-- Letters in lower case; only the ASCII capitals change. -/
def lower (text : List Char) : List Char :=
  text.map Char.toLower

/-- Equality that ignores the case of ASCII letters. -/
def sameLetters (first second : List Char) : Bool :=
  lower first == lower second

/-- Whether `short` begins `name`, ignoring the case of ASCII letters. -/
def abbreviates (short name : List Char) : Bool :=
  (lower short).isPrefixOf (lower name)

/-- What stands before and after the first `mark`; none if there is no `mark`. -/
def cut (mark : Char) : List Char → Option (List Char × List Char)
  | [] => none
  | c :: rest =>
      if c = mark then
        some ([], rest)
      else
        (cut mark rest).map fun (before, after) => (c :: before, after)

/-- The text up to its first U+0000, where a reader that takes U+0000 for the end stops. -/
def untilNul (text : String) : String :=
  String.ofList (text.toList.takeWhile (· != Char.ofNat 0))

end Text

end Cadence
