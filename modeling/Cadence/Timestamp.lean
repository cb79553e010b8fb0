import Cadence.Text
import Cadence.Decimal
import Cadence.Calendar

namespace Cadence

/-!
# Time stamps

An instant is written `YYYY-MM-DDTHH:MM:SSZ`.  The reader is more liberal: it
takes a date with or without a time of day, one trailing `Z` may be missing, and
each number may have blanks and a sign in front of it.  What is read must be the
whole text, and the date and the time must exist.
-/

namespace Timestamp

/-- The written form of an instant; the year has four places, its sign counted in. -/
def writeChars (instant : Int) : List Char :=
  let civil := CivilTime.ofInstant instant
  Decimal.writePadded 4 civil.date.year ++ '-' ::
    Decimal.writePadded 2 civil.date.month ++ '-' ::
    Decimal.writePadded 2 civil.date.day ++ 'T' ::
    Decimal.writePadded 2 civil.time.hour ++ ':' ::
    Decimal.writePadded 2 civil.time.minute ++ ':' ::
    Decimal.writePadded 2 civil.time.second ++ ['Z']

/-- The written form of an instant. -/
def write (instant : Int) : String :=
  String.ofList (writeChars instant)

/-- The written form of the second in which a nanosecond falls. -/
def writeNanoseconds (nanoseconds : Int) : String :=
  write (nanoseconds / 1000000000)

/-- The date and the time of day of an instant, as a log line shows them. -/
def writeForLog (instant : Int) : String :=
  let civil := CivilTime.ofInstant instant
  String.ofList <|
    Decimal.writePadded 4 civil.date.year ++ '-' ::
      Decimal.writePadded 2 civil.date.month ++ '-' ::
      Decimal.writePadded 2 civil.date.day ++ ' ' ::
      Decimal.writePadded 2 civil.time.hour ++ ':' ::
      Decimal.writePadded 2 civil.time.minute ++ ':' ::
      Decimal.writePadded 2 civil.time.second

/-- A signed number clamped to 64 bits and then reduced to its low 32 bits. -/
def narrow (value : Int) : Int :=
  Int.bmod (max (-9223372036854775808) (min value 9223372036854775807)) 4294967296

/-- A number in front of a text: blanks, an optional sign and at least one digit. -/
def number? (text : List Char) : Option (Int × List Char) :=
  let unsigned? (digits : List Char) : Option (Int × List Char) :=
    let run := digits.takeWhile Char.isDigit
    if run.isEmpty then
      none
    else
      some (Nat.ofDigitChars 10 run 0, digits.dropWhile Char.isDigit)
  match text.dropWhile Text.isBlank with
  | '-' :: digits => (unsigned? digits).map fun (n, rest) => (narrow (-n), rest)
  | '+' :: digits => (unsigned? digits).map fun (n, rest) => (narrow n, rest)
  | digits => (unsigned? digits).map fun (n, rest) => (narrow n, rest)

/-- One character in front of a text. -/
def literal? (mark : Char) : List Char → Option (List Char)
  | [] => none
  | c :: rest => if c = mark then some rest else none

/-- Three numbers separated by `mark`, and the rest of the text. -/
def triple? (mark : Char) (text : List Char) : Option ((Int × Int × Int) × List Char) := do
  let (first, text) ← number? text
  let text ← literal? mark text
  let (second, text) ← number? text
  let text ← literal? mark text
  let (third, text) ← number? text
  return ((first, second, third), text)

/-- The civil time that the whole text writes, whether or not it exists. -/
def civil? (text : List Char) : Option CivilTime := do
  let ((year, month, day), rest) ← triple? '-' text
  match rest with
  | [] => some ⟨⟨year, month, day⟩, ⟨0, 0, 0⟩⟩
  | _ => do
      let rest ← literal? 'T' rest
      let ((hour, minute, second), rest) ← triple? ':' rest
      if rest.isEmpty then
        some ⟨⟨year, month, day⟩, ⟨hour, minute, second⟩⟩
      else
        none

/-- The text without one trailing `Z`, in either case. -/
def withoutZone (text : List Char) : List Char :=
  match text.getLast? with
  | some 'Z' => text.dropLast
  | some 'z' => text.dropLast
  | _ => text

/-- The instant that a text writes; none unless all of it is read and its civil time exists. -/
def readChars? (text : List Char) : Option Int := do
  let ⟨date, time⟩ ← civil? (withoutZone text)
  if date.Exists ∧ time.Exists then
    some (CivilTime.toInstant ⟨Date.of date.year date.month date.day, time⟩)
  else
    none

/-- The instant that a text writes. -/
def read? (text : String) : Option Int :=
  readChars? text.toList

end Timestamp

end Cadence
