namespace Cadence

/-!
# Decimal numbers

Reading and writing of decimal integers.  The range of a number that is read is
that of 32-bit two's complement; a number that does not fit is refused rather
than clamped.  A sign counts in the width of a padded number.
-/

namespace Decimal

/-- The least 32-bit integer. -/
def lowest : Int := -2147483648

/-- The greatest 32-bit integer. -/
def highest : Int := 2147483647

/-- The value of a non-empty text of digits only. -/
def natural? (text : List Char) : Option Nat :=
  if text.isEmpty || !text.all Char.isDigit then
    none
  else
    some (Nat.ofDigitChars 10 text 0)

/-- The integer that the whole text writes: an optional minus sign and digits, in 32 bits. -/
def integer? (text : List Char) : Option Int :=
  let value? : Option Int :=
    match text with
    | '-' :: digits => (natural? digits).map fun n => -(n : Int)
    | digits => (natural? digits).map fun n => (n : Int)
  value?.filter fun value => lowest ≤ value && value ≤ highest

/-- The digits of an integer, with a minus sign if it is negative. -/
def write (value : Int) : List Char :=
  if value < 0 then
    '-' :: Nat.toDigits 10 value.natAbs
  else
    Nat.toDigits 10 value.natAbs

/-- Zeros in front of the digits up to the given width. -/
def zeroPadded (width : Nat) (digits : List Char) : List Char :=
  List.replicate (width - digits.length) '0' ++ digits

/-- An integer of at least the given width: zeros stand between the sign and the digits. -/
def writePadded (width : Nat) (value : Int) : List Char :=
  if value < 0 then
    '-' :: zeroPadded (width - 1) (Nat.toDigits 10 value.natAbs)
  else
    zeroPadded width (Nat.toDigits 10 value.natAbs)

end Decimal

end Cadence
