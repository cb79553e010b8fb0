import Cadence.Text

namespace Cadence

namespace Shell

/-!
# Numerals

Integers as they stand at the front of a text: blanks, a sign, and digits.  Where
the base is not fixed, a leading `0x` means hexadecimal and a leading 0 octal.
The values are those of 64-bit two's complement.
-/

namespace Numeral

/-- The least and the greatest value. -/
def lowest : Int := -9223372036854775808

def highest : Int := 9223372036854775807

/-- The value nearest to an integer. -/
def clamp (value : Int) : Int :=
  max lowest (min highest value)

/-- The value that an integer has in 64 bits. -/
def wrap (value : Int) : Int :=
  value.bmod (Nat.pow 2 64)

/-- The value of a digit or a letter. -/
def digitValue? (c : Char) : Option Nat :=
  if c.isDigit then some (c.toNat - '0'.toNat)
  else if 'a' ≤ c && c ≤ 'z' then some (c.toNat - 'a'.toNat + 10)
  else if 'A' ≤ c && c ≤ 'Z' then some (c.toNat - 'A'.toNat + 10)
  else none

/-- Whether a character is a digit of a base. -/
def isDigitOf (base : Nat) (c : Char) : Bool :=
  (digitValue? c).any (· < base)

/-- The value of digits of a base. -/
def valueOf (base : Nat) (digits : List Char) : Nat :=
  digits.foldl (fun value c => base * value + (digitValue? c).getD 0) 0

/-- The base of the digits at the front of a text, with these digits and the rest.  Base 0 is the
one that the digits tell. -/
def unsigned (base : Nat) (text : List Char) : List Char × Nat × List Char :=
  let plain (base : Nat) (text : List Char) : List Char × Nat × List Char :=
    (text.takeWhile (isDigitOf base), base, text.dropWhile (isDigitOf base))
  match text with
  | '0' :: x :: digit :: rest =>
      if (x = 'x' || x = 'X') && (base = 0 || base = 16) && isDigitOf 16 digit then
        plain 16 (digit :: rest)
      else
        plain (if base = 0 then 8 else base) text
  | '0' :: _ => plain (if base = 0 then 8 else base) text
  | _ => plain (if base = 0 then 10 else base) text

/-- The integer at the front of a text and the rest; none if no digits stand there. -/
def scan? (base : Nat) (text : List Char) : Option (Int × List Char) :=
  let start := text.dropWhile Text.isBlank
  let (isNegative, body) : Bool × List Char :=
    match start with
    | '-' :: body => (true, body)
    | '+' :: body => (false, body)
    | body => (false, body)
  let (digits, base, rest) := unsigned base body
  if digits.isEmpty then
    none
  else
    let value : Int := valueOf base digits
    some (if isNegative then -value else value, rest)

/-- The value of a text that holds an integer and blanks around it; none if it holds anything
else, or a value that does not fit. -/
def read? (base : Nat) (text : List Char) : Option Int :=
  match scan? base text with
  | none => none
  | some (value, rest) =>
      if rest.all Text.isBlank && lowest ≤ value && value ≤ highest then some value else none

/-- The decimal digits of an integer. -/
def decimal (value : Int) : List Char :=
  if value < 0 then
    '-' :: Nat.toDigits 10 value.natAbs
  else
    Nat.toDigits 10 value.natAbs

/-- The decimal digits of a natural number. -/
def digits (value : Nat) : List Char :=
  Nat.toDigits 10 value

end Numeral

end Shell

end Cadence
