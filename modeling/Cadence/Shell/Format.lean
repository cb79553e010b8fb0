import Cadence.Shell.Numeral

namespace Cadence

namespace Shell

/-!
# Formatted fields

How numbers and texts fill fields of a given width: on which side blanks or zeros
stand, how a sign is shown, and how many digits there are.
-/

/-- The shape of a field. -/
structure FieldShape where
  isLeft : Bool := false
  showsPlus : Bool := false
  showsBlank : Bool := false
  isAlternate : Bool := false
  hasZeros : Bool := false
  width : Nat := 0
  precision : Option Nat := none
  deriving Repr

namespace FieldShape

/-- Fills a field with a text. -/
def pad (shape : FieldShape) (text : List Char) : List Char :=
  let blanks := List.replicate (shape.width - text.length) ' '
  if shape.isLeft then text ++ blanks else blanks ++ text

/-- Fills a field with digits after a sign; zeros stand between the two. -/
def padNumber (shape : FieldShape) (mayZero : Bool) (sign digits : List Char) : List Char :=
  if shape.hasZeros && mayZero && !shape.isLeft then
    sign ++ List.replicate (shape.width - sign.length - digits.length) '0' ++ digits
  else
    shape.pad (sign ++ digits)

/-- The sign of a number. -/
def sign (shape : FieldShape) (isNegative : Bool) : List Char :=
  if isNegative then ['-'] else if shape.showsPlus then ['+'] else if shape.showsBlank then [' ']
  else []

/-- Digits of at least the wanted number; no digits at all for 0 if none are wanted. -/
def exactDigits (shape : FieldShape) (value : Nat) (digits : List Char) : List Char :=
  match shape.precision with
  | none => digits
  | some precision =>
      if value = 0 && precision = 0 then
        []
      else
        List.replicate (precision - digits.length) '0' ++ digits

/-- A text, of which as many characters are shown as the precision says. -/
def text (shape : FieldShape) (value : List Char) : List Char :=
  shape.pad (shape.precision.elim value value.take)

/-- A decimal integer. -/
def integer (shape : FieldShape) (value : Int) : List Char :=
  let digits := shape.exactDigits value.natAbs (Numeral.digits value.natAbs)
  shape.padNumber shape.precision.isNone (shape.sign (value < 0)) digits

/-- A natural number in a base. -/
def natural (shape : FieldShape) (base : Nat) (isUpper : Bool) (value : Nat) : List Char :=
  let lower := Nat.toDigits base value
  let digits := shape.exactDigits value (if isUpper then lower.map Char.toUpper else lower)
  let (front, digits) : List Char × List Char :=
    if !shape.isAlternate then
      ([], digits)
    else if base = 16 && value ≠ 0 then
      (['0', if isUpper then 'X' else 'x'], digits)
    else if base = 8 && digits.head? ≠ some '0' then
      ([], '0' :: digits)
    else
      ([], digits)
  shape.padNumber shape.precision.isNone front digits

end FieldShape

/-- A number that is not negative: a whole number times a power of two; or no finite number. -/
inductive Magnitude
  | finite (mantissa : Nat) (exponent : Int)
  | infinite
  | undefined
  deriving Repr

namespace Magnitude

/-- The sign and the magnitude of a number in binary floating point of 64 bits. -/
def ofFloat (value : Float) : Bool × Magnitude :=
  let bits : Nat := value.toBits.toNat
  let isNegative : Bool := bits / Nat.pow 2 63 == 1
  let exponent : Nat := bits / Nat.pow 2 52 % Nat.pow 2 11
  let fraction : Nat := bits % Nat.pow 2 52
  let magnitude : Magnitude :=
    if exponent = 2047 then
      if fraction = 0 then .infinite else .undefined
    else if exponent = 0 then
      .finite fraction (-1074)
    else
      .finite (fraction + Nat.pow 2 52) ((exponent : Int) - 1075)
  (isNegative, magnitude)

/-- The nearest whole number to a quotient; of two that are as near the even one. -/
def roundQuotient (numerator denominator : Nat) : Nat :=
  let quotient := numerator / denominator
  let rest := 2 * (numerator % denominator)
  if denominator < rest || (rest = denominator && quotient % 2 = 1) then quotient + 1 else quotient

/-- A finite number as a fraction. -/
def fraction (mantissa : Nat) (exponent : Int) : Nat × Nat :=
  if 0 ≤ exponent then
    (mantissa * Nat.pow 2 exponent.toNat, 1)
  else
    (mantissa, Nat.pow 2 (-exponent).toNat)

/-- Digits with a point before the last `places` of them. -/
def point (places : Nat) (isAlternate : Bool) (value : Nat) : List Char :=
  let digits := Numeral.digits value
  let padded := List.replicate (places + 1 - digits.length) '0' ++ digits
  let whole := padded.take (padded.length - places)
  if places = 0 then
    if isAlternate then whole ++ ['.'] else whole
  else
    whole ++ ['.'] ++ padded.drop (padded.length - places)

/-- A number with so many places after the point. -/
def fixed (places : Nat) (isAlternate : Bool) (mantissa : Nat) (exponent : Int) : List Char :=
  let (numerator, denominator) := fraction mantissa exponent
  point places isAlternate (roundQuotient (numerator * Nat.pow 10 places) denominator)

/-- The power of ten of the first digit of a fraction that is not 0. -/
def leadingPower (numerator denominator : Nat) : Int :=
  if denominator ≤ numerator then
    ((Numeral.digits (numerator / denominator)).length : Int) - 1
  else
    let inverse := (denominator + numerator - 1) / numerator
    let length := (Numeral.digits inverse).length
    if inverse = Nat.pow 10 (length - 1) then 1 - (length : Int) else -(length : Int)

/-- The digits of a number, one before the point and so many after it, and its power of ten. -/
def scientificParts (places mantissa : Nat) (exponent : Int) : Nat × Int :=
  if mantissa = 0 then
    (0, 0)
  else
    let (numerator, denominator) := fraction mantissa exponent
    let power := leadingPower numerator denominator
    let shift := (places : Int) - power
    let rounded :=
      if 0 ≤ shift then
        roundQuotient (numerator * Nat.pow 10 shift.toNat) denominator
      else
        roundQuotient numerator (denominator * Nat.pow 10 (-shift).toNat)
    if Nat.pow 10 (places + 1) ≤ rounded then (rounded / 10, power + 1) else (rounded, power)

/-- The power of ten as it is written. -/
def powerText (isUpper : Bool) (power : Int) : List Char :=
  let digits := Numeral.digits power.natAbs
  (if isUpper then 'E' else 'e') :: (if power < 0 then '-' else '+') ::
    (List.replicate (2 - digits.length) '0' ++ digits)

/-- A number in scientific notation. -/
def scientific (places : Nat) (isAlternate isUpper : Bool) (mantissa : Nat) (exponent : Int) :
    List Char :=
  let (digits, power) := scientificParts places mantissa exponent
  point places isAlternate digits ++ powerText isUpper power

/-- Digits after a point without the zeros at their end. -/
def withoutZeros (text : List Char) : List Char :=
  if text.contains '.' then
    let kept := text.reverse.dropWhile (· = '0')
    (if kept.head? = some '.' then kept.drop 1 else kept).reverse
  else
    text

/-- A number in the shorter of the two notations, with so many digits. -/
def general (wanted : Nat) (isAlternate isUpper : Bool) (mantissa : Nat) (exponent : Int) :
    List Char :=
  let digits := max wanted 1
  let (rounded, power) := scientificParts (digits - 1) mantissa exponent
  let clean (text : List Char) : List Char := if isAlternate then text else withoutZeros text
  if -4 ≤ power && power < digits then
    clean (fixed ((digits : Int) - 1 - power).toNat isAlternate mantissa exponent)
  else
    clean (point (digits - 1) isAlternate rounded) ++ powerText isUpper power

end Magnitude

namespace FieldShape

/-- A number in floating point, in the notation of a letter. -/
def float (shape : FieldShape) (letter : Char) (value : Float) : List Char :=
  let (isNegative, magnitude) := Magnitude.ofFloat value
  let isUpper := letter.isUpper
  let places := shape.precision.getD 6
  let sign := shape.sign isNegative
  match magnitude with
  | .infinite => shape.padNumber false sign (if isUpper then "INF".toList else "inf".toList)
  | .undefined => shape.padNumber false sign (if isUpper then "NAN".toList else "nan".toList)
  | .finite mantissa exponent =>
      let digits :=
        match letter.toLower with
        | 'f' => Magnitude.fixed places shape.isAlternate mantissa exponent
        | 'e' => Magnitude.scientific places shape.isAlternate isUpper mantissa exponent
        | _ => Magnitude.general places shape.isAlternate isUpper mantissa exponent
      shape.padNumber true sign digits

end FieldShape

namespace Numeral

/-- The number in floating point at the front of a text and the rest; none if there is none. -/
def scanFloat? (text : List Char) : Option (Float × List Char) :=
  let start := text.dropWhile Text.isBlank
  let (isNegative, body) : Bool × List Char :=
    match start with
    | '-' :: body => (true, body)
    | '+' :: body => (false, body)
    | body => (false, body)
  let signed (value : Float) : Float := if isNegative then -value else value
  let named (name : String) : Bool :=
    name.toList.isPrefixOf (body.map Char.toLower)
  if named "infinity" then
    some (signed (1.0 / 0.0), body.drop 8)
  else if named "inf" then
    some (signed (1.0 / 0.0), body.drop 3)
  else if named "nan" then
    some (signed (0.0 / 0.0), body.drop 3)
  else
    match body with
    | '0' :: x :: rest =>
        if (x = 'x' || x = 'X') && rest.head?.any (isDigitOf 16) then
          let digits := rest.takeWhile (isDigitOf 16)
          some (signed (Float.ofNat (valueOf 16 digits)), rest.drop digits.length)
        else
          decimalFloat signed body
    | body => decimalFloat signed body
where
  /-- The decimal number at the front of a text. -/
  decimalFloat (signed : Float → Float) (body : List Char) : Option (Float × List Char) :=
    let whole := body.takeWhile Char.isDigit
    let afterWhole := body.drop whole.length
    let places :=
      match afterWhole with
      | '.' :: rest => rest.takeWhile Char.isDigit
      | _ => []
    let afterPlaces :=
      match afterWhole with
      | '.' :: rest => rest.drop places.length
      | rest => rest
    if whole.isEmpty && places.isEmpty then
      none
    else
      let (exponent, rest) : Int × List Char :=
        match afterPlaces with
        | e :: rest =>
            if e = 'e' || e = 'E' then
              let (isNegative, digits) : Bool × List Char :=
                match rest with
                | '-' :: digits => (true, digits)
                | '+' :: digits => (false, digits)
                | digits => (false, digits)
              let taken := digits.takeWhile Char.isDigit
              if taken.isEmpty then
                (0, afterPlaces)
              else
                let value : Int := min (valueOf 10 taken) 5000
                (if isNegative then -value else value, digits.drop taken.length)
            else
              (0, afterPlaces)
        | [] => (0, [])
      let mantissa := valueOf 10 (whole ++ places)
      let power := exponent - places.length
      let value :=
        if 0 ≤ power then
          Float.ofScientific mantissa false power.toNat
        else
          Float.ofScientific mantissa true (-power).toNat
      some (signed value, rest)

end Numeral

end Shell

end Cadence
