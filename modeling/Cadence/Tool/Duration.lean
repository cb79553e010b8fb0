import Cadence.Tool.Basic

namespace Cadence

namespace Tool

/-!
# Durations

A duration is a decimal number, possibly with a fraction and a power of ten, and a
unit.  It is counted in nanoseconds, and rounded up.
-/

namespace Duration

/-- The nanoseconds in a unit. -/
def unit? (text : Bytes) : Option Nat :=
  match text with
  | [] | ['s'] => some (Nat.pow 10 9)
  | ['m'] => some (60 * Nat.pow 10 9)
  | ['h'] => some (3600 * Nat.pow 10 9)
  | ['d'] => some (86400 * Nat.pow 10 9)
  | _ => none

/-- The power of ten at the front of a text, and the rest. -/
def power (text : Bytes) : Int × Bytes :=
  match text with
  | 'e' :: rest | 'E' :: rest =>
      let (sign, body) : Int × Bytes :=
        match rest with
        | '-' :: body => (-1, body)
        | '+' :: body => (1, body)
        | body => (1, body)
      let digits := body.takeWhile Char.isDigit
      match number? digits with
      | none => (0, text)
      | some value => (sign * (value : Int), body.drop digits.length)
  | _ => (0, text)

/-- The longest duration that makes a difference. -/
def longest : Nat := Nat.pow 10 30

/-- The nanoseconds that a text tells. -/
def ofText? (text : Bytes) : Option Nat :=
  let body := match text with
    | '+' :: body => body
    | body => body
  if body = chars "inf" || body = chars "infinity" then
    some longest
  else
    let whole := body.takeWhile Char.isDigit
    let afterWhole := body.drop whole.length
    let (fraction, rest) : Bytes × Bytes :=
      match afterWhole with
      | '.' :: rest => (rest.takeWhile Char.isDigit, rest.dropWhile Char.isDigit)
      | rest => ([], rest)
    match number? (whole ++ fraction) with
    | none => none
    | some mantissa =>
        let (exponent, rest) := power rest
        match unit? rest with
        | none => none
        | some unit =>
            let shift := exponent - fraction.length
            if 30 < shift then
              some (if mantissa = 0 then 0 else longest)
            else if 0 ≤ shift then
              some (mantissa * unit * Nat.pow 10 shift.toNat)
            else
              let divisor := Nat.pow 10 (min (-shift).toNat 400)
              some ((mantissa * unit + divisor - 1) / divisor)

end Duration

end Tool

end Cadence
