import Cadence.Shell.Numeral
import Cadence.Shell.Grammar

namespace Cadence

namespace Shell

/-!
# Arithmetic

Integer expressions over parameters, on 64-bit two's complement.  Operators bind
from the loosest to the tightest: assignment, the choice between two values, `||`,
`&&`, the operators on bits, comparisons, shifts, sums, products and signs.  A
truth value is 1 or 0, and division rounds toward zero.
-/

/-- The operations on two numbers. -/
inductive Operator
  | times
  | divide
  | modulo
  | plus
  | minus
  | shiftLeft
  | shiftRight
  | less
  | lessOrEqual
  | greater
  | greaterOrEqual
  | equal
  | unequal
  | bitAnd
  | bitXor
  | bitOr
  deriving DecidableEq, Repr

/-- A sign before a number. -/
inductive Sign
  | plus
  | minus
  | not
  | complement
  deriving DecidableEq, Repr

/-- A token of an expression. -/
inductive ArithmeticToken
  | number (value : Int)
  | named (name : List Char)
  | operator (operator : Operator)
  /-- Sets a parameter to the value of an operation on it, or to a value alone. -/
  | assign (operator : Option Operator)
  | and
  | or
  | not
  | complement
  | question
  | colon
  | openParen
  | closeParen
  | unknown
  deriving DecidableEq, Repr

/-- An expression. -/
inductive Expression
  | number (value : Int)
  | named (name : List Char)
  | signed (sign : Sign) (operand : Expression)
  | operation (operator : Operator) (first second : Expression)
  | and (first second : Expression)
  | or (first second : Expression)
  | choice (condition whenTrue whenFalse : Expression)
  | assigned (name : List Char) (operator : Option Operator) (value : Expression)
  deriving Repr

/-- Why an expression has no value. -/
inductive ArithmeticFault
  | malformed (reason : String)
  | divisionByZero
  /-- A quotient that does not fit. -/
  | overflow
  /-- The value of a parameter is no number. -/
  | notANumber (text : List Char)
  deriving Repr

/-- The operators as they are written, the longer ones first. -/
def operatorTexts : List (String × ArithmeticToken) :=
  [("<<=", .assign (some .shiftLeft)), (">>=", .assign (some .shiftRight)),
    ("<<", .operator .shiftLeft), (">>", .operator .shiftRight), ("<=", .operator .lessOrEqual),
    (">=", .operator .greaterOrEqual), ("==", .operator .equal), ("!=", .operator .unequal),
    ("&&", .and), ("||", .or), ("+=", .assign (some .plus)), ("-=", .assign (some .minus)),
    ("*=", .assign (some .times)), ("/=", .assign (some .divide)), ("%=", .assign (some .modulo)),
    ("&=", .assign (some .bitAnd)), ("^=", .assign (some .bitXor)), ("|=", .assign (some .bitOr)),
    ("=", .assign none), ("<", .operator .less), (">", .operator .greater),
    ("+", .operator .plus), ("-", .operator .minus), ("*", .operator .times),
    ("/", .operator .divide), ("%", .operator .modulo), ("&", .operator .bitAnd),
    ("^", .operator .bitXor), ("|", .operator .bitOr), ("!", .not), ("~", .complement),
    ("?", .question), (":", .colon), ("(", .openParen), (")", .closeParen)]

/-- The operators with their characters. -/
def operatorTable : List (List Char × ArithmeticToken) :=
  operatorTexts.map fun entry => (entry.1.toList, entry.2)

/-- The tokens of a text.  The first argument bounds the characters that are read. -/
def arithmeticTokens : Nat → List Char → List ArithmeticToken
  | 0, _ => []
  | _, [] => []
  | bound + 1, c :: rest =>
      if c = ' ' || c = '\t' || c = '\n' then
        arithmeticTokens bound rest
      else if c.isDigit then
        let (digits, base, after) := Numeral.unsigned 0 (c :: rest)
        .number (Numeral.clamp (Numeral.valueOf base digits)) :: arithmeticTokens bound after
      else if isNameStart c then
        let name := (c :: rest).takeWhile isNamePart
        .named name :: arithmeticTokens bound ((c :: rest).dropWhile isNamePart)
      else
        match operatorTable.find? fun entry => entry.1.isPrefixOf (c :: rest) with
        | some (text, token) =>
            token :: arithmeticTokens bound ((c :: rest).drop text.length)
        | none => [.unknown]

namespace Operator

/-- How tightly an operator binds; 0 is the tightest. -/
def level : Operator → Nat
  | times | divide | modulo => 0
  | plus | minus => 1
  | shiftLeft | shiftRight => 2
  | less | lessOrEqual | greater | greaterOrEqual => 3
  | equal | unequal => 4
  | bitAnd => 5
  | bitXor => 6
  | bitOr => 7

/-- The loosest level of the operators. -/
def loosest : Nat := 7

/-- A truth value as a number. -/
def truth (holds : Bool) : Int :=
  if holds then 1 else 0

/-- The bits of two numbers, combined. -/
def bitwise (combine : BitVec 64 → BitVec 64 → BitVec 64) (first second : Int) : Int :=
  (combine (BitVec.ofInt 64 first) (BitVec.ofInt 64 second)).toInt

/-- The value of an operation on two numbers. -/
def apply (operator : Operator) (first second : Int) : Except ArithmeticFault Int :=
  match operator with
  | times => .ok (Numeral.wrap (first * second))
  | plus => .ok (Numeral.wrap (first + second))
  | minus => .ok (Numeral.wrap (first - second))
  | divide =>
      if second = 0 then
        .error .divisionByZero
      else if first = Numeral.lowest ∧ second = -1 then
        .error .overflow
      else
        .ok (first.tdiv second)
  | modulo =>
      if second = 0 then
        .error .divisionByZero
      else if first = Numeral.lowest ∧ second = -1 then
        .error .overflow
      else
        .ok (first.tmod second)
  | shiftLeft => .ok (bitwise (fun a b => a <<< (b.toNat % 64)) first second)
  | shiftRight => .ok (bitwise (fun a b => a.sshiftRight (b.toNat % 64)) first second)
  | less => .ok (truth (first < second))
  | lessOrEqual => .ok (truth (first ≤ second))
  | greater => .ok (truth (second < first))
  | greaterOrEqual => .ok (truth (second ≤ first))
  | equal => .ok (truth (first == second))
  | unequal => .ok (truth (first != second))
  | bitAnd => .ok (bitwise (· &&& ·) first second)
  | bitXor => .ok (bitwise (· ^^^ ·) first second)
  | bitOr => .ok (bitwise (· ||| ·) first second)

end Operator

/-- The value of a sign before a number. -/
def Sign.apply (sign : Sign) (value : Int) : Int :=
  match sign with
  | plus => value
  | minus => Numeral.wrap (-value)
  | not => Operator.truth (value == 0)
  | complement => -value - 1

namespace Expression

/-- What is at the front of some tokens, and the rest. -/
abbrev Parsed := Except ArithmeticFault (Expression × List ArithmeticToken)

mutual

/-- The expression at the front of some tokens. -/
def read : Nat → List ArithmeticToken → Parsed
  | 0, _ => .error (.malformed "expecting primary")
  | bound + 1, .named name :: .assign operator :: rest => do
      let (value, rest) ← read bound rest
      return (.assigned name operator value, rest)
  | bound + 1, tokens => readChoice bound tokens

/-- A choice, or what stands in for one. -/
def readChoice : Nat → List ArithmeticToken → Parsed
  | 0, _ => .error (.malformed "expecting primary")
  | bound + 1, tokens => do
      let (condition, rest) ← readOr bound tokens
      match rest with
      | .question :: rest =>
          match ← read bound rest with
          | (whenTrue, .colon :: rest) =>
              let (whenFalse, rest) ← readChoice bound rest
              return (.choice condition whenTrue whenFalse, rest)
          | _ => throw (.malformed "expecting ':'")
      | rest => return (condition, rest)

/-- Alternatives joined by `||`. -/
def readOr : Nat → List ArithmeticToken → Parsed
  | 0, _ => .error (.malformed "expecting primary")
  | bound + 1, tokens => do
      match ← readAnd bound tokens with
      | (first, .or :: rest) =>
          let (second, rest) ← readOr bound rest
          return (.or first second, rest)
      | single => return single

/-- Conditions joined by `&&`. -/
def readAnd : Nat → List ArithmeticToken → Parsed
  | 0, _ => .error (.malformed "expecting primary")
  | bound + 1, tokens => do
      match ← readLevel bound Operator.loosest tokens with
      | (first, .and :: rest) =>
          let (second, rest) ← readAnd bound rest
          return (.and first second, rest)
      | single => return single

/-- Operations of a level and those that bind tighter. -/
def readLevel : Nat → Nat → List ArithmeticToken → Parsed
  | 0, _, _ => .error (.malformed "expecting primary")
  | bound + 1, level, tokens => do
      let (first, rest) ←
        match level with
        | 0 => readPrimary bound tokens
        | level + 1 => readLevel bound level tokens
      readMore bound level first rest

/-- The operations of one level after their first operand. -/
def readMore : Nat → Nat → Expression → List ArithmeticToken → Parsed
  | 0, _, _, _ => .error (.malformed "expecting primary")
  | bound + 1, level, first, .operator operator :: rest =>
      if operator.level = level then do
        let (second, rest) ←
          match level with
          | 0 => readPrimary bound rest
          | level + 1 => readLevel bound level rest
        readMore bound level (.operation operator first second) rest
      else
        .ok (first, .operator operator :: rest)
  | _ + 1, _, first, rest => .ok (first, rest)

/-- A number, a parameter, a signed operand or an expression in brackets. -/
def readPrimary : Nat → List ArithmeticToken → Parsed
  | 0, _ => .error (.malformed "expecting primary")
  | bound + 1, tokens =>
      let signed (sign : Sign) (rest : List ArithmeticToken) : Parsed := do
        let (operand, rest) ← readPrimary bound rest
        return (.signed sign operand, rest)
      match tokens with
      | .number value :: rest => .ok (.number value, rest)
      | .named name :: rest => .ok (.named name, rest)
      | .openParen :: rest => do
          match ← read bound rest with
          | (inner, .closeParen :: rest) => return (inner, rest)
          | _ => throw (.malformed "expecting ')'")
      | .operator .plus :: rest => signed .plus rest
      | .operator .minus :: rest => signed .minus rest
      | .not :: rest => signed .not rest
      | .complement :: rest => signed .complement rest
      | _ => .error (.malformed "expecting primary")

end

/-- The expression that a text writes. -/
def ofText (text : List Char) : Except ArithmeticFault Expression := do
  let tokens := arithmeticTokens (text.length + 1) text
  let (expression, rest) ← read (16 * tokens.length + 32) tokens
  if rest.isEmpty then
    return expression
  else
    throw (.malformed "expecting EOF")

/-- What an evaluation has set, the last one first. -/
abbrev Assigned := List (List Char × Int)

/-- The value of a parameter: the one it was set to last, or else the number that its text is. -/
def current (textOf : List Char → Option (List Char)) (name : List Char) :
    StateT Assigned (Except ArithmeticFault) Int := do
  match (← get).lookup name with
  | some value => return value
  | none =>
      let text := (textOf name).getD []
      match Numeral.read? 0 text with
      | some value => return value
      | none =>
          if text.all Text.isBlank then return 0 else throw (.notANumber text)

/-- The value of an expression. -/
def evaluate (textOf : List Char → Option (List Char)) :
    Expression → StateT Assigned (Except ArithmeticFault) Int
  | .number value => return value
  | .named name => current textOf name
  | .signed sign operand => return sign.apply (← operand.evaluate textOf)
  | .operation operator first second => do
      let value ← first.evaluate textOf
      operator.apply value (← second.evaluate textOf)
  | .and first second => do
      if (← first.evaluate textOf) = 0 then
        return 0
      else
        return Operator.truth ((← second.evaluate textOf) != 0)
  | .or first second => do
      if (← first.evaluate textOf) = 0 then
        return Operator.truth ((← second.evaluate textOf) != 0)
      else
        return 1
  | .choice condition whenTrue whenFalse => do
      if (← condition.evaluate textOf) = 0 then
        whenFalse.evaluate textOf
      else
        whenTrue.evaluate textOf
  | .assigned name operator value => do
      let operand ← value.evaluate textOf
      let result ←
        match operator with
        | none => pure operand
        | some operator => do
            let before ← current textOf name
            operator.apply before operand
      modify ((name, result) :: ·)
      return result

end Expression

end Shell

end Cadence
