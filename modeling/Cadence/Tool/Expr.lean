import Cadence.Tool.Fields
import Cadence.Tool.Regex

namespace Cadence

namespace Tool

open Host

/-!
# Expressions

`expr` computes with its arguments: each is a value or an operator.  The exit
status tells whether the result is empty or zero.
-/

namespace Expr

/-- Why an expression has no value. -/
inductive Fault
  | missing (after : Bytes)
  | unexpected (argument : Bytes)
  | notInteger
  | divisionByZero
  | unclosed (after : Bytes)
  | pattern (reason : String)

/-- The words for a fault. -/
def Fault.text : Fault → Bytes
  | missing [] => chars "missing operand"
  | missing after => chars "syntax error: missing argument after '" ++ after ++ ['\'']
  | unexpected argument => chars "syntax error: unexpected argument '" ++ argument ++ ['\'']
  | notInteger => chars "non-integer argument"
  | divisionByZero => chars "division by zero"
  | unclosed after => chars "syntax error: expecting ')' after '" ++ after ++ ['\'']
  | pattern reason => chars reason

/-- An integer, written without a plus sign. -/
def integerOf? (text : Bytes) : Option Int :=
  match text with
  | '+' :: _ => none
  | text => integer? text

/-- Whether a value counts as nothing: it is empty, or a zero. -/
def isNothing (value : Bytes) : Bool :=
  let body := match value with
    | '-' :: body => body
    | body => body
  value.isEmpty || (!body.isEmpty && body.all (· = '0'))

/-- The decimal digits of an integer. -/
def written (value : Int) : Bytes :=
  (if value < 0 then ['-'] else []) ++ digits value.natAbs

/-- A step of reading: the arguments that have been read before, and those that are left. -/
abbrev Reading := StateT (Bytes × List Bytes) (Except Fault)

/-- The next argument, if it is one of some. -/
def takeOne? (wanted : List String) : Reading (Option Bytes) := do
  match (← get).2 with
  | argument :: rest =>
      if wanted.any fun text => text.toList = argument then
        set (argument, rest)
        pure (some argument)
      else
        pure none
  | [] => pure none

/-- The next argument, which must be there. -/
def take : Reading Bytes := do
  match ← get with
  | (_, argument :: rest) =>
      set (argument, rest)
      pure argument
  | (last, []) => throw (.missing last)

/-- What a text gives that is matched from its beginning. -/
def matched (text pattern : Bytes) : Reading Bytes := do
  match Regex.ofText {} pattern with
  | .error reason => throw (.pattern reason)
  | .ok (expression, groups) =>
      match Regex.matchAt expression false { rest := text } with
      | some found =>
          pure (if groups = 0 then digits found.stop.position
            else (found.captures.lookup 1).getD [])
      | none => pure (if groups = 0 then ['0'] else [])

/-- Computes with two integers. -/
def calculate (operator first second : Bytes) (isEvaluated : Bool) : Reading Bytes := do
  if !isEvaluated then
    pure []
  else
    match integerOf? first, integerOf? second with
    | some first, some second =>
        match operator with
        | ['+'] => pure (written (first + second))
        | ['-'] => pure (written (first - second))
        | ['*'] => pure (written (first * second))
        | operator =>
            if second = 0 then
              throw .divisionByZero
            else if operator = ['/'] then
              pure (written (first.tdiv second))
            else
              pure (written (first.tmod second))
    | _, _ => throw .notInteger

/-- Compares two values, as integers if they are. -/
def compared (operator first second : Bytes) : Bytes :=
  let order : Ordering :=
    match integerOf? first, integerOf? second with
    | some first, some second => compare first second
    | _, _ => compareBytes first second
  let holds : Bool :=
    match String.ofList operator with
    | "<" => order = .lt
    | "<=" => order ≠ .gt
    | "=" | "==" => order = .eq
    | "!=" => order ≠ .eq
    | ">=" => order ≠ .lt
    | _ => order = .gt
  [if holds then '1' else '0']

/-- Reads a value with operators of one level between operands. -/
def chain (operators : List String) (operand : Bool → Reading Bytes)
    (combine : Bytes → Bytes → Bytes → Bool → Reading Bytes) (isEvaluated : Bool) :
    Nat → Bytes → Reading Bytes
  | 0, value => pure value
  | fuel + 1, value => do
      match ← takeOne? operators with
      | none => pure value
      | some operator =>
          let second ← operand isEvaluated
          chain operators operand combine isEvaluated fuel
            (← combine operator value second isEvaluated)

/-- Reads a value that is no operation of two values. -/
def primary (whole : Bool → Reading Bytes) (nested : Bool → Reading Bytes) (isEvaluated : Bool) :
    Reading Bytes := do
  let argument ← take
  match String.ofList argument with
  | "(" => do
      let value ← whole isEvaluated
      match ← takeOne? [")"] with
      | some _ => pure value
      | none =>
          match ← get with
          | (last, []) => throw (.unclosed last)
          | (_, argument :: _) => throw (.unexpected argument)
  | ")" => throw (.unexpected argument)
  | "+" => take
  | "length" => do
      let text ← nested isEvaluated
      pure (digits text.length)
  | "match" => do
      let text ← nested isEvaluated
      let pattern ← nested isEvaluated
      if isEvaluated then matched text pattern else pure []
  | "index" => do
      let text ← nested isEvaluated
      let wanted ← nested isEvaluated
      pure (match text.findIdx? wanted.contains with
        | some index => digits (index + 1)
        | none => ['0'])
  | "substr" => do
      let text ← nested isEvaluated
      let start ← nested isEvaluated
      let length ← nested isEvaluated
      match integerOf? start, integerOf? length with
      | some start, some length =>
          pure (if start ≤ 0 || length ≤ 0 then []
            else (text.drop (start.toNat - 1)).take length.toNat)
      | _, _ => pure []
  | _ => pure argument

/-- Reads a value that is no operation of two values, in which others are nested at most so
deeply. -/
def primaries (whole : Bool → Reading Bytes) : Nat → Bool → Reading Bytes
  | 0, _ => throw (.missing [])
  | depth + 1, isEvaluated => primary whole (primaries whole depth) isEvaluated

/-- Reads the rest of a conjunction: its value is the first one if both count. -/
def conjunction (operand : Bool → Reading Bytes) (isEvaluated : Bool) :
    Nat → Bytes → Reading Bytes
  | 0, value => pure value
  | fuel + 1, value => do
      match ← takeOne? ["&"] with
      | none => pure value
      | some _ =>
          let second ← operand (isEvaluated && !isNothing value)
          conjunction operand isEvaluated fuel
            (if isNothing value || isNothing second then ['0'] else value)

/-- Reads the rest of a disjunction: its value is the first one that counts. -/
def disjunction (operand : Bool → Reading Bytes) (isEvaluated : Bool) :
    Nat → Bytes → Reading Bytes
  | 0, value => pure value
  | fuel + 1, value => do
      match ← takeOne? ["|"] with
      | none => pure value
      | some _ =>
          let second ← operand (isEvaluated && isNothing value)
          disjunction operand isEvaluated fuel
            (if !isNothing value then value else if isNothing second then ['0'] else second)

/-- Reads a value, with parts nested at most so deeply. -/
def value : Nat → Bool → Reading Bytes
  | 0, _ => throw (.missing [])
  | depth + 1, isEvaluated => do
      let count := (← get).2.length + 1
      let single := primaries (value depth) count
      let matching (isEvaluated : Bool) : Reading Bytes := do
        chain [":"] single
          (fun _ text pattern isEvaluated =>
            if isEvaluated then matched text pattern else pure [])
          isEvaluated count (← single isEvaluated)
      let product (isEvaluated : Bool) : Reading Bytes := do
        chain ["*", "/", "%"] matching calculate isEvaluated count (← matching isEvaluated)
      let sum (isEvaluated : Bool) : Reading Bytes := do
        chain ["+", "-"] product calculate isEvaluated count (← product isEvaluated)
      let comparison (isEvaluated : Bool) : Reading Bytes := do
        chain ["<", "<=", "=", "==", "!=", ">=", ">"] sum
          (fun operator first second _ => pure (compared operator first second))
          isEvaluated count (← sum isEvaluated)
      let both (isEvaluated : Bool) : Reading Bytes := do
        conjunction comparison isEvaluated count (← comparison isEvaluated)
      disjunction both isEvaluated count (← both isEvaluated)

/-- The value of some arguments. -/
def evaluate (arguments : List Bytes) : Except Fault Bytes := do
  let (value, _, rest) ← (value (arguments.length + 1) true).run ([], arguments)
  match rest with
  | [] => .ok value
  | argument :: _ => .error (.unexpected argument)

end Expr

/-- Computes with its arguments, and writes the result. -/
def expr (given : Given) : Job Nat := do
  let arguments :=
    match given.arguments with
    | ['-', '-'] :: rest => rest
    | arguments => arguments
  match Expr.evaluate arguments with
  | .error fault =>
      if arguments.isEmpty then misuse given 2 fault.text else refuse given 2 fault.text
  | .ok value => finishWith given (if Expr.isNothing value then 1 else 0) 3 (value ++ ['\n'])

end Tool

end Cadence
