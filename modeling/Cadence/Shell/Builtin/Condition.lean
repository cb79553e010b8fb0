import Cadence.Shell.Builtin.Options

namespace Cadence

namespace Shell

open Host

/-!
# Conditions

The conditions that `test` and `[` decide: about texts, numbers and files, joined
by `-a` and `-o`, negated by `!`, grouped by parentheses.  With three or four
arguments the most telling reading is taken first.
-/

/-- What is asked about one operand. -/
inductive UnaryTest
  | isEmpty
  | isNotEmpty
  | isTerminal
  /-- The file may be read (4), written (2) or executed (1). -/
  | mayUse (access : Nat)
  | exists_
  | isKind (kind : FileKind)
  | isLink
  | hasContent
  | isOwned
  /-- The mode of the file has a bit. -/
  | hasMode (bit : Nat)
  deriving DecidableEq, Repr

/-- What is asked about two operands. -/
inductive BinaryTest
  | same
  | different
  | before
  | after
  | equal
  | unequal
  | greater
  | greaterOrEqual
  | less
  | lessOrEqual
  | isNewer
  | isOlder
  | isSameFile
  deriving DecidableEq, Repr

/-- A token of a condition. -/
inductive ConditionToken
  | stop
  | operand
  | unary (test : UnaryTest)
  | binary (test : BinaryTest)
  | not
  | and
  | or
  | openParen
  | closeParen
  deriving DecidableEq, Repr

namespace ConditionToken

/-- The operators as they are written. -/
def texts : List (String × ConditionToken) :=
  [("-r", .unary (.mayUse 4)), ("-w", .unary (.mayUse 2)), ("-x", .unary (.mayUse 1)),
    ("-e", .unary .exists_), ("-f", .unary (.isKind .regular)),
    ("-d", .unary (.isKind .directory)), ("-c", .unary (.isKind .characterDevice)),
    ("-b", .unary (.isKind .blockDevice)), ("-p", .unary (.isKind .fifo)),
    ("-u", .unary (.hasMode 0o4000)), ("-g", .unary (.hasMode 0o2000)),
    ("-k", .unary (.hasMode 0o1000)), ("-s", .unary .hasContent), ("-t", .unary .isTerminal),
    ("-z", .unary .isEmpty), ("-n", .unary .isNotEmpty), ("-h", .unary .isLink),
    ("-O", .unary .isOwned), ("-G", .unary .isOwned), ("-L", .unary .isLink),
    ("-S", .unary (.isKind .socket)), ("=", .binary .same), ("!=", .binary .different),
    ("<", .binary .before), (">", .binary .after), ("-eq", .binary .equal),
    ("-ne", .binary .unequal), ("-ge", .binary .greaterOrEqual), ("-gt", .binary .greater),
    ("-le", .binary .lessOrEqual), ("-lt", .binary .less), ("-nt", .binary .isNewer),
    ("-ot", .binary .isOlder), ("-ef", .binary .isSameFile), ("!", .not), ("-a", .and),
    ("-o", .or), ("(", .openParen), (")", .closeParen)]

/-- The operators with their characters. -/
def table : List (List Char × ConditionToken) :=
  texts.map fun entry => (entry.1.toList, entry.2)

/-- The operator of a text. -/
def ofText? (text : List Char) : Option ConditionToken :=
  (table.find? fun entry => entry.1 = text).map Prod.snd

/-- Whether a text is an operator on two operands. -/
def isBinary (text : List Char) : Bool :=
  match ofText? text with
  | some (.binary _) => true
  | _ => false

/-- The first token of some arguments: an operator on one operand is none if nothing follows, or
if an operator on two operands does. -/
def first (arguments : List (List Char)) : ConditionToken :=
  match arguments with
  | [] => .stop
  | text :: rest =>
      match ofText? text with
      | none => .operand
      | some (.unary test) =>
          match rest with
          | [] => .operand
          | [_] => .unary test
          | next :: _ => if isBinary next then .operand else .unary test
      | some .openParen => if rest.isEmpty then .operand else .openParen
      | some token => token

end ConditionToken

namespace Running

/-- Fails because a condition is not well formed. -/
def malformed {α : Type} (operator : List Char) (message : String) : Running α :=
  fault ((if operator.isEmpty then [] else operator ++ chars ": ") ++ chars message)

/-- The number that an operand writes. -/
def conditionNumber (text : List Char) : Running Int := do
  match Numeral.read? 10 text with
  | some value => pure value
  | none => fault (chars "Illegal number: " ++ text)

/-- What is told about a file, if it is there. -/
def statusOf? (path : List Char) (follow : Bool) : Running (Option FileStatus) := do
  match ← ask (.status path follow) with
  | .ok status => pure (some status)
  | .error _ => pure none

/-- Decides a condition on one operand. -/
def decideUnary (test : UnaryTest) (operand : List Char) : Running Bool := do
  match test with
  | .isEmpty => pure operand.isEmpty
  | .isNotEmpty => pure !operand.isEmpty
  | .isTerminal =>
      let _ ← conditionNumber operand
      pure false
  | .mayUse access =>
      match ← ask (.permitted operand access) with
      | .ok _ => pure true
      | .error _ => pure false
  | .isLink => pure ((← statusOf? operand false).any fun status => status.kind = .link)
  | .exists_ | .isOwned => pure (← statusOf? operand true).isSome
  | .isKind kind => pure ((← statusOf? operand true).any fun status => status.kind = kind)
  | .hasContent => pure ((← statusOf? operand true).any fun status => 0 < status.size)
  | .hasMode bit => pure ((← statusOf? operand true).any fun status => status.mode &&& bit ≠ 0)

/-- Decides a condition on two numbers. -/
def decideNumbers (holds : Int → Int → Bool) (first second : List Char) : Running Bool := do
  let first ← conditionNumber first
  pure (holds first (← conditionNumber second))

/-- Decides a condition on two files. -/
def decideFiles (holds : FileStatus → FileStatus → Bool) (first second : List Char) :
    Running Bool := do
  match ← statusOf? first true, ← statusOf? second true with
  | some first, some second => pure (holds first second)
  | _, _ => pure false

/-- Whether a text comes strictly before another one. -/
def isBefore : List Char → List Char → Bool
  | _, [] => false
  | [], _ :: _ => true
  | first :: rest, second :: others =>
      first.toNat < second.toNat || (first = second && isBefore rest others)

/-- Decides a condition on two operands. -/
def decideBinary (test : BinaryTest) (first second : List Char) : Running Bool :=
  match test with
  | .same => pure (first = second)
  | .different => pure (first ≠ second)
  | .before => pure (isBefore first second)
  | .after => pure (isBefore second first)
  | .equal => decideNumbers (· == ·) first second
  | .unequal => decideNumbers (· != ·) first second
  | .greater => decideNumbers (fun first second => second < first) first second
  | .greaterOrEqual => decideNumbers (fun first second => second ≤ first) first second
  | .less => decideNumbers (fun first second => first < second) first second
  | .lessOrEqual => decideNumbers (fun first second => first ≤ second) first second
  | .isNewer => decideFiles (fun first second => second.modified < first.modified) first second
  | .isOlder => decideFiles (fun first second => first.modified < second.modified) first second
  | .isSameFile => decideFiles (fun first second => first.serial = second.serial) first second

/-- The truth of a part of a condition, and the arguments from its last one on. -/
abbrev Decided := Running (Bool × List (List Char))

mutual

/-- Conditions joined by `-o`. -/
def decideOr : Nat → ConditionToken → List (List Char) → Decided
  | 0, _, arguments => pure (false, arguments)
  | fuel + 1, token, arguments => do
      let (holds, last) ← decideAnd fuel token arguments
      match ConditionToken.first (last.drop 1) with
      | .or =>
          let rest := last.drop 2
          let (second, last) ← decideOr fuel (ConditionToken.first rest) rest
          pure (holds || second, last)
      | _ => pure (holds, last)

/-- Conditions joined by `-a`. -/
def decideAnd : Nat → ConditionToken → List (List Char) → Decided
  | 0, _, arguments => pure (false, arguments)
  | fuel + 1, token, arguments => do
      let (holds, last) ← decideNot fuel token arguments
      match ConditionToken.first (last.drop 1) with
      | .and =>
          let rest := last.drop 2
          let (second, last) ← decideAnd fuel (ConditionToken.first rest) rest
          pure (holds && second, last)
      | _ => pure (holds, last)

/-- A condition that may be negated. -/
def decideNot : Nat → ConditionToken → List (List Char) → Decided
  | 0, _, arguments => pure (false, arguments)
  | fuel + 1, token, arguments => do
      if token = .not then
        let rest := arguments.drop 1
        let next := ConditionToken.first rest
        let (holds, last) ← decideNot fuel next (if next = .stop then arguments else rest)
        pure (!holds, last)
      else
        decidePrimary fuel token arguments

/-- A single condition, or one in parentheses. -/
def decidePrimary : Nat → ConditionToken → List (List Char) → Decided
  | 0, _, arguments => pure (false, arguments)
  | fuel + 1, token, arguments => do
      match token with
      | .stop => pure (false, arguments)
      | .openParen =>
          let rest := arguments.drop 1
          let inner := ConditionToken.first rest
          if inner = .closeParen then
            pure (false, rest)
          else
            let (holds, last) ← decideOr fuel inner rest
            if ConditionToken.first (last.drop 1) = .closeParen then
              pure (holds, last.drop 1)
            else
              malformed [] "closing paren expected"
      | .unary test =>
          match arguments with
          | _ :: operand :: rest => pure (← decideUnary test operand, operand :: rest)
          | operator :: _ => malformed operator "argument expected"
          | [] => pure (false, [])
      | _ =>
          match arguments with
          | first :: operator :: rest =>
              match ConditionToken.first (operator :: rest) with
              | .binary test =>
                  match rest with
                  | second :: _ => pure (← decideBinary test first second, rest)
                  | [] => malformed operator "argument expected"
              | _ => pure (!first.isEmpty, arguments)
          | [first] => pure (!first.isEmpty, arguments)
          | [] => pure (false, [])

end

/-- Decides the condition of some arguments, read from a token on. -/
def decideFrom (token : ConditionToken) (arguments : List (List Char)) : Running Bool := do
  let (holds, last) ← decideOr (4 * arguments.length + 8) token arguments
  match last with
  | operand :: _ :: _ => malformed operand "unexpected operator"
  | _ => pure holds

/-- Decides the condition of some arguments.  The first argument bounds their number. -/
def decide : Nat → List (List Char) → Running Bool
  | 0, _ => pure false
  | fuel + 1, arguments => do
      let usual (arguments : List (List Char)) : Running Bool :=
        decideFrom (ConditionToken.first arguments) arguments
      let grouped (arguments : List (List Char)) : Running Bool := do
        match arguments with
        | ['('] :: rest =>
            if rest.getLast? = some [')'] then
              usual rest.dropLast
            else
              usual arguments
        | ['!'] :: rest => pure !(← decide fuel rest)
        | arguments => usual arguments
      match arguments with
      | [] => pure false
      | [_, operator, _] =>
          if ConditionToken.isBinary operator then
            decideFrom .operand arguments
          else
            grouped arguments
      | [_, _, _, _] => grouped arguments
      | arguments => usual arguments

/-- Decides a condition; the status is 0 if it holds. -/
def test (arguments : List (List Char)) : Running Nat := do
  let holds ← decide (arguments.length + 1) arguments
  pure (if holds then 0 else 1)

/-- Decides a condition that ends with a bracket. -/
def bracket (arguments : List (List Char)) : Running Nat := do
  match arguments.getLast? with
  | some (']' :: _) => test arguments.dropLast
  | _ => fault (chars "missing ]")

end Running

end Shell

end Cadence
