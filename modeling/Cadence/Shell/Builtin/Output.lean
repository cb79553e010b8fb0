import Cadence.Shell.Builtin.Options
import Cadence.Shell.Format

namespace Cadence

namespace Shell

/-!
# Output commands

`echo` and `printf`, and the escapes that they understand.
-/

namespace Escape

/-- The value of up to so many octal digits at the front of a text, and the rest. -/
def octal (limit : Nat) (text : List Char) : Char × List Char :=
  let isOctal := fun c : Char => '0' ≤ c && c ≤ '7'
  let digits := (text.take limit).takeWhile isOctal
  (Char.ofNat (Numeral.valueOf 8 digits % 256), text.drop digits.length)

/-- The character of an escape, whose text follows a backslash, and the rest. -/
def one (text : List Char) : Char × List Char :=
  match text with
  | [] => ('\\', [])
  | c :: rest =>
      match c with
      | 'a' => (Char.ofNat 7, rest)
      | 'b' => (Char.ofNat 8, rest)
      | 'e' => (Char.ofNat 27, rest)
      | 'f' => (Char.ofNat 12, rest)
      | 'n' => ('\n', rest)
      | 'r' => ('\r', rest)
      | 't' => ('\t', rest)
      | 'v' => (Char.ofNat 11, rest)
      | '\\' => ('\\', rest)
      | c => if '0' ≤ c && c ≤ '7' then octal 3 text else ('\\', text)

/-- A text with its escapes replaced, and whether an escape has ended the output.  The first
argument bounds the length of the text. -/
def all : Nat → List Char → List Char × Bool
  | 0, _ => ([], false)
  | _, [] => ([], false)
  | fuel + 1, '\\' :: rest =>
      match rest with
      | 'c' :: _ => ([], true)
      | '0' :: digits =>
          let (c, after) := octal 3 digits
          let (text, ends) := all fuel after
          (c :: text, ends)
      | rest =>
          let (c, after) := one rest
          let (text, ends) := all fuel after
          (c :: text, ends)
  | fuel + 1, c :: rest =>
      let (text, ends) := all fuel rest
      (c :: text, ends)

/-- A text with its escapes replaced, and whether an escape has ended the output. -/
def expand (text : List Char) : List Char × Bool :=
  if text.contains '\\' then all (text.length + 1) text else (text, false)

end Escape

namespace Running

/-- The line that `echo` writes for some arguments. -/
def echoLine (endsLine : Bool) : List (List Char) → List Char
  | [] => if endsLine then ['\n'] else []
  | argument :: rest =>
      let (text, ends) := Escape.expand argument
      if ends then
        text
      else if rest.isEmpty then
        if endsLine then text ++ ['\n'] else text
      else
        text ++ ' ' :: echoLine endsLine rest

/-- Writes its arguments. -/
def echo (arguments : List (List Char)) : Running Nat := do
  match arguments with
  | ['-', 'n'] :: rest => say (echoLine false rest)
  | arguments => say (echoLine true arguments)
  pure 0

/-- A piece of a format. -/
inductive FormatPiece
  | literal (c : Char)
  /-- A field: its shape, whether width and precision are arguments, and its letter; none if the
  format ends before it. -/
  | field (shape : FieldShape) (hasWidth hasPrecision : Bool) (letter : Option Char)
    (source : List Char)
  deriving Repr

/-- The field that follows a percent sign, and the rest. -/
def formatField (text : List Char) : FormatPiece × List Char :=
  let flags := text.takeWhile fun c => "#-+ 0".toList.contains c
  let afterFlags := text.drop flags.length
  let shape : FieldShape :=
    { isLeft := flags.contains '-'
      showsPlus := flags.contains '+'
      showsBlank := flags.contains ' '
      isAlternate := flags.contains '#'
      hasZeros := flags.contains '0' }
  let (hasWidth, width, afterWidth) : Bool × Nat × List Char :=
    match afterFlags with
    | '*' :: rest => (true, 0, rest)
    | rest =>
        let digits := rest.takeWhile Char.isDigit
        (false, Numeral.valueOf 10 digits, rest.drop digits.length)
  let (hasPrecision, precision, rest) : Bool × Option Nat × List Char :=
    match afterWidth with
    | '.' :: '*' :: rest => (true, none, rest)
    | '.' :: rest =>
        let digits := rest.takeWhile Char.isDigit
        (false, some (Numeral.valueOf 10 digits), rest.drop digits.length)
    | rest => (false, none, rest)
  let source := '%' :: text.take (text.length - rest.length)
  let whole := { shape with width := width, precision := precision }
  (.field whole hasWidth hasPrecision rest.head? (source ++ rest.take 1), rest.drop 1)

/-- The pieces of a format.  The first argument bounds its length. -/
def formatPieces : Nat → List Char → List FormatPiece
  | 0, _ => []
  | _, [] => []
  | fuel + 1, '\\' :: rest =>
      let (c, after) := Escape.one rest
      .literal c :: formatPieces fuel after
  | fuel + 1, '%' :: '%' :: rest => .literal '%' :: formatPieces fuel rest
  | fuel + 1, '%' :: rest =>
      let (piece, after) := formatField rest
      piece :: formatPieces fuel after
  | fuel + 1, c :: rest => .literal c :: formatPieces fuel rest

/-- How far a format has been filled. -/
structure Filling where
  arguments : List (List Char)
  /-- Whether an argument was no number. -/
  hasFailed : Bool := false
  /-- Whether an escape has ended the output. -/
  isOver : Bool := false

/-- Says why an argument is no number. -/
def warnNumber (argument : List Char) (reason : String) : Running Unit :=
  warn (argument ++ chars ": " ++ chars reason)

/-- An integer argument, and whether it was one. -/
def integerArgument (isSigned : Bool) (argument : List Char) : Running (Int × Bool) := do
  match argument with
  | [] => pure (0, true)
  | quote :: rest =>
      if quote = '\'' || quote = '"' then
        pure ((rest.head?.map Char.toNat).getD 0, true)
      else
        match Numeral.scan? 0 argument with
        | none => do
            warnNumber argument "expected numeric value"
            pure (0, false)
        | some (value, after) =>
            let low : Int := if isSigned then Numeral.lowest else -18446744073709551615
            let high : Int := if isSigned then Numeral.highest else 18446744073709551615
            let fitting :=
              if isSigned then Numeral.clamp value
              else if value < low || high < value then high
              else value % 18446744073709551616
            if !after.isEmpty then
              warnNumber argument "not completely converted"
              pure (fitting, false)
            else if value < low || high < value then
              warnNumber argument "Numerical result out of range"
              pure (fitting, false)
            else
              pure (fitting, true)

/-- An argument in floating point, and whether it was one. -/
def floatArgument (argument : List Char) : Running (Float × Bool) := do
  match argument with
  | [] => pure (0, true)
  | quote :: rest =>
      if quote = '\'' || quote = '"' then
        pure (Float.ofNat ((rest.head?.map Char.toNat).getD 0), true)
      else
        match Numeral.scanFloat? argument with
        | none => do
            warnNumber argument "expected numeric value"
            pure (0, false)
        | some (value, after) =>
            if after.isEmpty then
              pure (value, true)
            else
              warnNumber argument "not completely converted"
              pure (value, false)

/-- Fills a field with the next argument. -/
def fillField (shape : FieldShape) (letter : Char) (source : List Char) (filling : Filling) :
    Running Filling := do
  let argument := filling.arguments.headD []
  let rest := { filling with arguments := filling.arguments.drop 1 }
  match letter with
  | 's' =>
      say (shape.text argument)
      pure rest
  | 'b' =>
      let (text, ends) := Escape.expand argument
      say (shape.text text)
      pure { rest with isOver := ends }
  | 'c' =>
      say ({ shape with precision := none }.text [argument.headD (Char.ofNat 0)])
      pure rest
  | 'd' | 'i' =>
      let (value, isFine) ← integerArgument true argument
      say (shape.integer value)
      pure { rest with hasFailed := rest.hasFailed || !isFine }
  | 'u' =>
      let (value, isFine) ← integerArgument false argument
      say (shape.natural 10 false value.toNat)
      pure { rest with hasFailed := rest.hasFailed || !isFine }
  | 'o' =>
      let (value, isFine) ← integerArgument false argument
      say (shape.natural 8 false value.toNat)
      pure { rest with hasFailed := rest.hasFailed || !isFine }
  | 'x' | 'X' =>
      let (value, isFine) ← integerArgument false argument
      say (shape.natural 16 (letter = 'X') value.toNat)
      pure { rest with hasFailed := rest.hasFailed || !isFine }
  | _ =>
      if "aAeEfFgG".toList.contains letter then
        let (value, isFine) ← floatArgument argument
        say (shape.float letter value)
        pure { rest with hasFailed := rest.hasFailed || !isFine }
      else
        fault (source ++ chars ": invalid directive")

/-- Fills a piece of a format. -/
def fillPiece (filling : Filling) (piece : FormatPiece) : Running Filling := do
  if filling.isOver then
    pure filling
  else
    match piece with
    | .literal c =>
        say [c]
        pure filling
    | .field shape hasWidth hasPrecision letter source =>
        let take (wanted : Bool) (filling : Filling) : Running (Int × Filling) := do
          if wanted then
            let (value, isFine) ← integerArgument true (filling.arguments.headD [])
            pure (value,
              { filling with
                arguments := filling.arguments.drop 1
                hasFailed := filling.hasFailed || !isFine })
          else
            pure (0, filling)
        let (width, filling) ← take hasWidth filling
        let (precision, filling) ← take hasPrecision filling
        let widened :=
          if hasWidth then
            { shape with width := width.natAbs, isLeft := shape.isLeft || width < 0 }
          else
            shape
        let whole :=
          if hasPrecision then
            { widened with precision := if precision < 0 then none else some precision.toNat }
          else
            widened
        match letter with
        | none => fault (chars "missing format character")
        | some letter => fillField whole letter source filling

/-- Fills a format again and again until no arguments are left. -/
def fillFormat (pieces : List FormatPiece) : Nat → Filling → Running Filling
  | 0, filling => pure filling
  | fuel + 1, filling => do
      let filled ← pieces.foldlM fillPiece filling
      if filled.isOver || filled.arguments.isEmpty ||
          filled.arguments.length = filling.arguments.length then
        pure filled
      else
        fillFormat pieces fuel filled

/-- Writes its arguments in a format. -/
def printf (arguments : List (List Char)) : Running Nat := do
  let (_, operands) ← takeOptions "" arguments
  match operands with
  | [] => fault (chars "usage: printf format [arg ...]")
  | format :: arguments =>
      let pieces := formatPieces (format.length + 1) format
      let filled ← fillFormat pieces (arguments.length + 1) { arguments := arguments }
      pure (if filled.hasFailed then 1 else 0)

end Running

end Shell

end Cadence
