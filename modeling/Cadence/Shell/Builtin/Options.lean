import Cadence.Shell.Store

namespace Cadence

namespace Shell

/-!
# Options of built-in commands

Options are letters after a minus sign, in front of the operands; `--` ends them.
-/

/-- An option with its argument, if it takes one. -/
structure OptionGiven where
  letter : Char
  argument : List Char := []

namespace Running

/-- Whether a letter is an option, and whether it takes an argument. -/
def optionKind? (letter : Char) : List Char → Option Bool
  | [] => none
  | known :: ':' :: rest => if known = letter then some true else optionKind? letter rest
  | known :: rest => if known = letter then some false else optionKind? letter rest

/-- Reads the letters of an argument, with the arguments after it; the answer is what is left. -/
def takeLetters (known : List Char) :
    List Char → List (List Char) → List OptionGiven →
      Running (List OptionGiven × List (List Char))
  | [], operands, given => pure (given, operands)
  | letter :: letters, operands, given => do
      match optionKind? letter known with
      | none => fault (chars "Illegal option -" ++ [letter])
      | some false => takeLetters known letters operands (⟨letter, []⟩ :: given)
      | some true =>
          if !letters.isEmpty then
            pure (⟨letter, letters⟩ :: given, operands)
          else
            match operands with
            | argument :: operands => pure (⟨letter, argument⟩ :: given, operands)
            | [] => fault (chars "No arg for -" ++ [letter] ++ chars " option")

/-- Reads the options of some arguments; the answer has the options and the operands. -/
def takeOptionsFrom (known : List Char) :
    Nat → List (List Char) → List OptionGiven → Running (List OptionGiven × List (List Char))
  | 0, arguments, given => pure (given.reverse, arguments)
  | fuel + 1, arguments, given => do
      match arguments with
      | ('-' :: letter :: letters) :: operands =>
          if letter = '-' && letters.isEmpty then
            pure (given.reverse, operands)
          else
            let (given, operands) ← takeLetters known (letter :: letters) operands given
            takeOptionsFrom known fuel operands given
      | _ => pure (given.reverse, arguments)

/-- Reads the options that a command knows. -/
def takeOptions (known : String) (arguments : List (List Char)) :
    Running (List OptionGiven × List (List Char)) :=
  takeOptionsFrom known.toList (arguments.length + 1) arguments []

end Running

end Shell

end Cadence
