namespace Cadence

namespace Shell

/-!
# The grammar of commands

A word is a list of pieces that are expanded when its command is run.  A command
is built from simple commands by pipes, lists and the compound commands, each
with its redirections.  Texts are lists of bytes.
-/

/-- What is done with the value of a parameter.  Where a Boolean says so, an empty value counts as
no value. -/
inductive Operation
  | value
  | length
  | orElse (emptyToo : Bool)
  | ifSet (emptyToo : Bool)
  | orFail (emptyToo : Bool)
  | orAssign (emptyToo : Bool)
  /-- Cuts off the shortest or the longest part that matches a pattern. -/
  | cutStart (isLongest : Bool)
  | cutEnd (isLongest : Bool)
  /-- No operation has been recognised. -/
  | unknown (emptyToo : Bool)
  deriving DecidableEq, Repr

/-- How a redirection opens a file. -/
inductive Opening
  | input
  /-- Output to a file, which is emptied. -/
  | output
  /-- Output to a file that may exist even if files are protected. -/
  | forced
  | append
  | both
  deriving DecidableEq, Repr

mutual

/-- A piece of a word. -/
inductive Piece
  /-- A character; quoted ones stand for themselves. -/
  | char (c : Char) (isQuoted : Bool)
  /-- A quotation mark: a word with marks is never dropped when it is empty. -/
  | mark
  | parameter (name : List Char) (operation : Operation) (word : List Piece)
  | arithmetic (expression : List Piece)
  | substitution (command : Option Command)

/-- A redirection of a descriptor. -/
inductive Redirection
  | file (descriptor : Nat) (opening : Opening) (path : List Piece)
  /-- Makes a descriptor stand for what another one stands for, or closes it. -/
  | copy (descriptor : Nat) (source : Option Nat)
  /-- A copy whose source is known after an expansion. -/
  | namedCopy (descriptor : Nat) (source : List Piece)
  /-- Input from the document of a number in the list of documents. -/
  | document (descriptor : Nat) (number : Nat) (isExpanded : Bool)

/-- A command. -/
inductive Command
  /-- The command of a line. -/
  | simple (line : Nat) (assignments words : List (List Piece))
    (redirections : List Redirection)
  | pipeline (commands : List Command) (inBackground : Bool)
  | redirected (body : Command) (redirections : List Redirection)
  | background (body : Command) (redirections : List Redirection)
  | subshell (body : Command) (redirections : List Redirection)
  | sequence (first second : Command)
  | both (first second : Command)
  | either (first second : Command)
  | not (body : Command)
  | condition (test consequence : Command) (alternative : Option Command)
  | loop (isUntil : Bool) (test body : Command)
  | forEach (name : List Char) (words : List (List Piece)) (body : Command)
  | choice (subject : List Piece) (branches : List (List (List Piece) × Option Command))
  | function (name : List Char) (body : Command)

end

/-- A word: the pieces of one argument. -/
abbrev Word := List Piece

namespace Word

/-- The text of a word that holds nothing but unquoted characters. -/
def plain? : Word → Option (List Char)
  | [] => some []
  | .char c false :: rest => (plain? rest).map (c :: ·)
  | _ => none

/-- The characters of a word, without its marks. -/
def characters (word : Word) : List Char :=
  word.filterMap fun piece =>
    match piece with
    | .char c _ => some c
    | _ => none

/-- The word of a text in which nothing is special. -/
def ofText (text : List Char) : Word :=
  text.map fun c => .char c true

end Word

/-- Whether a character may begin a name. -/
def isNameStart (c : Char) : Bool :=
  c.isAlpha || c = '_'

/-- Whether a character may stand in a name. -/
def isNamePart (c : Char) : Bool :=
  c.isAlphanum || c = '_'

/-- Whether a text is a name. -/
def isName : List Char → Bool
  | [] => false
  | c :: rest => isNameStart c && rest.all isNamePart

/-- The name that a word assigns to, if it is an assignment. -/
def Word.assigned? (word : Word) : Option (List Char) :=
  let rec go (name : List Char) : Word → Option (List Char)
    | .char '=' false :: _ =>
        if isName name.reverse then some name.reverse else none
    | .char c false :: rest => if isNamePart c then go (c :: name) rest else none
    | _ => none
  go [] word

end Shell

end Cadence
