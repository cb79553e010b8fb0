import Cadence.Shell.Grammar

namespace Cadence

namespace Shell

/-!
# Reading commands

The text of a command is read character by character.  An alias is replaced
while it is read: its text is put in front of what follows, and while that text
is being read the alias is not replaced again.  After the text of an alias that
ends in a blank, the next word may be an alias too.
-/

/-- A word that is special where a command begins. -/
inductive Keyword
  | bang
  | case
  | do
  | done
  | elif
  | else
  | esac
  | fi
  | for
  | if
  | in
  | then
  | until
  | while
  | openBrace
  | closeBrace
  deriving DecidableEq, Repr

namespace Keyword

/-- The keywords as they are written. -/
def texts : List (String × Keyword) :=
  [("!", .bang), ("case", .case), ("do", .do), ("done", .done), ("elif", .elif),
    ("else", .else), ("esac", .esac), ("fi", .fi), ("for", .for), ("if", .if), ("in", .in),
    ("then", .then), ("until", .until), ("while", .while), ("\x7b", .openBrace),
    ("\x7d", .closeBrace)]

/-- The keyword of a text. -/
def ofText? (text : List Char) : Option Keyword :=
  (texts.find? fun entry => entry.1.toList = text).map Prod.snd

/-- How a keyword is written. -/
def text (keyword : Keyword) : String :=
  ((texts.find? fun entry => entry.2 = keyword).map Prod.fst).getD ""

end Keyword

/-- A token. -/
inductive Token
  | stop
  | newline
  | semicolon
  | ampersand
  | andIf
  | orIf
  | pipe
  | openParen
  | closeParen
  | endCase
  | word
  | redirection
  | keyword (keyword : Keyword)
  deriving DecidableEq, Repr

namespace Token

/-- How a message calls a token. -/
def describe : Token → String
  | stop => "end of file"
  | newline => "newline"
  | semicolon => "\";\""
  | ampersand => "\"&\""
  | andIf => "\"&&\""
  | orIf => "\"||\""
  | pipe => "\"|\""
  | openParen => "\"(\""
  | closeParen => "\")\""
  | endCase => "\";;\""
  | word => "word"
  | redirection => "redirection"
  | keyword special => "\"" ++ special.text ++ "\""

/-- Whether a token ends a list of commands. -/
def endsList : Token → Bool
  | stop | closeParen | endCase => true
  | keyword special =>
      match special with
      | .do | .done | .elif | .else | .esac | .fi | .then | .closeBrace => true
      | _ => false
  | _ => false

end Token

/-- What is looked for when the next token is read. -/
structure Checks where
  /-- Newlines are skipped. -/
  newlines : Bool := false
  keywords : Bool := false
  aliases : Bool := false
  /-- The next word ends a document, and nothing is expanded in it. -/
  endMark : Bool := false
  deriving DecidableEq, Repr

/-- A document whose text begins after the end of the line. -/
structure PendingDocument where
  number : Nat
  mark : List Char
  stripsTabs : Bool
  isExpanded : Bool

/-- An alias whose text is being read: its name, how much is left to read when its text ends, and
whether the text ends in a blank. -/
structure AliasInUse where
  name : List Char
  remainder : Nat
  endsInBlank : Bool
  isRead : Bool := false

/-- A redirection whose operand has not been read. -/
inductive RedirectionStart
  | file (opening : Opening)
  | copy
  | document (stripsTabs : Bool)
  deriving DecidableEq, Repr

/-- Where reading stands. -/
structure Reader where
  input : List Char
  /-- How many characters are left. -/
  remaining : Nat
  line : Nat := 1
  aliasesInUse : List AliasInUse := []
  aliases : List (List Char × List Char) := []
  isPushedBack : Bool := false
  token : Token := .newline
  checks : Checks := {}
  word : Word := []
  isQuoted : Bool := false
  /-- The descriptor and the kind of the redirection that has been read. -/
  redirection : Nat × RedirectionStart := (0, .copy)
  pending : List PendingDocument := []
  documents : Array Word := #[]

/-- Why a text is no command. -/
structure GrammarError where
  message : String
  line : Nat
  deriving Repr

/-- A step of reading. -/
abbrev Reading := EStateM GrammarError Reader

namespace Reading

/-- The reader of a text. -/
def ofText (text : List Char) (aliases : List (List Char × List Char)) (documents : Array Word) :
    Reader :=
  { input := text, remaining := text.length, aliases := aliases, documents := documents }

/-- Fails with a message. -/
def fail {α : Type} (message : String) : Reading α := do
  throw ⟨message, (← get).line⟩

/-- Ends the aliases whose text has been read; they stay in use until the next character. -/
def endAliases (reader : Reader) : Reader :=
  let open_ := reader.aliasesInUse.filter fun used => !used.isRead
  let ends := fun used : AliasInUse => reader.remaining ≤ used.remainder
  let mayFollow := open_.any fun used => ends used && used.endsInBlank
  { reader with
    aliasesInUse := open_.map fun used => if ends used then { used with isRead := true } else used
    checks :=
      if mayFollow then { reader.checks with aliases := true } else reader.checks }

/-- Reads the next character; none at the end. -/
def next : Reading (Option Char) := do
  let reader ← get
  let reader := if reader.aliasesInUse.isEmpty then reader else endAliases reader
  match reader.input with
  | [] =>
      set reader
      pure none
  | c :: rest =>
      set { reader with
            input := rest
            remaining := reader.remaining - 1
            line := if c = '\n' then reader.line + 1 else reader.line }
      pure (some c)

/-- Takes the reading of a character back. -/
def unread (c : Option Char) : Reading Unit :=
  match c with
  | none => pure ()
  | some c =>
      modify fun reader =>
        { reader with
          input := c :: reader.input
          remaining := reader.remaining + 1
          line := if c = '\n' then reader.line - 1 else reader.line }

/-- The characters at the front of the input. -/
def startsWith (text : List Char) : Reading Bool := do
  pure (text.isPrefixOf (← get).input)

/-- Drops characters from the input. -/
def drop (count : Nat) : Reading Unit :=
  modify fun reader =>
    let passed := reader.input.take count
    { reader with
      input := reader.input.drop count
      remaining := reader.remaining - passed.length
      line := reader.line + passed.count '\n' }

/-- Joins lines: drops backslashes at the ends of lines in front of the input. -/
def joinLines : Nat → Reading Unit
  | 0 => pure ()
  | fuel + 1 => do
      if ← startsWith ['\\', '\n'] then
        drop 2
        joinLines fuel

/-- Reads the next character, with lines joined. -/
def nextJoined : Reading (Option Char) := do
  match ← next with
  | some '\\' =>
      if (← get).input.head? = some '\n' then
        drop 1
        joinLines (← get).remaining
        next
      else
        pure (some '\\')
  | c => pure c

/-- Puts the text of an alias in front of the input. -/
def useAlias (name text : List Char) : Reading Unit :=
  modify fun reader =>
    { reader with
      input := text ++ reader.input
      remaining := reader.remaining + text.length
      aliasesInUse :=
        { name := name
          remainder := reader.remaining
          endsInBlank := text.getLast? = some ' ' || text.getLast? = some '\t' } ::
          reader.aliasesInUse }

/-- The text of an alias that is not in use. -/
def alias? (name : List Char) : Reading (Option (List Char)) := do
  let reader ← get
  if reader.aliasesInUse.any fun used => used.name = name then
    pure none
  else
    pure (reader.aliases.lookup name)

end Reading

end Shell

end Cadence
