import Cadence.Shell.Scanner

namespace Cadence

namespace Shell

/-!
# Commands from tokens

One complete line of commands is read at a time, so that what a line does can
change how the next one is read.
-/

/-- What is to be read. -/
inductive Goal
  /-- One line of commands. -/
  | line
  /-- The commands within a compound command; there is at least one. -/
  | block
  /-- Commands of which there may be none. -/
  | commands
  /-- A single command. -/
  | command
  deriving DecidableEq, Repr

/-- The built-in commands whose errors end the shell, and whose names no function may have. -/
def specialCommands : List String :=
  [".", ":", "break", "continue", "eval", "exec", "exit", "export", "local", "readonly",
    "return", "set", "shift", "times", "trap", "unset"]

/-- Whether a text is the name of a special command. -/
def isSpecialCommand (name : List Char) : Bool :=
  specialCommands.any fun special => special.toList = name

namespace Reading

/-- How the parts of a command are read. -/
abbrev Reader? := Goal → Reading (Option Command)

/-- Reads a token. -/
def take (read : Reader?) : Reading Token :=
  token (read .commands)

/-- What is looked for where a command begins. -/
def commandChecks : Checks := { keywords := true, aliases := true }

/-- What is looked for where a command begins, possibly on a later line. -/
def laterChecks : Checks := { newlines := true, keywords := true, aliases := true }

/-- Reads a token that must be of a kind. -/
def expect (read : Reader?) (wanted : Token) : Reading Unit := do
  let _ ← take read
  expectLast wanted

/-- Reads commands that are put together; nothing at all stands for the command that succeeds. -/
def block (read : Reader?) : Reading Command := do
  pure ((← read .block).getD (.simple (← get).line [] [] []))

/-- The number of a descriptor that a copy names by one digit. -/
def copyOf (descriptor : Nat) (word : Word) : Redirection :=
  match word with
  | [.char c false] =>
      if c.isDigit then
        .copy descriptor (some (c.toNat - '0'.toNat))
      else if c = '-' then
        .copy descriptor none
      else
        .namedCopy descriptor word
  | _ => .namedCopy descriptor word

/-- Reads the operand of the redirection whose start has just been read. -/
def redirection (read : Reader?) : Reading Redirection := do
  let (descriptor, start) := (← get).redirection
  match start with
  | .document stripsTabs =>
      check { endMark := true }
      if (← take read) ≠ .word then
        unexpected none
      let reader ← get
      let number := reader.documents.size
      let pending : PendingDocument :=
        ⟨number, Word.characters reader.word, stripsTabs, !reader.isQuoted⟩
      modify fun reader =>
        { reader with
          documents := reader.documents.push []
          pending := reader.pending ++ [pending] }
      pure (.document descriptor number !reader.isQuoted)
  | .file opening =>
      if (← take read) ≠ .word then
        unexpected none
      pure (.file descriptor opening (← get).word)
  | .copy =>
      if (← take read) ≠ .word then
        unexpected none
      pure (copyOf descriptor (← get).word)

/-- Reads the redirections after a compound command. -/
def redirections (read : Reader?) : Nat → List Redirection → Reading (List Redirection)
  | 0, done => pure done.reverse
  | fuel + 1, done => do
      if done.isEmpty then
        check commandChecks
      match ← take read with
      | .redirection => redirections read fuel ((← redirection read) :: done)
      | _ =>
          pushBack
          pure done.reverse

/-- The parts of a simple command that have been read, in reverse. -/
structure SimpleParts where
  line : Nat
  assignments : List Word := []
  words : List Word := []
  redirections : List Redirection := []

/-- The simple command of its parts. -/
def SimpleParts.command (parts : SimpleParts) : Command :=
  .simple parts.line parts.assignments.reverse parts.words.reverse parts.redirections.reverse

/-- Reads the definition of a function after its name and its opening parenthesis. -/
def functionDefinition (read : Reader?) (word : Word) : Reading Command := do
  expect read .closeParen
  match Word.plain? word with
  | none => fail "Bad function name"
  | some name =>
      if !isName name || isSpecialCommand name then
        fail "Bad function name"
      else
        check laterChecks
        let body ← read .command
        pure (.function name (body.getD (.simple (← get).line [] [] [])))

/-- Reads a simple command, or the definition of a function. -/
def simpleCommand (read : Reader?) : Nat → SimpleParts → Reading Command
  | 0, parts => pure parts.command
  | fuel + 1, parts => do
      let mayAssign := parts.words.isEmpty
      check { aliases := mayAssign }
      match ← take read with
      | .word =>
          let word := (← get).word
          if mayAssign && (Word.assigned? word).isSome then
            simpleCommand read fuel { parts with assignments := word :: parts.assignments }
          else
            simpleCommand read fuel { parts with words := word :: parts.words }
      | .redirection =>
          let redirection ← redirection read
          simpleCommand read fuel
            { parts with redirections := redirection :: parts.redirections }
      | .openParen =>
          match parts with
          | ⟨_, [], [word], []⟩ => functionDefinition read word
          | _ =>
              pushBack
              pure parts.command
      | _ =>
          pushBack
          pure parts.command

/-- Reads the words of a `for` command. -/
def words (read : Reader?) : Nat → List Word → Reading (List Word)
  | 0, done => pure done.reverse
  | fuel + 1, done => do
      match ← take read with
      | .word => words read fuel ((← get).word :: done)
      | _ => pure done.reverse

/-- Reads the patterns of a branch, up to the closing parenthesis.  A token that is no word stands
for the last word. -/
def patterns (read : Reader?) : Nat → List Word → Reading (List Word)
  | 0, done => pure done.reverse
  | fuel + 1, done => do
      let word := (← get).word
      match ← take read with
      | .pipe =>
          let _ ← take read
          patterns read fuel (word :: done)
      | _ =>
          expectLast .closeParen
          pure (word :: done).reverse

/-- Reads the branches of a `case` command, up to its end. -/
def branches (read : Reader?) :
    Nat → List (List Word × Option Command) → Reading (List (List Word × Option Command))
  | 0, done => pure done.reverse
  | fuel + 1, done => do
      check { newlines := true, keywords := true }
      let first ← take read
      if first = .keyword .esac then
        pure done.reverse
      else
        if first = .openParen then
          let _ ← take read
        let patterns ← patterns read patience []
        let body ← read .commands
        let branch := (patterns, body)
        check { newlines := true, keywords := true }
        let last ← take read
        if last = .keyword .esac then
          pure (branch :: done).reverse
        else if last = .endCase then
          branches read fuel (branch :: done)
        else
          unexpected (some .endCase)

/-- Reads what follows the test of an `if` command. -/
def conditionRest (read : Reader?) : Nat → Command → Reading Command
  | 0, test => pure test
  | fuel + 1, test => do
      expect read (.keyword .then)
      let consequence ← block read
      match ← take read with
      | .keyword .elif =>
          let rest ← conditionRest read fuel (← block read)
          pure (.condition test consequence (some rest))
      | .keyword .else =>
          let alternative ← block read
          pure (.condition test consequence (some alternative))
      | _ =>
          pushBack
          pure (.condition test consequence none)

/-- The word for all arguments. -/
def allArguments : Word :=
  [.mark, .parameter ['@'] .value [], .mark]

/-- Reads a `for` command after its first word. -/
def forCommand (read : Reader?) : Reading Command := do
  let first ← take read
  let reader ← get
  match if first = .word && !reader.isQuoted then Word.plain? reader.word else none with
  | none => fail "Bad for loop variable"
  | some name =>
      if !isName name then
        fail "Bad for loop variable"
      check laterChecks
      let next ← take read
      let list : List Word ←
        if next = .keyword .in then do
          let list ← words read patience []
          let last := (← get).token
          if last ≠ .newline && last ≠ .semicolon then
            unexpected none
          pure list
        else do
          if next ≠ .semicolon then
            pushBack
          pure [allArguments]
      check laterChecks
      expect read (.keyword .do)
      let body ← block read
      expect read (.keyword .done)
      pure (.forEach name list body)

/-- Reads a `case` command after its first word. -/
def caseCommand (read : Reader?) : Reading Command := do
  expect read .word
  let subject := (← get).word
  check laterChecks
  expect read (.keyword .in)
  pure (.choice subject (← branches read patience []))

/-- Reads a command. -/
def command (read : Reader?) : Reading Command := do
  let first ← take read
  let compound : Option Command ←
    match first with
    | .keyword .if => do
        let whole ← conditionRest read patience (← block read)
        expect read (.keyword .fi)
        pure (some whole)
    | .keyword .while | .keyword .until => do
        let test ← block read
        expect read (.keyword .do)
        let body ← block read
        expect read (.keyword .done)
        pure (some (.loop (first = .keyword .until) test body))
    | .keyword .for => some <$> forCommand read
    | .keyword .case => some <$> caseCommand read
    | .openParen => do
        let body ← block read
        expect read .closeParen
        pure (some (.subshell body []))
    | .keyword .openBrace => do
        let body ← block read
        expect read (.keyword .closeBrace)
        pure (some body)
    | .word | .redirection => pure none
    | _ => unexpected none
  match compound with
  | none =>
      pushBack
      simpleCommand read patience { line := (← get).line }
  | some body =>
      match ← redirections read patience [] with
      | [] => pure body
      | list =>
          match body with
          | .subshell body _ => pure (.subshell body list)
          | body => pure (.redirected body list)

/-- Reads the commands after a pipe sign. -/
def piped (read : Reader?) : Nat → List Command → Reading (List Command)
  | 0, done => pure done.reverse
  | fuel + 1, done => do
      check laterChecks
      let next ← command read
      match ← take read with
      | .pipe => piped read fuel (next :: done)
      | _ =>
          pushBack
          pure (next :: done).reverse

/-- Reads a pipeline. -/
def pipeline (read : Reader?) : Reading Command := do
  let isNegated ← do
    match ← take read with
    | .keyword .bang =>
        check commandChecks
        pure true
    | _ =>
        pushBack
        pure false
  let first ← command read
  let whole ←
    match ← take read with
    | .pipe => do
        let others ← piped read patience []
        pure (.pipeline (first :: others) false)
    | _ => do
        pushBack
        pure first
  pure (if isNegated then .not whole else whole)

/-- Reads the pipelines after the first one of a list of them. -/
def pipelinesAfter (read : Reader?) : Nat → Command → Reading Command
  | 0, done => pure done
  | fuel + 1, done => do
      match ← take read with
      | .andIf =>
          check laterChecks
          pipelinesAfter read fuel (.both done (← pipeline read))
      | .orIf =>
          check laterChecks
          pipelinesAfter read fuel (.either done (← pipeline read))
      | _ =>
          pushBack
          pure done

/-- A command that is run in the background. -/
def inBackground : Command → Command
  | .pipeline commands _ => .pipeline commands true
  | .redirected body redirections => .background body redirections
  | body => .background body []

/-- A command after another one. -/
def after (done : Option Command) (next : Command) : Command :=
  match done with
  | none => next
  | some done => .sequence done next

/-- Reads a list of commands. -/
def list (read : Reader?) (goal : Goal) : Nat → Option Command → Reading (Option Command)
  | 0, done => pure done
  | fuel + 1, done => do
      let isLine := goal = .line
      check { commandChecks with newlines := !isLine }
      let first ← take read
      if first = .newline then
        readDocuments (read .commands)
        pure done
      else if first = .stop then
        readDocuments (read .commands)
        pushBack
        modify fun reader => { reader with token := .stop }
        pure done
      else
        pushBack
        if !isLine && (goal = .commands || done.isSome) && first.endsList then
          pure done
        else
          let next ← pipelinesAfter read patience (← pipeline read)
          match ← take read with
          | .ampersand => list read goal fuel (some (after done (inBackground next)))
          | .semicolon => list read goal fuel (some (after done next))
          | .newline =>
              pushBack
              list read goal fuel (some (after done next))
          | .stop =>
              readDocuments (read .commands)
              pushBack
              modify fun reader => { reader with token := .stop }
              pure (some (after done next))
          | _ =>
              if isLine then
                unexpected none
              pushBack
              pure (some (after done next))

/-- Reads what is to be read, with parts nested at most so deeply. -/
def parse : Nat → Goal → Reading (Option Command)
  | 0, _ => fail "Too deeply nested"
  | depth + 1, goal =>
      match goal with
      | .command => some <$> command (parse depth)
      | goal => list (parse depth) goal patience none

end Reading

/-- A line that has been read: its command, if it has one, and whether the text ends with it. -/
structure Line where
  command : Option Command
  isLast : Bool

/-- How deeply commands may be nested. -/
def deepest : Nat := Nat.pow 2 20

/-- Reads the next line of commands; none at the end of the text. -/
def Reader.line? (reader : Reader) : Except GrammarError (Option Line × Reader) :=
  let fresh : Reader := { reader with isPushedBack := false, checks := {}, pending := [] }
  match (Reading.parse deepest .line).run fresh with
  | .error fault _ => .error fault
  | .ok command rest =>
      let atEnd := rest.isPushedBack && rest.token = .stop
      if atEnd && command.isNone then
        .ok (none, rest)
      else
        .ok (some ⟨command, atEnd⟩, rest)

/-- The word of a text in which expansions are written as in a document.  Its end is marked by a
line that no text has. -/
def documentWord? (text : List Char) : Option Word :=
  let reader := Reading.ofText text [] #[[]]
  let document : PendingDocument := ⟨0, ['\n'], false, true⟩
  match (Reading.readDocument (Reading.parse deepest .commands) document).run reader with
  | .error _ _ => none
  | .ok _ rest => rest.documents[0]?

end Shell

end Cadence
