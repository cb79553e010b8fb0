import Cadence.Tool.Duration

namespace Cadence

namespace Tool

open Host

/-!
# Tools that run other programs

They change what a program is given, bound its time, or run it again and again,
and end with its status.
-/

/-- The directories in which programs are looked for. -/
def directoriesOf (surroundings : Surroundings) : List Bytes :=
  match surroundings.lookup (chars "PATH") with
  | none => [chars "/bin", chars "/usr/bin"]
  | some path => path.splitOn ':'

/-- Tries to become a program in one of some directories. -/
def tryDirectories (launch : Launch) (invocation : Invocation) : Errno → List Bytes → Job Errno
  | refusal, [] => pure refusal
  | refusal, directory :: rest => do
      let path :=
        if directory.isEmpty then invocation.path else directory ++ '/' :: invocation.path
      let errno ← launch { invocation with path := path }
      let isMissing := errno = .noEntry || errno = .notDirectory
      tryDirectories launch invocation (if isMissing then refusal else errno) rest

/-- Becomes the program that the first of some words names; goes on only if that is refused. -/
def become (launch : Launch) (words : List Bytes) (surroundings : Surroundings) : Job Errno := do
  let name := words.headD []
  let invocation : Invocation := ⟨name, words, surroundings⟩
  if name.contains '/' then
    launch invocation
  else if name.isEmpty then
    pure .noEntry
  else
    tryDirectories launch invocation .noEntry (directoriesOf surroundings)

/-- The status when a program cannot be started. -/
def refusalStatus (errno : Errno) : Nat :=
  if errno = .noEntry then 127 else 126

/-- Becomes a program, or complains that this is refused. -/
def becomeOr (given : Given) (front : String) (words : List Bytes)
    (surroundings : Surroundings) : Job Nat := do
  let errno ← become given.launch words surroundings
  complain given (chars front ++ '\'' :: words.headD [] ++ chars "': " ++ errno.text)
  pure (refusalStatus errno)

/-- Runs a program with changed surroundings, or shows them. -/
def env (given : Given) : Job Nat :=
  let known : List Known :=
    [{ letter := 'i', name := "ignore-environment" }, { letter := '0', name := "null" },
      { letter := 'u', name := "unset", takesArgument := true },
      { letter := 'C', name := "chdir", takesArgument := true },
      { letter := 'S', name := "split-string", takesArgument := true },
      { letter := 'v', name := "debug" }]
  withChoices given known true 125 fun choices => do
    let (isBare, operands) : Bool × List Bytes :=
      match choices.operands with
      | ['-'] :: rest => (true, rest)
      | operands => (choices.has 'i', operands)
    let split := (choices.arguments 'S').flatMap fun text =>
      (text.splitOn ' ').filter fun word => !word.isEmpty
    let words := split ++ operands
    let kept := if isBare then [] else given.surroundings.filter fun entry =>
      !(choices.arguments 'u').contains entry.1
    let settings := words.takeWhile fun word => word.contains '='
    let changed := settings.foldl
      (fun surroundings word =>
        let name := word.takeWhile (· ≠ '=')
        let others := surroundings.filter fun entry => entry.1 ≠ name
        others ++ [(name, word.drop (name.length + 1))])
      kept
    let moved : Except Errno Unit ←
      match choices.argument? 'C' with
      | none => pure (.ok ())
      | some path => Job.ask (.changeDirectory path)
    match moved with
    | .error errno =>
        refuse given 125
          (chars "cannot change directory to '" ++ (choices.argument? 'C').getD [] ++ chars "': " ++
            errno.text)
    | .ok _ =>
        match words.drop settings.length with
        | [] =>
            let stop := if choices.has '0' then Char.ofNat 0 else '\n'
            finishWith given 0 125
              (changed.flatMap fun entry => entry.1 ++ '=' :: entry.2 ++ [stop])
        | words => becomeOr given "" words changed

/-- Shows some of the surroundings, or all. -/
def printenv (given : Given) : Job Nat :=
  withChoices given [{ letter := '0', name := "null" }] false 2 fun choices => do
    let stop := if choices.has '0' then Char.ofNat 0 else '\n'
    if choices.operands.isEmpty then
      finishWith given 0 2
        (given.surroundings.flatMap fun entry => entry.1 ++ '=' :: entry.2 ++ [stop])
    else
      let found := choices.operands.filterMap fun name => given.surroundings.lookup name
      finishWith given (if found.length = choices.operands.length then 0 else 1) 2
        (found.flatMap fun value => value ++ [stop])

/-- Waits for a while. -/
def sleep (given : Given) : Job Nat :=
  withChoices given [] false 1 fun choices => do
    if choices.operands.isEmpty then
      misuse given 1 (chars "missing operand")
    else
      match choices.operands.find? fun text => (Duration.ofText? text).isNone with
      | some text => misuse given 1 (chars "invalid time interval '" ++ text ++ ['\''])
      | none =>
          let total := sumOf (choices.operands.filterMap Duration.ofText?)
          let now ← Job.ask .clock
          let _ ← Job.ask (.sleepUntil (now + total))
          pure 0

/-- The signal that a text names or numbers. -/
def signal? (text : Bytes) : Option Signal :=
  match number? text with
  | some number => if number ≤ Signal.last then some number else none
  | none =>
      let name := text.map Char.toUpper
      let short := if (chars "SIG").isPrefixOf name then name.drop 3 else name
      Signal.ofName? (String.ofList short)

/-- Ends by a signal. -/
def endBy (signal : Signal) : Job Nat := do
  let identity ← Job.ask .identity
  let _ ← Job.ask (.setDisposition signal .default)
  let _ ← Job.ask (.kill identity.process signal)
  pure (128 + signal)

/-- Sends a signal to a child and to the group of the tool, which ignores it. -/
def sendAll (child : Nat) (signal : Signal) (isForeground : Bool) : Job Unit := do
  let send (signal : Signal) : Job Unit := do
    let _ ← Job.ask (.kill child signal)
    if !isForeground then
      let _ ← Job.ask (.setDisposition signal .ignored)
      let _ ← Job.ask (.kill 0 signal)
  send signal
  if signal ≠ Signal.kill && signal ≠ Signal.resume then
    let _ ← Job.ask (.kill child Signal.resume)
    if !isForeground then
      let _ ← Job.ask (.kill 0 Signal.resume)

/-- How a bounded program is ended. -/
structure Bound where
  signal : Signal
  /-- How long after the signal the program is killed. -/
  grace : Option Nat
  keepsStatus : Bool
  isForeground : Bool

/-- Waits for a child until a time, and then until it has been ended. -/
def awaitBounded (bound : Bound) (child : Nat) :
    Nat → Option Nat → Signal → Option Nat → Bool → Job Nat
  | 0, _, _, _, _ => pure 124
  | fuel + 1, deadline, signal, grace, isLate => do
      match ← Job.ask (.wait (some child) deadline false) with
      | .timedOut => do
          sendAll child signal bound.isForeground
          let now ← Job.ask .clock
          let next := grace.map fun grace => now + grace
          awaitBounded bound child fuel next Signal.kill none true
      | .ended _ ending =>
          match ending with
          | .exited status =>
              pure (if isLate && !bound.keepsStatus then 124 else status)
          | .killed signal =>
              if !isLate then
                endBy signal
              else
                pure (if signal = Signal.kill || bound.keepsStatus then 128 + signal else 124)
      | _ => pure 125

/-- Runs a program for a bounded time. -/
def timeout (given : Given) : Job Nat :=
  let known : List Known :=
    [{ letter := 'k', name := "kill-after", takesArgument := true },
      { letter := 's', name := "signal", takesArgument := true },
      { letter := 'v', name := "verbose" }, { letter := 'p', name := "preserve-status" },
      { letter := 'f', name := "foreground" }]
  withChoices given known true 125 fun choices => do
    let grace := (choices.argument? 'k').map Duration.ofText?
    let signal := ((choices.argument? 's').map signal?).getD (some Signal.terminate)
    match choices.operands with
    | time :: words =>
        match words.isEmpty, Duration.ofText? time, signal, grace with
        | true, _, _, _ =>
            misuse given 125 (chars "missing operand")
        | _, _, none, _ =>
            refuse given 125
              ('\'' :: (choices.argument? 's').getD [] ++ chars "': invalid signal")
        | _, none, _, _ | _, _, _, some none =>
            misuse given 125 (chars "invalid time interval '" ++ time ++ ['\''])
        | false, some time, some signal, grace => do
            let bound : Bound :=
              { signal := signal
                grace := grace.join
                keepsStatus := choices.has 'p'
                isForeground := choices.has 'f' }
            if !bound.isForeground then
              Job.ask .leadGroup
            let child ← Job.fork (becomeOr given "failed to run command " words given.surroundings)
            let now ← Job.ask .clock
            awaitBounded bound child 4 (if time = 0 then none else some (now + time)) signal
              bound.grace false
    | [] => misuse given 125 (chars "missing operand")

/-- Runs a program that does not mind when its terminal goes away. -/
def nohup (given : Given) : Job Nat :=
  withChoices given [] true 125 fun choices => do
    match choices.operands with
    | [] => misuse given 125 (chars "missing operand")
    | words => do
        let _ ← Job.ask (.setDisposition Signal.hangUp .ignored)
        becomeOr given "failed to run command " words given.surroundings

/-- Runs a program with less urgency, which nobody notices here. -/
def nice (given : Given) : Job Nat :=
  let arguments := given.arguments.map fun argument =>
    match argument with
    | '-' :: c :: rest => if c.isDigit then chars "-n" ++ c :: rest else argument
    | argument => argument
  withChoices { given with arguments := arguments }
      [{ letter := 'n', name := "adjustment", takesArgument := true }] true 125 fun choices => do
    match (choices.arguments 'n').find? fun text => (integer? text).isNone with
    | some text => refuse given 125 (chars "invalid adjustment '" ++ text ++ ['\''])
    | none =>
        match choices.operands with
        | [] =>
            if choices.has 'n' then
              refuse given 125 (chars "a command must be given with an adjustment")
            else
              finish given 0 (chars "0\n")
        | words => becomeOr given "" words given.surroundings

/-- Runs a program in a group of its own. -/
def setsid (given : Given) : Job Nat :=
  withChoices given (switches "wfc") true 1 fun choices => do
    match choices.operands with
    | [] => refuse given 1 (chars "no command specified")
    | words => do
        Job.ask .leadGroup
        let errno ← become given.launch words given.surroundings
        complain given (chars "failed to execute " ++ words.headD [] ++ chars ": " ++ errno.text)
        pure (refusalStatus errno)

/-- Runs a program whose output is not held back. -/
def stdbuf (given : Given) : Job Nat :=
  let known := ['i', 'o', 'e'].map fun letter => { letter := letter, takesArgument := true }
  withChoices given known true 125 fun choices => do
    match choices.operands with
    | [] => misuse given 125 (chars "missing operand")
    | words => becomeOr given "failed to run command " words given.surroundings

/-- A word of a text that is split at blanks, with what is left; quotes keep blanks. -/
structure WordRead where
  word : Bytes := []
  hasStarted : Bool := false
  quote : Option Char := none
  isEscaped : Bool := false

/-- The words of a text, in lines.  An open quote is an error. -/
def wordsFrom (line : List Bytes) (read : WordRead) (ended : List (List Bytes)) :
    Bytes → Except Char (List (List Bytes))
  | [] =>
      match read.quote with
      | some quote => .error quote
      | none =>
          let line := if read.hasStarted then read.word.reverse :: line else line
          let ended := if line.isEmpty then ended else line.reverse :: ended
          .ok ended.reverse
  | c :: rest =>
      if read.isEscaped then
        wordsFrom line { read with word := c :: read.word, isEscaped := false } ended rest
      else
        match read.quote with
        | some quote =>
            if c = quote then
              wordsFrom line { read with quote := none } ended rest
            else if c = '\n' then
              .error quote
            else
              wordsFrom line { read with word := c :: read.word } ended rest
        | none =>
            if c = '\'' || c = '"' then
              wordsFrom line { read with quote := some c, hasStarted := true } ended rest
            else if c = '\\' then
              wordsFrom line { read with isEscaped := true, hasStarted := true } ended rest
            else if c = ' ' || c = '\t' || c = '\n' then
              let line := if read.hasStarted then read.word.reverse :: line else line
              if c = '\n' && !line.isEmpty then
                wordsFrom [] {} (line.reverse :: ended) rest
              else
                wordsFrom line {} ended rest
            else
              wordsFrom line { read with word := c :: read.word, hasStarted := true } ended
                rest

/-- The words of a text, in lines. -/
def wordLines (text : Bytes) : Except Char (List (List Bytes)) :=
  wordsFrom [] {} [] text

/-- Parts a list into lists of at most so many members and so many bytes. -/
def batches (count bytes : Nat) :
    Nat → Nat → List Bytes → List Bytes → List (List Bytes)
  | _, _, current, [] => if current.isEmpty then [] else [current.reverse]
  | used, size, current, word :: rest =>
      let grown := size + word.length + 1
      if !current.isEmpty && (used = count || bytes < grown) then
        current.reverse :: batches count bytes 1 (word.length + 1) [word] rest
      else
        batches count bytes (used + 1) grown (word :: current) rest

/-- A text with every occurrence of a part replaced.  The first argument bounds its length. -/
def replaceAll (part replacement : Bytes) : Nat → Bytes → Bytes
  | 0, text => text
  | _, [] => []
  | fuel + 1, c :: rest =>
      if !part.isEmpty && part.isPrefixOf (c :: rest) then
        replacement ++ replaceAll part replacement fuel ((c :: rest).drop part.length)
      else
        c :: replaceAll part replacement fuel rest

/-- Runs commands one after the other; the answer is the status of the tool. -/
def runAll (given : Given) (isShown : Bool) : Nat → List (List Bytes) → Job Nat
  | status, [] => pure status
  | status, words :: rest => do
      if isShown then
        let line := [' '].intercalate words ++ ['\n']
        let _ ← writeTo 2 line
      let child ← Job.fork do
        let errno ← become given.launch words given.surroundings
        complain given (words.headD [] ++ chars ": " ++ errno.text)
        pure (refusalStatus errno)
      match ← Job.ask (.wait (some child) none false) with
      | .ended _ (.exited ended) =>
          if ended = 255 then
            refuse given 124 (words.headD [] ++ chars ": exited with status 255; aborting")
          else if ended = 126 || ended = 127 then
            pure ended
          else
            runAll given isShown (if ended = 0 then status else 123) rest
      | .ended _ (.killed signal) =>
          refuse given 125 (words.headD [] ++ chars ": terminated by signal " ++ digits signal)
      | _ => pure 125

/-- The bytes of the arguments of one command. -/
def commandBytes : Nat := 128 * 1024 - 2048

/-- Runs a program with the words of the standard input as its arguments. -/
def xargs (given : Given) : Job Nat :=
  let known : List Known :=
    [{ letter := '0', name := "null" }, { letter := 'r', name := "no-run-if-empty" },
      { letter := 't', name := "verbose" }, { letter := 'x', name := "exit" },
      { letter := 'n', name := "max-args", takesArgument := true },
      { letter := 'L', name := "max-lines", takesArgument := true },
      { letter := 'P', name := "max-procs", takesArgument := true },
      { letter := 's', name := "max-chars", takesArgument := true },
      { letter := 'd', name := "delimiter", takesArgument := true },
      { letter := 'a', name := "arg-file", takesArgument := true },
      { letter := 'I', takesArgument := true }]
  withChoices given known true 1 fun choices => do
    match ← readFile ((choices.argument? 'a').getD ['-']) with
    | .error errno => do
        complain given
          (chars "Cannot open input file '" ++ (choices.argument? 'a').getD [] ++ chars "': " ++
            errno.text)
        pure 1
    | .ok text => do
        let mark : Option Char :=
          if choices.has '0' then some (Char.ofNat 0)
          else (choices.argument? 'd').map fun text =>
            if text = chars "\\n" then '\n'
            else if text = chars "\\t" then '\t'
            else if text = chars "\\0" then Char.ofNat 0
            else text.headD ' '
        let lines : Except Char (List (List Bytes)) :=
          match mark with
          | some mark => .ok ((pieces mark text).map fun piece => [piece])
          | none =>
              if choices.has 'I' then
                let kept := (Tool.lines text).map fun line =>
                  line.dropWhile fun c => c = ' ' || c = '\t'
                .ok ((kept.filter fun line => !line.isEmpty).map fun line => [line])
              else
                wordLines text
        let command := if choices.operands.isEmpty then [chars "echo"] else choices.operands
        let count? (letter : Char) : Option Nat := (choices.argument? letter).bind number?
        match lines with
        | .error quote =>
            let kind := if quote = '"' then "double" else "single"
            refuse given 1
              (chars "unmatched " ++ chars kind ++
                chars (" quote; by default quotes are special to xargs unless you use the -0 " ++
                  "option"))
        | .ok lines =>
            let words := lines.flatten
            let commands : List (List Bytes) :=
              match choices.argument? 'I', count? 'L' with
              | some part, _ =>
                  words.map fun word =>
                    command.map fun argument =>
                      replaceAll part word (argument.length + 1) argument
              | none, some perCommand =>
                  let rec grouped : Nat → List (List Bytes) → List (List Bytes)
                    | 0, _ => []
                    | _, [] => []
                    | fuel + 1, lines =>
                        (command ++ (lines.take (max perCommand 1)).flatten) ::
                          grouped fuel (lines.drop (max perCommand 1))
                  grouped (lines.length + 1) lines
              | none, none =>
                  let count := (count? 'n').getD patience
                  let size := sumOf (command.map fun argument => argument.length + 1)
                  let parts := batches count (commandBytes - size) 0 0 [] words
                  if parts.isEmpty then
                    if choices.has 'r' then [] else [command]
                  else
                    parts.map fun part => command ++ part
            let whole :=
              if commands.isEmpty && !choices.has 'r' && !choices.has 'I' then [command]
              else commands
            runAll given (choices.has 't') 0 whole

end Tool

end Cadence
