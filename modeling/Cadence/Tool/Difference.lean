import Cadence.Tool.Basic

namespace Cadence

namespace Tool

open Host

/-!
# Tools that compare files

Two files are compared byte by byte, or line by line: then as many lines as
possible are taken to be kept, and the others are told in groups.
-/

/-- Where two texts differ first: the number of the byte and of the line. -/
def firstDifference : Nat → Nat → Bytes → Bytes → Option (Nat × Nat × Bool)
  | _, _, [], [] => none
  | byte, line, [], _ :: _ => some (byte, line, true)
  | byte, line, _ :: _, [] => some (byte, line, true)
  | byte, line, first :: rest, second :: others =>
      if first = second then
        firstDifference (byte + 1) (if first = '\n' then line + 1 else line) rest others
      else
        some (byte, line, false)

/-- The path of a file that is compared with another one: in a directory it has the name of the
other one. -/
def inDirectory (path other : Bytes) : Job Bytes := do
  match ← Job.ask (.status path true), ← Job.ask (.status other true) with
  | .ok status, .ok otherStatus =>
      if status.kind = .directory && otherStatus.kind ≠ .directory then
        let name := (other.reverse.takeWhile (· ≠ '/')).reverse
        pure (path ++ '/' :: name)
      else
        pure path
  | _, _ => pure path

/-- Compares two files byte by byte. -/
def cmp (given : Given) : Job Nat :=
  withChoices given (switches "slb") false 2 fun choices => do
    match choices.operands with
    | [] => misuse given 2 (chars "missing operand after 'cmp'")
    | first :: rest =>
        let second := rest.headD ['-']
        let (files, isComplete) ← readFiles given [first, second]
        match isComplete, files with
        | true, [(_, text), (_, other)] =>
            match firstDifference 1 1 text other with
            | none => pure 0
            | some (byte, line, isShort) =>
                if choices.has 's' then
                  pure 1
                else if isShort then do
                  let short := if text.length < other.length then first else second
                  let isEmpty := min text.length other.length = 0
                  let place :=
                    if isEmpty then chars " which is empty"
                    else chars " after byte " ++ digits (byte - 1) ++ chars ", line " ++
                      digits (if text.length < other.length then text.count '\n' + 1 else line)
                  complain given (chars "EOF on " ++ short ++ place)
                  pure 1
                else
                  finish given 1
                    (first ++ ' ' :: second ++ chars " differ: char " ++ digits byte ++
                      chars ", line " ++ digits line ++ ['\n'])
        | _, _ => pure 2

namespace Difference

/-- For each line and one more the most lines that the text from there on shares with another
text, whose first line is compared and whose other lines have the values that are given. -/
def sharedRow (line : Bytes) : List Bytes → List Nat → List Nat
  | other :: others, below :: rest =>
      let right := sharedRow line others rest
      let best :=
        if line = other then rest.headD 0 + 1 else max below (right.headD 0)
      best :: right
  | _, _ => [0]

/-- The rows of shared lines, from the first line of a text on. -/
def sharedRows (others : List Bytes) : List Bytes → List (List Nat)
  | [] => [List.replicate (others.length + 1) 0]
  | line :: rest =>
      let below := sharedRows others rest
      sharedRow line others (below.headD []) :: below

/-- A step from one text to another. -/
inductive Step
  | keep
  | drop (line : Bytes)
  | add (line : Bytes)
  deriving DecidableEq, Repr

/-- The steps from one text to another.  The first argument bounds their number. -/
def steps : Nat → List Bytes → List Bytes → List (List Nat) → List Step
  | 0, _, _, _ => []
  | _, [], others, _ => others.map .add
  | _, lines, [], _ => lines.map .drop
  | fuel + 1, line :: lines, other :: others, rows =>
      if line = other then
        .keep :: steps fuel lines others (rows.tail.map List.tail)
      else
        let row := rows.headD []
        let below := rows.tail
        if row.tail.headD 0 ≤ (below.headD []).headD 0 then
          .drop line :: steps fuel lines (other :: others) below
        else
          .add other :: steps fuel (line :: lines) others (rows.map List.tail)

/-- The numbers of lines from one to another. -/
def range (first last : Nat) : Bytes :=
  if last ≤ first then digits last else digits first ++ ',' :: digits last

/-- The text for a group of lines that are dropped and added after so many lines of both files. -/
def group (before after : Nat) (dropped added : List Bytes) : Bytes :=
  let places :=
    match dropped, added with
    | [], [] => []
    | [], added => digits before ++ 'a' :: range (after + 1) (after + added.length)
    | dropped, [] => range (before + 1) (before + dropped.length) ++ 'd' :: digits after
    | dropped, added =>
        range (before + 1) (before + dropped.length) ++ 'c' ::
          range (after + 1) (after + added.length)
  let marked (mark : Char) (lines : List Bytes) : Bytes :=
    lines.flatMap fun line => mark :: ' ' :: line ++ ['\n']
  let middle := if dropped.isEmpty || added.isEmpty then [] else chars "---\n"
  if places.isEmpty then []
  else places ++ '\n' :: marked '<' dropped ++ middle ++ marked '>' added

/-- The text for steps; the arguments tell how many lines have been passed, and which lines are
dropped and added just before. -/
def text : Nat → Nat → List Bytes → List Bytes → List Step → Bytes
  | before, after, dropped, added, [] => group before after dropped.reverse added.reverse
  | before, after, dropped, added, .drop line :: rest =>
      text before after (line :: dropped) added rest
  | before, after, dropped, added, .add line :: rest =>
      text before after dropped (line :: added) rest
  | before, after, dropped, added, .keep :: rest =>
      group before after dropped.reverse added.reverse ++
        text (before + dropped.length + 1) (after + added.length + 1) [] [] rest

/-- The differences of two texts. -/
def ofTexts (first second : Bytes) : Bytes :=
  let (lines, others) := (Tool.lines first, Tool.lines second)
  text 0 0 [] []
    (steps (lines.length + others.length + 1) lines others (sharedRows others lines))

end Difference

/-- Tells the lines in which two files differ. -/
def diff (given : Given) : Job Nat :=
  let known : List Known :=
    [{ letter := 'q', name := "brief" }, { letter := 'i', name := "ignore-case" },
      { letter := 's', name := "report-identical-files" }] ++ switches "uwbBrNac"
  withChoices given known false 2 fun choices => do
    match choices.operands with
    | [named, other] => do
        let first ← inDirectory named other
        let second ← inDirectory other named
        let (files, isComplete) ← readFiles given [first, second]
        match isComplete, files with
        | true, [(_, text), (_, other)] =>
            let isSame :=
              if choices.has 'i' then text.map Char.toLower = other.map Char.toLower
              else text = other
            let named := first ++ chars " and " ++ second
            if isSame then
              finishWith given 0 2
                (if choices.has 's' then chars "Files " ++ named ++ chars " are identical\n"
                  else [])
            else if choices.has 'q' then
              finishWith given 1 2 (chars "Files " ++ named ++ chars " differ\n")
            else
              finishWith given 1 2 (Difference.ofTexts text other)
        | _, _ => pure 2
    | _ => misuse given 2 (chars "missing operand")

end Tool

end Cadence
