import Cadence.Text
import Cadence.Field.Parser
import Cadence.Schedule.Basic

namespace Cadence

/-!
# Reading a schedule

A schedule is five fields separated by blanks, or six with a seconds field in
front, or one of a few names for common schedules, which begin with `@`.  The
leftmost field at fault decides the error.
-/

namespace Schedule

/-- The named schedules and the five fields that each stands for. -/
def namedSchedules : List (String × String) :=
  [("@yearly", "0 0 1 1 *"), ("@annually", "0 0 1 1 *"), ("@monthly", "0 0 1 * *"),
    ("@weekly", "0 0 * * 0"), ("@daily", "0 0 * * *"), ("@hourly", "0 * * * *")]

/-- The five fields that a name stands for; its letters may be in either case. -/
def named? (name : List Char) : Option String :=
  (namedSchedules.find? fun entry => Text.sameLetters name entry.1.toList).map Prod.snd

/-- The names of the fields in the order in which they are written. -/
def fieldOrder (withSeconds : Bool) : String :=
  if withSeconds then
    "second minute hour day month day-of-week"
  else
    "minute hour day month day-of-week"

/-- The number of fields to write. -/
def fieldCount (withSeconds : Bool) : Nat :=
  if withSeconds then 6 else 5

/-- The error of a text with the wrong number of fields. -/
def wrongCount (trimmed : List Char) (withSeconds : Bool) (given : Nat) : ParseError :=
  ⟨.wrongFieldCount, none, String.ofList trimmed, none,
    "expected " ++ toString (fieldCount withSeconds) ++ " fields (" ++ fieldOrder withSeconds ++
      "), got " ++ toString given⟩

/-- A trimmed text with names written out. -/
def expand (trimmed : List Char) (withSeconds : Bool) : Except ParseError (List Char) :=
  match trimmed with
  | '@' :: _ =>
      match named? trimmed with
      | some fields => .ok <| if withSeconds then '0' :: ' ' :: fields.toList else fields.toList
      | none =>
          .error ⟨.malformedExpression, none, String.ofList trimmed, none, "unknown macro"⟩
  | _ => .ok trimmed

/-- The schedule of the words of a text; `raw` is the text as it was given. -/
def ofWords (raw : List Char) (withSeconds : Bool) (words : List (List Char)) :
    Except ParseError Schedule :=
  match withSeconds, words with
  | true, [second, minute, hour, day, month, weekday] => do
      let seconds ← FieldSet.parseChars .second second
      let minutes ← FieldSet.parseChars .minute minute
      let hours ← FieldSet.parseChars .hour hour
      let days ← FieldSet.parseChars .day day
      let months ← FieldSet.parseChars .month month
      let weekdays ← FieldSet.parseChars .weekday weekday
      return ⟨String.ofList raw, some seconds, minutes, hours, days, months, weekdays⟩
  | false, [minute, hour, day, month, weekday] => do
      let minutes ← FieldSet.parseChars .minute minute
      let hours ← FieldSet.parseChars .hour hour
      let days ← FieldSet.parseChars .day day
      let months ← FieldSet.parseChars .month month
      let weekdays ← FieldSet.parseChars .weekday weekday
      return ⟨String.ofList raw, none, minutes, hours, days, months, weekdays⟩
  | _, _ => .error (wrongCount raw withSeconds words.length)

/-- The schedule that a text writes, with a seconds field in front or without. -/
def parseChars (text : List Char) (withSeconds : Bool) : Except ParseError Schedule :=
  match Text.trim text with
  | [] => .error ⟨.emptyField, none, String.ofList text, none, ""⟩
  | trimmed => do
      let expanded ← expand trimmed withSeconds
      ofWords trimmed withSeconds (Text.words expanded)

/-- The schedule that a text writes, with a seconds field in front or without. -/
def parse (text : String) (withSeconds : Bool) : Except ParseError Schedule :=
  parseChars text.toList withSeconds

end Schedule

end Cadence
