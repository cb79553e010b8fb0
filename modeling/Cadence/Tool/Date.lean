import Cadence.Calendar
import Cadence.Decimal
import Cadence.Tool.Basic

namespace Cadence

namespace Tool

open Host

/-!
# Dates that tools read and write

Instants are nanoseconds since 1970, and all times are universal.  A date is
written by a format, and read from words: a date, a time of day, and shifts.
-/

namespace Moment

/-- The names of the days of the week. -/
def weekdays : List String :=
  ["Sunday", "Monday", "Tuesday", "Wednesday", "Thursday", "Friday", "Saturday"]

/-- The names of the months. -/
def months : List String :=
  ["January", "February", "March", "April", "May", "June", "July", "August", "September",
    "October", "November", "December"]

/-- The name at a place in a list. -/
def nameAt (names : List String) (place : Int) : Bytes :=
  (names.getD place.toNat "").toList

/-- A number that is filled up to a width. -/
def padded (fill : Char) (width : Nat) (value : Int) : Bytes :=
  let digits := Decimal.write value
  List.replicate (width - digits.length) fill ++ digits

/-- The days of the year before a date. -/
def dayOfYear (date : Date) : Int :=
  date.dayNumber - ({ date with month := 1, day := 1 } : Date).dayNumber

/-- The year and the number of the week of a date, for weeks that belong to the year of their
Thursday. -/
def isoWeek (date : Date) : Int × Int :=
  let thursday := Date.ofDayNumber (date.dayNumber - (date.weekday + 6) % 7 + 3)
  (thursday.year, dayOfYear thursday / 7 + 1)

/-- What a letter of a format stands for: a text, or a number with its fill and its width. -/
inductive Part
  | text (bytes : Bytes)
  | number (fill : Char) (width : Nat) (value : Int)

/-- What the letters of a format stand for. -/
def part? (nanoseconds : Int) (letter : Char) : Option Part :=
  let instant := nanoseconds / 1000000000
  let civil := CivilTime.ofInstant instant
  let date := civil.date
  let hour := civil.time.hour
  let half := (hour + 11) % 12 + 1
  match letter with
  | 'a' => some (.text ((nameAt weekdays date.weekday).take 3))
  | 'A' => some (.text (nameAt weekdays date.weekday))
  | 'b' | 'h' => some (.text ((nameAt months (date.month - 1)).take 3))
  | 'B' => some (.text (nameAt months (date.month - 1)))
  | 'C' => some (.number '0' 2 (date.year / 100))
  | 'd' => some (.number '0' 2 date.day)
  | 'e' => some (.number ' ' 2 date.day)
  | 'g' => some (.number '0' 2 ((isoWeek date).1 % 100))
  | 'G' => some (.number '0' 4 (isoWeek date).1)
  | 'H' => some (.number '0' 2 hour)
  | 'I' => some (.number '0' 2 half)
  | 'j' => some (.number '0' 3 (dayOfYear date + 1))
  | 'k' => some (.number ' ' 2 hour)
  | 'l' => some (.number ' ' 2 half)
  | 'm' => some (.number '0' 2 date.month)
  | 'M' => some (.number '0' 2 civil.time.minute)
  | 'n' => some (.text ['\n'])
  | 'N' => some (.number '0' 9 (nanoseconds % 1000000000))
  | 'p' => some (.text (chars (if hour < 12 then "AM" else "PM")))
  | 'P' => some (.text (chars (if hour < 12 then "am" else "pm")))
  | 'q' => some (.number '0' 1 ((date.month + 2) / 3))
  | 's' => some (.number '0' 1 instant)
  | 'S' => some (.number '0' 2 civil.time.second)
  | 't' => some (.text ['\t'])
  | 'u' => some (.number '0' 1 ((date.weekday + 6) % 7 + 1))
  | 'U' => some (.number '0' 2 ((dayOfYear date + 7 - date.weekday) / 7))
  | 'V' => some (.number '0' 2 (isoWeek date).2)
  | 'w' => some (.number '0' 1 date.weekday)
  | 'W' => some (.number '0' 2 ((dayOfYear date + 7 - (date.weekday + 6) % 7) / 7))
  | 'y' => some (.number '0' 2 (date.year % 100))
  | 'Y' => some (.number '0' 4 date.year)
  | 'z' => some (.text (chars "+0000"))
  | 'Z' => some (.text (chars "UTC"))
  | '%' => some (.text ['%'])
  | _ => none

/-- The letters that stand for a whole format. -/
def shorthand? (letter : Char) : Option String :=
  match letter with
  | 'c' => some "%a %b %e %H:%M:%S %Y"
  | 'D' | 'x' => some "%m/%d/%y"
  | 'F' => some "%Y-%m-%d"
  | 'r' => some "%I:%M:%S %p"
  | 'R' => some "%H:%M"
  | 'T' | 'X' => some "%H:%M:%S"
  | _ => none

/-- A format without shorthands. -/
def spelled : Bytes → Bytes
  | '%' :: '%' :: rest => '%' :: '%' :: spelled rest
  | '%' :: letter :: rest =>
      match shorthand? letter with
      | none => '%' :: letter :: spelled rest
      | some format => format.toList ++ spelled rest
  | c :: rest => c :: spelled rest
  | [] => []

/-- The part of a format that follows a percent sign: flags, a width and a letter. -/
def field (nanoseconds : Int) (text : Bytes) : Bytes × Bytes :=
  let flags := text.takeWhile fun c => (chars "-_0^").contains c
  let afterFlags := text.drop flags.length
  let width := afterFlags.takeWhile Char.isDigit
  match afterFlags.drop width.length with
  | ':' :: 'z' :: rest => (chars "+00:00", rest)
  | letter :: rest =>
      let wanted := number? width
      let shown : Option Bytes :=
        match part? nanoseconds letter with
        | none => none
        | some (.text bytes) => some (List.replicate (wanted.getD 0 - bytes.length) ' ' ++ bytes)
        | some (.number fill usual value) =>
            let fill := if flags.contains '_' then ' ' else if flags.contains '0' then '0' else fill
            if letter = 'N' then
              some ((padded '0' 9 value).take (wanted.getD 9))
            else if flags.contains '-' then
              some (Decimal.write value)
            else
              some (padded fill (wanted.getD usual) value)
      match shown with
      | none => ('%' :: flags ++ width ++ [letter], rest)
      | some bytes => (if flags.contains '^' then bytes.map Char.toUpper else bytes, rest)
  | [] => ('%' :: flags ++ width, [])

/-- Writes an instant by a format without shorthands.  The first argument bounds its length. -/
def writeSpelled (nanoseconds : Int) : Nat → Bytes → Bytes
  | 0, _ => []
  | _, [] => []
  | fuel + 1, '%' :: text =>
      let (bytes, rest) := field nanoseconds text
      bytes ++ writeSpelled nanoseconds fuel rest
  | fuel + 1, c :: rest => c :: writeSpelled nanoseconds fuel rest

/-- Writes an instant by a format. -/
def write (nanoseconds : Int) (format : Bytes) : Bytes :=
  let format := spelled format
  writeSpelled nanoseconds (format.length + 1) format

/-- What has been read of a date. -/
structure Found where
  date : Option Date := none
  seconds : Option Int := none
  months : Int := 0
  shift : Int := 0

/-- The month that a word names. -/
def month? (word : Bytes) : Option Int :=
  let index := months.findIdx fun name =>
    let letters := name.toList.map Char.toLower
    word = letters || (word.length = 3 && word = letters.take 3)
  if index < 12 then some (index + 1) else none

/-- A date that exists. -/
def dateOf? (year month day : Nat) : Option Date :=
  let date := Date.of year month day
  if date.Exists then some date else none

/-- The numbers between marks. -/
def numbers? (mark : Char) (word : Bytes) : Option (List Nat) :=
  (word.splitOn mark).mapM number?

/-- The date that a word writes. -/
def date? (word : Bytes) : Option Date :=
  match numbers? '-' word, numbers? '/' word with
  | some [year, month, day], _ => dateOf? year month day
  | _, some [month, day, year] => dateOf? year month day
  | some [digits], _ =>
      if word.length = 8 then dateOf? (digits / 10000) (digits / 100 % 100) (digits % 100) else none
  | _, _ => none

/-- The seconds since midnight that a word writes. -/
def seconds? (word : Bytes) : Option Int :=
  let plain := if word.getLast? = some 'z' then word.dropLast else word
  let whole := plain.takeWhile (· ≠ '.')
  match numbers? ':' whole with
  | some [hour, minute] =>
      if hour < 24 && minute < 60 then some (hour * 3600 + minute * 60) else none
  | some [hour, minute, second] =>
      if hour < 24 && minute < 60 && second < 61 then some (hour * 3600 + minute * 60 + second)
      else none
  | _ => none

/-- A shift by so many units. -/
def shifted (found : Found) (count : Int) (unit : Bytes) : Option Found :=
  let single := if unit.getLast? = some 's' then unit.dropLast else unit
  let add (seconds : Int) : Option Found :=
    some { found with shift := found.shift + count * seconds }
  match String.ofList single with
  | "sec" | "second" => add 1
  | "min" | "minute" => add 60
  | "hour" => add 3600
  | "day" => add 86400
  | "week" => add 604800
  | "fortnight" => add 1209600
  | "month" => some { found with months := found.months + count }
  | "year" => some { found with months := found.months + 12 * count }
  | _ => none

/-- Reads the words of a date. -/
def readWords : Nat → Found → List Bytes → Option Found
  | 0, _, _ => none
  | _, found, [] => some found
  | fuel + 1, found, word :: rest => do
      let isZone := word = ['z'] || word = chars "utc" || word = chars "gmt" || word = ['+'] ||
        word = chars "now" || word = chars "today"
      if isZone then
        readWords fuel found rest
      else if word = chars "yesterday" then
        readWords fuel { found with shift := found.shift - 86400 } rest
      else if word = chars "tomorrow" then
        readWords fuel { found with shift := found.shift + 86400 } rest
      else if word = chars "next" || word = chars "last" then
        match rest with
        | unit :: rest =>
            let count := if word = chars "next" then 1 else -1
            readWords fuel (← shifted found count unit) rest
        | [] => none
      else
        match date? word, seconds? word, integer? word, month? word, rest with
        | some date, _, _, _, _ =>
            if found.date.isSome then none else readWords fuel { found with date := date } rest
        | _, some seconds, _, _, _ =>
            if found.seconds.isSome then none
            else readWords fuel { found with seconds := seconds } rest
        | _, _, some count, _, unit :: after =>
            match month? unit, after with
            | some month, year :: after =>
                let date ← dateOf? (← number? year) month.toNat count.toNat
                readWords fuel { found with date := date } after
            | some _, [] => none
            | none, ago :: after =>
                if ago = chars "ago" then
                  readWords fuel (← shifted found (-count) unit) after
                else
                  readWords fuel (← shifted found count unit) (ago :: after)
            | none, [] => readWords fuel (← shifted found count unit) []
        | _, _, _, some month, day :: year :: after =>
            let date ← dateOf? (← number? year) month.toNat
              (← number? (day.filter (· ≠ ',')))
            readWords fuel { found with date := date } after
        | _, _, _, _, _ => none

/-- The instant that a text tells at a time, in nanoseconds. -/
def read? (now : Int) (text : Bytes) : Option Int := do
  match text with
  | '@' :: number =>
      let whole := number.takeWhile (· ≠ '.')
      let fraction := (number.drop (whole.length + 1)).take 9
      let nanoseconds ←
        if number.contains '.' then
          number? (fraction ++ List.replicate (9 - fraction.length) '0')
        else
          some 0
      some ((← integer? whole) * 1000000000 + nanoseconds)
  | text =>
      let spaced := (text.map Char.toLower).map fun c => if c = '\t' || c = '\n' then ' ' else c
      let parted := if spaced[10]? = some 't' then spaced.set 10 ' ' else spaced
      let words := (parted.splitOn ' ').filter fun word => !word.isEmpty
      let found ← readWords (words.length + 1) {} words
      let civil := CivilTime.ofInstant (now / 1000000000)
      let isAbsolute := found.date.isSome || found.seconds.isSome || words.isEmpty
      let date := found.date.getD civil.date
      let months := date.year * 12 + (date.month - 1) + found.months
      let moved : Date := ⟨months / 12, months % 12 + 1, date.day⟩
      let seconds := if isAbsolute then found.seconds.getD 0 else civil.time.seconds
      let fraction := if isAbsolute then 0 else now % 1000000000
      some ((86400 * moved.dayNumber + seconds + found.shift) * 1000000000 + fraction)

/-- The instant that digits tell as `touch` takes them: a year if there are enough of them, then a
month, a day, an hour and a minute, and after a point the seconds. -/
def stamp? (now : Int) (text : Bytes) : Option Int := do
  let digits := text.takeWhile Char.isDigit
  let second ←
    match text.drop digits.length with
    | [] => some 0
    | '.' :: rest => if rest.length = 2 then number? rest else none
    | _ => none
  let value ← number? digits
  let now := CivilTime.ofInstant (now / 1000000000)
  let year : Int ←
    match digits.length with
    | 8 => some now.date.year
    | 10 =>
        let short : Int := value / 100000000
        some (if short < 69 then 2000 + short else 1900 + short)
    | 12 => some (value / 100000000 : Nat)
    | _ => none
  let date ← dateOf? year.toNat (value / 1000000 % 100) (value / 10000 % 100)
  let time : TimeOfDay := ⟨(value / 100 % 100 : Nat), (value % 100 : Nat), second⟩
  if time.Exists then
    some ((CivilTime.toInstant ⟨date, time⟩) * 1000000000)
  else
    none

end Moment

/-- Tells the time. -/
def date (given : Given) : Job Nat :=
  let known : List Known :=
    [{ letter := 'u', name := "utc" }, { letter := 'R', name := "rfc-email" },
      { letter := 'd', name := "date", takesArgument := true },
      { letter := 's', name := "set", takesArgument := true },
      { letter := 'r', name := "reference", takesArgument := true }]
  let (shape, arguments) := given.arguments.partition fun argument =>
    (chars "-I").isPrefixOf argument || (chars "--iso-8601").isPrefixOf argument ||
      (chars "--rfc-3339").isPrefixOf argument
  withChoices { given with arguments := arguments } known false 1 fun choices => do
    let now ← Job.ask .clock
    let text? := (choices.arguments 'd' ++ choices.arguments 's').getLast?
    let told : Except Bytes Int ←
      match choices.argument? 'r', text? with
      | some path, _ => do
          match ← Job.ask (.status path true) with
          | .ok status => pure (.ok (status.modified : Int))
          | .error errno => pure (.error (path ++ chars ": " ++ errno.text))
      | none, some text =>
          match Moment.read? now text with
          | some instant => pure (.ok instant)
          | none => pure (.error (chars "invalid date '" ++ text ++ ['\'']))
      | none, none => pure (.ok (now : Int))
    let usual : String :=
      match shape.head? with
      | none => if choices.has 'R' then "%a, %d %b %Y %H:%M:%S %z" else "%a %b %e %H:%M:%S %Z %Y"
      | some argument =>
          let isSpaced := (chars "--rfc").isPrefixOf argument
          let end_ := argument.getLast?
          if end_ = some 's' then
            if isSpaced then "%F %T%:z" else "%FT%T%:z"
          else
            "%F"
    match told, choices.operands with
    | .error reason, _ => refuse given 1 reason
    | .ok instant, [] => finish given 0 (Moment.write instant usual.toList ++ ['\n'])
    | .ok instant, ['+' :: format] => finish given 0 (Moment.write instant format ++ ['\n'])
    | .ok _, [text] => refuse given 1 (chars "invalid date '" ++ text ++ ['\''])
    | .ok _, _ :: extra :: _ => misuse given 1 (chars "extra operand '" ++ extra ++ ['\''])

end Tool

end Cadence
