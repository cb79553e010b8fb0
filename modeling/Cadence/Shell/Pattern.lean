namespace Cadence

namespace Shell

/-!
# Patterns

A pattern is a text in which `*` stands for any text, `?` for any character and
brackets for one of a set of characters; a backslash makes the next character
stand for itself.
-/

namespace Pattern

/-- A byte as a number with a sign, by which the ends of a range are compared. -/
def order (c : Char) : Int :=
  if c.toNat < 128 then c.toNat else (c.toNat : Int) - 256

/-- The classes of characters by name. -/
def classes : List (String × (Char → Bool)) :=
  [("alnum", Char.isAlphanum), ("alpha", Char.isAlpha),
    ("blank", fun c => c = ' ' || c = '\t'),
    ("cntrl", fun c => c.toNat < 32 || c.toNat = 127),
    ("digit", Char.isDigit),
    ("graph", fun c => 32 < c.toNat && c.toNat < 127),
    ("lower", Char.isLower),
    ("print", fun c => 32 ≤ c.toNat && c.toNat < 127),
    ("punct", fun c => 32 < c.toNat && c.toNat < 127 && !c.isAlphanum),
    ("space", fun c => c = ' ' || ('\t'.toNat ≤ c.toNat && c.toNat ≤ '\r'.toNat)),
    ("upper", Char.isUpper),
    ("xdigit", fun c => c.isDigit || ('a' ≤ c && c ≤ 'f') || ('A' ≤ c && c ≤ 'F'))]

/-- The text before the first `:]`, and what follows it. -/
def className? : List Char → Option (List Char × List Char)
  | ':' :: ']' :: rest => some ([], rest)
  | c :: rest => (className? rest).map fun (name, after) => (c :: name, after)
  | [] => none

/-- The class that is named at the front of a text which follows a bracket, and the rest. -/
def class? (text : List Char) : Option ((Char → Bool) × List Char) :=
  match text with
  | ':' :: rest =>
      match className? rest with
      | none => none
      | some (name, after) =>
          match classes.find? fun entry => entry.1.toList = name with
          | none => none
          | some entry => some (entry.2, after)
  | _ => none

/-- The set that is left to read, added to one, and what follows the closing bracket; none if there
is no closing bracket.  A bracket that comes first belongs to the set. -/
def set? (fits : Char → Bool) : Nat → Bool → List Char → Option ((Char → Bool) × List Char)
  | 0, _, _ => none
  | _, _, [] => none
  | fuel + 1, isFirst, first :: rest =>
      if first = ']' && !isFirst then
        some (fits, rest)
      else
        match if first = '[' then class? rest else none with
        | some (accepts, after) => set? (fun c => fits c || accepts c) fuel false after
        | none =>
            let (member, after) : Option Char × List Char :=
              if first = '\\' then
                match rest with
                | next :: after => (some next, after)
                | [] => (none, [])
              else
                (some first, rest)
            match member with
            | none => none
            | some low =>
                match after with
                | '-' :: second :: others =>
                    if second = ']' then
                      set? (fun c => fits c || c = low) fuel false after
                    else
                      let (high, others) : Char × List Char :=
                        match second, others with
                        | '\\', next :: others => (next, others)
                        | second, others => (second, others)
                      let isWithin (c : Char) : Bool :=
                        order low ≤ order c && order c ≤ order high
                      set? (fun c => fits c || isWithin c) fuel false others
                | after => set? (fun c => fits c || c = low) fuel false after

/-- The part of a pattern between two that stand for any text: a condition on each character. -/
abbrev Run := List (Char → Bool)

/-- Puts a condition in front of the first run. -/
def addFirst (fits : Char → Bool) : List Run → List Run
  | run :: runs => (fits :: run) :: runs
  | [] => [[fits]]

/-- The runs of a pattern, at least one.  The first argument bounds its length. -/
def runsWithin : Nat → List Char → List Run
  | 0, _ => [[]]
  | _, [] => [[]]
  | fuel + 1, p :: pattern =>
      let literal (c : Char) (pattern : List Char) : List Run :=
        addFirst (· = c) (runsWithin fuel pattern)
      match p with
      | '*' => [] :: runsWithin fuel pattern
      | '?' => addFirst (fun _ => true) (runsWithin fuel pattern)
      | '\\' =>
          match pattern with
          | [] => literal '\\' []
          | c :: pattern => literal c pattern
      | '[' =>
          let (isInverted, members) : Bool × List Char :=
            match pattern with
            | '!' :: members => (true, members)
            | members => (false, members)
          match set? (fun _ => false) (members.length + 1) true members with
          | none => literal '[' pattern
          | some (fits, after) =>
              addFirst (fun c => fits c != isInverted) (runsWithin fuel after)
      | c => literal c pattern

/-- The runs of a pattern. -/
def runs (pattern : List Char) : List Run :=
  runsWithin (pattern.length + 1) pattern

/-- What is left of a text after a run at its front. -/
def passed : Run → List Char → Option (List Char)
  | [], text => some text
  | _, [] => none
  | fits :: run, c :: text => if fits c then passed run text else none

/-- What is left of a text after the first place of a run. -/
def afterFirst (run : Run) : List Char → Option (List Char)
  | [] => passed run []
  | c :: text =>
      match passed run (c :: text) with
      | some rest => some rest
      | none => afterFirst run text

/-- What is left of a text after the last place of a run. -/
def afterLast (run : Run) (text : List Char) : Option (List Char) :=
  (afterFirst run.reverse text.reverse).map fun before => text.drop (before.length + run.length)

/-- Whether the rest of a text matches the runs that are left, each of which comes after any text.
Each run is taken at its first place, which leaves most to the others; the last one must stand at
the end. -/
def matchesLater : List Run → List Char → Bool
  | [], _ => true
  | [last], text =>
      last.length ≤ text.length && passed last (text.drop (text.length - last.length)) = some []
  | run :: runs, text =>
      match afterFirst run text with
      | none => false
      | some rest => matchesLater runs rest

/-- Whether a pattern matches a whole text. -/
def isMatch (pattern text : List Char) : Bool :=
  match runs pattern with
  | [] => text.isEmpty
  | [only] => passed only text = some []
  | first :: others =>
      match passed first text with
      | none => false
      | some rest => matchesLater others rest

/-- The pattern of a text whose quoted characters stand for themselves. -/
def ofCharacters (characters : List (Char × Bool)) : List Char :=
  characters.flatMap fun (c, isQuoted) => if isQuoted then ['\\', c] else [c]

/-- What is left of a text after the shortest or the longest front that matches the runs that are
left. -/
def afterFront (isLongest : Bool) : List Run → List Char → Option (List Char)
  | [], text => some text
  | [last], text => if isLongest then afterLast last text else afterFirst last text
  | run :: runs, text => (afterFirst run text).bind (afterFront isLongest runs)

/-- What is left of a text after the shortest or the longest front that matches runs; none if no
front does. -/
def cutFront? (isLongest : Bool) (runs : List Run) (text : List Char) : Option (List Char) :=
  match runs with
  | [] => some text
  | first :: others => (passed first text).bind (afterFront isLongest others)

/-- What is left of a text after the shortest or the longest front that matches is cut off; none if
no front matches. -/
def cutStart? (isLongest : Bool) (pattern text : List Char) : Option (List Char) :=
  cutFront? isLongest (runs pattern) text

/-- What is left of a text after the shortest or the longest end that matches is cut off; none if no
end matches.  The text and the pattern are read backwards. -/
def cutEnd? (isLongest : Bool) (pattern text : List Char) : Option (List Char) :=
  let mirrored := ((runs pattern).map List.reverse).reverse
  (cutFront? isLongest mirrored text.reverse).map List.reverse

/-- What is left of texts after the shortest front of the first one is cut off, or the longest one;
a first text that matches as a whole takes the others with it then. -/
def cutStartAll (isLongest : Bool) (pattern : List Char) : List (List Char) → List (List Char)
  | [] => []
  | [text] => [(cutStart? isLongest pattern text).getD text]
  | text :: texts =>
      if isLongest && isMatch pattern text then [[]]
      else (cutStart? isLongest pattern text).getD text :: texts

/-- What is left of texts after the shortest end of the last one that has such an end is cut off,
with the texts that follow; none if none has. -/
def cutLastEnd? (pattern : List Char) : List (List Char) → Option (List (List Char))
  | [] => none
  | text :: texts =>
      match cutLastEnd? pattern texts with
      | some kept => some (text :: kept)
      | none => (cutEnd? false pattern text).map fun kept => [kept]

/-- What is left of texts after an end is cut off, with the texts that follow: the shortest end of
the last text that has one, or the longest end of the first text. -/
def cutEndAll (isLongest : Bool) (pattern : List Char) (texts : List (List Char)) :
    List (List Char) :=
  match texts with
  | [] => []
  | text :: _ =>
      let kept :=
        if isLongest then (cutEnd? true pattern text).map fun kept => [kept]
        else cutLastEnd? pattern texts
      kept.getD texts

end Pattern

end Shell

end Cadence
