import Cadence.Shell.Pattern
import Cadence.Shell.Grammar

namespace Cadence

namespace Shell

/-!
# Fields

What a word has become after its expansions: characters that remember whether
they were quoted, in segments that remember whether they came from an expansion.
Only segments from unquoted expansions are split into fields.
-/

/-- A character of an expanded word, or a quotation mark. -/
inductive Glyph
  | char (c : Char) (isQuoted : Bool)
  | mark
  deriving DecidableEq, Repr

namespace Glyph

/-- The text of glyphs. -/
def text (glyphs : List Glyph) : List Char :=
  glyphs.filterMap fun glyph =>
    match glyph with
    | char c _ => some c
    | mark => none

/-- The pattern of glyphs. -/
def pattern (glyphs : List Glyph) : List Char :=
  Pattern.ofCharacters <| glyphs.filterMap fun glyph =>
    match glyph with
    | char c isQuoted => some (c, isQuoted)
    | mark => none

/-- Whether a character of a quoted value must be kept from being special. -/
def isGuarded (c : Char) : Bool :=
  c = '\\' || "!*?[=~:/-]".toList.contains c

/-- The glyphs of a value. -/
def ofValue (isQuoted : Bool) (value : List Char) : List Glyph :=
  value.map fun c => char c (isQuoted && isGuarded c)

end Glyph

/-- How a segment is split. -/
inductive Splitting
  | never
  /-- At the separators of fields. -/
  | fields
  /-- Between arguments only. -/
  | arguments
  deriving DecidableEq, Repr

/-- A part of an expanded word. -/
structure Segment where
  splitting : Splitting
  glyphs : List Glyph
  deriving Repr

namespace Segment

/-- Stands between two arguments. -/
def argumentEnd : Char := Char.ofNat 0

/-- The glyphs of segments. -/
def glyphsOf (segments : List Segment) : List Glyph :=
  segments.flatMap Segment.glyphs

/-- The text of segments. -/
def textOf (segments : List Segment) : List Char :=
  Glyph.text (glyphsOf segments)

/-- How far a word has been split.  Fields and glyphs are held in reverse. -/
structure Progress where
  fields : List (List Glyph) := []
  current : List Glyph := []
  /-- Whether a field has just been ended by a blank. -/
  afterBlank : Bool := false
  /-- How many fields there may still be; none is no bound. -/
  room : Option Nat := none
  /-- The last field without the blanks at its end. -/
  trimmed : Option (List Glyph) := none

namespace Progress

/-- Ends the current field. -/
def finishField (progress : Progress) : Progress :=
  { progress with fields := progress.current.reverse :: progress.fields, current := [] }

/-- Takes a glyph into the current field. -/
def keep (progress : Progress) (glyph : Glyph) : Progress :=
  { progress with current := glyph :: progress.current }

/-- Goes on with a glyph of the last field that there may be: it takes everything but the blanks at
its end. -/
def stepLast (progress : Progress) (glyph : Glyph) (separates isBlank : Bool) : Progress :=
  if isBlank then
    { progress.keep glyph with
      trimmed := some (progress.trimmed.getD progress.current) }
  else
    { progress.keep glyph with
      trimmed := if separates && progress.afterBlank then progress.trimmed else none
      afterBlank := false }

/-- Goes on with a glyph.  Where blanks are significant they do not run together. -/
def step (separators : List Char) (areSignificant : Bool) (progress : Progress) (glyph : Glyph) :
    Progress :=
  match glyph with
  | .mark => progress.keep .mark
  | .char c _ =>
      let separates := c = argumentEnd || separators.contains c
      let isBlank := separates && (c = argumentEnd || c = ' ' || c = '\t' || c = '\n')
      if progress.room = some 0 then
        progress.stepLast glyph separates isBlank
      else if progress.afterBlank then
        if separates then
          { progress with current := [], afterBlank := isBlank }
        else
          { progress with current := [glyph], afterBlank := false }
      else if separates then
        let afterBlank := isBlank && !areSignificant
        if progress.current.isEmpty && afterBlank then
          progress
        else
          match progress.room with
          | none => { progress.finishField with afterBlank := afterBlank }
          | some room =>
              if room ≤ 1 then
                { progress.keep glyph with
                  room := some 0, trimmed := some progress.current, afterBlank := afterBlank }
              else
                { progress.finishField with room := some (room - 1), afterBlank := afterBlank }
      else
        progress.keep glyph

end Progress

/-- Splits the rest of a word.  After a segment that is split between arguments blanks are
significant in the next one. -/
def splitFrom (separators : List Char) : Bool → Progress → List Segment → Progress × Bool
  | afterArguments, progress, [] => (progress, afterArguments)
  | afterArguments, progress, segment :: rest =>
      match segment.splitting with
      | .never =>
          splitFrom separators afterArguments
            { progress with current := segment.glyphs.reverse ++ progress.current } rest
      | .fields =>
          let split :=
            segment.glyphs.foldl (Progress.step separators afterArguments)
              { progress with afterBlank := false }
          splitFrom separators false split rest
      | .arguments =>
          let split :=
            segment.glyphs.foldl (Progress.step [] true) { progress with afterBlank := false }
          splitFrom separators true split rest

/-- The fields of a word, of which there are at most `room`. -/
def split (separators : List Char) (room : Option Nat) (segments : List Segment) :
    List (List Glyph) :=
  let (progress, endsWithArguments) := splitFrom separators false { room := room } segments
  let last := progress.trimmed.getD progress.current
  if endsWithArguments || !last.isEmpty then
    (last.reverse :: progress.fields).reverse
  else
    progress.fields.reverse

end Segment

/-- The order of texts by their bytes. -/
def precedes : List Char → List Char → Bool
  | [], _ => true
  | _ :: _, [] => false
  | first :: rest, second :: others =>
      if first = second then precedes rest others else first.toNat < second.toNat

/-- Whether a text holds a character that is special in a pattern and not quoted by a backslash. -/
def hasMeta : List Char → Bool
  | [] => false
  | '\\' :: _ :: rest => hasMeta rest
  | c :: rest => c = '*' || c = '?' || c = '[' || hasMeta rest

/-- A pattern without the backslashes that quote. -/
def unquote : List Char → List Char
  | [] => []
  | '\\' :: c :: rest => c :: unquote rest
  | c :: rest => c :: unquote rest

/-- Puts a piece in front of the first part, unless that is a slash. -/
def joinPart (piece : List Char) (parts : List (List Char)) : List (List Char) :=
  match parts with
  | [] => [piece]
  | part :: others => if part = ['/'] then piece :: parts else (piece ++ part) :: others

/-- The parts of a path pattern: slashes and what stands between them. -/
def pathParts : List Char → List (List Char)
  | [] => []
  | '\\' :: c :: rest =>
      if c = '/' then ['/'] :: pathParts rest else joinPart ['\\', c] (pathParts rest)
  | c :: rest => if c = '/' then ['/'] :: pathParts rest else joinPart [c] (pathParts rest)

end Shell

end Cadence
