import Cadence.Shell.Pattern

namespace Cadence

namespace Tool

/-!
# Regular expressions

The basic and the extended regular expressions of the text tools.  Of all matches
the one that begins first is taken, and of those the longest.
-/

/-- A regular expression. -/
inductive Regex
  | nothing
  | one (accepts : Char → Bool)
  | lineStart
  | lineStop
  | wordStart
  | wordStop
  | wordEdge
  | wordInside
  | sequence (first second : Regex)
  | either (first second : Regex)
  | many (body : Regex) (least : Nat) (most : Option Nat)
  | group (number : Nat) (body : Regex)
  /-- What a group has matched, once more. -/
  | again (number : Nat)

/-- How regular expressions are written. -/
structure Dialect where
  isExtended : Bool := false
  foldsCase : Bool := false
  /-- Whether escapes for newlines and tabs are known. -/
  hasEscapes : Bool := false

/-- Whether a character belongs to words. -/
def isWordCharacter (c : Char) : Bool :=
  c.isAlphanum || c = '_'

namespace Regex

/-- A character as it is matched. -/
def literal (dialect : Dialect) (c : Char) : Regex :=
  if dialect.foldsCase then
    .one fun d => d.toLower = c.toLower
  else
    .one fun d => d = c

/-- A set of characters as it is matched. -/
def set (dialect : Dialect) (isNegated : Bool) (holds : Char → Bool) : Regex :=
  let folded (c : Char) : Bool :=
    if dialect.foldsCase then holds c || holds c.toLower || holds c.toUpper else holds c
  .one fun c => folded c != isNegated

/-- The member of a set that is written at the front of a text, and the rest. -/
def member (dialect : Dialect) : List Char → Except String (Option (Char × List Char))
  | [] => .ok none
  | '[' :: '.' :: c :: '.' :: ']' :: rest | '[' :: '=' :: c :: '=' :: ']' :: rest =>
      .ok (some (c, rest))
  | '\\' :: 'n' :: rest =>
      .ok (some (if dialect.hasEscapes then ('\n', rest) else ('\\', 'n' :: rest)))
  | '\\' :: 't' :: rest =>
      .ok (some (if dialect.hasEscapes then ('\t', rest) else ('\\', 't' :: rest)))
  | '\\' :: ']' :: rest => .ok (some ('\\', ']' :: rest))
  | c :: rest => .ok (some (c, rest))

/-- What a set with no end is called. -/
def openSet : String :=
  "Unmatched [, [^, [:, [., or [="

/-- What a member of a set adds to it, which may begin a range, and the rest. -/
def span (dialect : Dialect) (first : Char) (rest : List Char) :
    Except String ((Char → Bool) × List Char) :=
  match rest with
  | '-' :: ']' :: _ => .ok (fun c => c = first, rest)
  | '-' :: others => do
      match ← member dialect others with
      | none => .error openSet
      | some (last, after) =>
          if last.toNat < first.toNat then
            .error "Invalid range end"
          else
            .ok (fun c => first.toNat ≤ c.toNat && c.toNat ≤ last.toNat, after)
  | rest => .ok (fun c => c = first, rest)

/-- Reads the members of a set, which are added to those that hold already.  The first argument
bounds their number. -/
def members (dialect : Dialect) :
    Nat → Bool → (Char → Bool) → List Char → Except String ((Char → Bool) × List Char)
  | 0, _, _, _ => .error openSet
  | fuel + 1, isFirst, holds, text =>
      match text with
      | '[' :: ':' :: rest =>
          match Shell.Pattern.class? (':' :: rest) with
          | some (accepts, after) =>
              members dialect fuel false (fun c => holds c || accepts c) after
          | none => .error "Invalid character class name"
      | text =>
          if text.head? = some ']' && !isFirst then
            .ok (holds, text.drop 1)
          else do
            match ← member dialect text with
            | none => .error openSet
            | some (first, rest) =>
                let (accepts, after) ← span dialect first rest
                members dialect fuel false (fun c => holds c || accepts c) after

/-- Reads a set after its opening bracket. -/
def readSet (dialect : Dialect) (text : List Char) : Except String (Regex × List Char) := do
  let (isNegated, body) : Bool × List Char :=
    match text with
    | '^' :: body => (true, body)
    | body => (false, body)
  let (holds, rest) ← members dialect (body.length + 1) true (fun _ => false) body
  .ok (set dialect isNegated holds, rest)

/-- The bounds of a repetition that are written at the front of a text, up to the closing mark, and
the rest. -/
def bounds? (closing : List Char) (text : List Char) :
    Option (Nat × Option Nat × List Char) :=
  let value (digits : List Char) : Nat :=
    digits.foldl (fun value c => 10 * value + (c.toNat - '0'.toNat)) 0
  let least := text.takeWhile Char.isDigit
  let afterLeast := text.drop least.length
  let found : Option (Nat × Option Nat × List Char) :=
    match afterLeast with
    | ',' :: rest =>
        let most := rest.takeWhile Char.isDigit
        some (value least, if most.isEmpty then none else some (value most),
          rest.drop most.length)
    | rest => if least.isEmpty then none else some (value least, some (value least), rest)
  match found with
  | none => none
  | some (least, most, rest) =>
      if closing.isPrefixOf rest && most.all (least ≤ ·) then
        some (least, most, rest.drop closing.length)
      else
        none

/-- How far a regular expression has been read. -/
structure ReadState where
  rest : List Char
  /-- How many groups have been opened. -/
  groups : Nat := 0
  /-- How deeply groups are nested. -/
  depth : Nat := 0

/-- Repeats what has been read as often as the marks say that follow it. -/
def repetitions (dialect : Dialect) : Nat → Regex → ReadState → Except String (Regex × ReadState)
  | 0, body, state => .ok (body, state)
  | fuel + 1, body, state =>
      let again (least : Nat) (most : Option Nat) (rest : List Char) :
          Except String (Regex × ReadState) :=
        repetitions dialect fuel (.many body least most) { state with rest := rest }
      match dialect.isExtended, state.rest with
      | _, '*' :: rest => again 0 none rest
      | true, '+' :: rest | false, '\\' :: '+' :: rest => again 1 none rest
      | true, '?' :: rest | false, '\\' :: '?' :: rest => again 0 (some 1) rest
      | true, '\x7b' :: rest =>
          match bounds? ['\x7d'] rest with
          | some (least, most, rest) => again least most rest
          | none => .ok (body, state)
      | false, '\\' :: '\x7b' :: rest =>
          match bounds? ['\\', '\x7d'] rest with
          | some (least, most, rest) => again least most rest
          | none => .error "Invalid content of \\\x7b\\\x7d"
      | _, _ => .ok (body, state)

/-- Whether a text begins with the end of a branch. -/
def endsBranch (dialect : Dialect) (depth : Nat) (text : List Char) : Bool :=
  match dialect.isExtended, text with
  | _, [] => true
  | true, '|' :: _ | false, '\\' :: '|' :: _ => true
  | true, ')' :: _ | false, '\\' :: ')' :: _ => depth ≠ 0
  | _, _ => false

/-- The expression that a backslash and a character stand for, if they are special. -/
def escape? (dialect : Dialect) (c : Char) : Option Regex :=
  let isBlank (c : Char) : Bool := c = ' ' || ('\t'.toNat ≤ c.toNat && c.toNat ≤ '\r'.toNat)
  match c with
  | 'w' => some (.one isWordCharacter)
  | 'W' => some (.one fun c => !isWordCharacter c)
  | 's' => some (.one isBlank)
  | 'S' => some (.one fun c => !isBlank c)
  | 'b' => some .wordEdge
  | 'B' => some .wordInside
  | '<' => some .wordStart
  | '>' => some .wordStop
  | '\x60' => some .lineStart
  | '\'' => some .lineStop
  | 'n' => if dialect.hasEscapes then some (literal dialect '\n') else none
  | 't' => if dialect.hasEscapes then some (literal dialect '\t') else none
  | _ => none

/-- Reads an expression that is not repeated.  The argument reads what stands in a group. -/
def atom (dialect : Dialect) (inner : ReadState → Except String (Regex × ReadState))
    (isFirst : Bool) (state : ReadState) : Except String (Regex × ReadState) :=
  let plain (c : Char) (rest : List Char) : Except String (Regex × ReadState) :=
    .ok (literal dialect c, { state with rest := rest })
  let group (rest : List Char) : Except String (Regex × ReadState) := do
    let number := state.groups + 1
    let (body, after) ← inner { rest := rest, groups := number, depth := state.depth + 1 }
    let closing := if dialect.isExtended then [')'] else ['\\', ')']
    if closing.isPrefixOf after.rest then
      .ok (.group number body,
        { after with rest := after.rest.drop closing.length, depth := state.depth })
    else
      .error "Unmatched ( or \\("
  match dialect.isExtended, state.rest with
  | _, [] => .ok (.nothing, state)
  | _, '[' :: rest => do
      let (expression, after) ← readSet dialect rest
      .ok (expression, { state with rest := after })
  | _, '.' :: rest => .ok (.one fun _ => true, { state with rest := rest })
  | true, '(' :: rest | false, '\\' :: '(' :: rest => group rest
  | true, ')' :: _ | false, '\\' :: ')' :: _ => .error "Unmatched ) or \\)"
  | true, '^' :: rest => .ok (.lineStart, { state with rest := rest })
  | true, '$' :: rest => .ok (.lineStop, { state with rest := rest })
  | false, '^' :: rest =>
      if isFirst then .ok (.lineStart, { state with rest := rest }) else plain '^' rest
  | false, '$' :: rest =>
      if endsBranch dialect 1 rest then .ok (.lineStop, { state with rest := rest })
      else plain '$' rest
  | true, '*' :: rest =>
      if isFirst then .ok (.nothing, { state with rest := rest })
      else plain '*' rest
  | _, '\\' :: c :: rest =>
      if '1' ≤ c && c ≤ '9' then
        let number := c.toNat - '0'.toNat
        if number ≤ state.groups then
          .ok (.again number, { state with rest := rest })
        else
          .error "Invalid back reference"
      else
        match escape? dialect c with
        | some expression => .ok (expression, { state with rest := rest })
        | none => plain c rest
  | _, ['\\'] => .error "Trailing backslash"
  | _, c :: rest => plain c rest

/-- Reads a branch: expressions one after the other. -/
def branch (dialect : Dialect) (inner : ReadState → Except String (Regex × ReadState)) :
    Nat → Bool → Regex → ReadState → Except String (Regex × ReadState)
  | 0, _, done, state => .ok (done, state)
  | fuel + 1, isFirst, done, state =>
      if endsBranch dialect state.depth state.rest then
        .ok (done, state)
      else do
        let (expression, after) ← atom dialect inner isFirst state
        let isAnchor := match expression with
          | .lineStart => !dialect.isExtended
          | _ => false
        if isAnchor then
          branch dialect inner fuel true (.sequence done expression) after
        else
          let (whole, rest) ← repetitions dialect (after.rest.length + 1) expression after
          branch dialect inner fuel false (.sequence done whole) rest

/-- Reads branches, one of which is to match. -/
def branches (dialect : Dialect) (inner : ReadState → Except String (Regex × ReadState)) :
    Nat → Option Regex → ReadState → Except String (Regex × ReadState)
  | 0, done, state => .ok (done.getD .nothing, state)
  | fuel + 1, done, state => do
      let (next, after) ← branch dialect inner (state.rest.length + 1) true .nothing state
      let whole := match done with
        | none => next
        | some done => .either done next
      match dialect.isExtended, after.rest with
      | true, '|' :: rest | false, '\\' :: '|' :: rest =>
          branches dialect inner fuel (some whole) { after with rest := rest }
      | _, _ => .ok (whole, after)

/-- Reads an expression, with groups nested at most so deeply. -/
def read (dialect : Dialect) : Nat → ReadState → Except String (Regex × ReadState)
  | 0, _ => .error "Regular expression too big"
  | depth + 1, state => branches dialect (read dialect depth) (state.rest.length + 1) none state

/-- The regular expression that a text writes, and how many groups it has. -/
def ofText (dialect : Dialect) (text : List Char) : Except String (Regex × Nat) := do
  let (expression, state) ← read dialect (text.length + 1) { rest := text }
  match state.rest with
  | [] => .ok (expression, state.groups)
  | _ => .error "Unmatched ) or \\)"

/-- A place in a text. -/
structure Place where
  position : Nat := 0
  before : Option Char := none
  rest : List Char

/-- The parts that groups have matched. -/
abbrev Captures := List (Nat × List Char)

/-- A match: where it ends, its text, and the parts of its groups. -/
structure Found where
  stop : Place
  captures : Captures

/-- The first so many characters of a text. -/
def between (first last : Place) : List Char :=
  first.rest.take (last.position - first.position)

/-- Whether a match cannot be longer. -/
def isLongest (best : Option Found) : Bool :=
  best.any fun found => found.stop.rest.isEmpty

/-- Whether a place is at the edge of a word: whether a word character is before it, and after. -/
def sides (place : Place) : Bool × Bool :=
  (place.before.any isWordCharacter, place.rest.head?.any isWordCharacter)

/-- Looks for matches that begin at a place.  What follows the expression is given, and the best
match so far; the first argument bounds the search. -/
def explore (foldsCase : Bool) :
    Nat → Regex → Place → Captures → (Place → Captures → Option Found → Option Found) →
      Option Found → Option Found
  | 0, _, _, _, _, best => best
  | fuel + 1, expression, place, captures, next, best =>
      match expression with
      | .nothing => next place captures best
      | .one accepts =>
          match place.rest with
          | c :: rest =>
              if accepts c then next ⟨place.position + 1, some c, rest⟩ captures best else best
          | [] => best
      | .lineStart => if place.before.isNone then next place captures best else best
      | .lineStop => if place.rest.isEmpty then next place captures best else best
      | .wordStart => if sides place = (false, true) then next place captures best else best
      | .wordStop => if sides place = (true, false) then next place captures best else best
      | .wordEdge =>
          if (sides place).1 ≠ (sides place).2 then next place captures best else best
      | .wordInside =>
          if (sides place).1 = (sides place).2 then next place captures best else best
      | .sequence first second =>
          explore foldsCase fuel first place captures
            (fun place captures best =>
              explore foldsCase fuel second place captures next best)
            best
      | .either first second =>
          let better := explore foldsCase fuel first place captures next best
          if isLongest better then better
          else explore foldsCase fuel second place captures next better
      | .many body least most =>
          if most = some 0 then
            next place captures best
          else
            let repeated (best : Option Found) : Option Found :=
              explore foldsCase fuel body place captures
                (fun after captures best =>
                  if after.position = place.position then
                    if least = 0 then best else next after captures best
                  else
                    explore foldsCase fuel (.many body (least - 1) (most.map (· - 1))) after
                      captures next best)
                best
            if least = 0 then
              let better := repeated best
              if isLongest better then better else next place captures better
            else
              repeated best
      | .group number body =>
          explore foldsCase fuel body place captures
            (fun after captures best =>
              let others := captures.filter fun known => known.1 ≠ number
              next after ((number, between place after) :: others) best)
            best
      | .again number =>
          match captures.lookup number with
          | none => best
          | some text =>
              let here := place.rest.take text.length
              let isSame := if foldsCase then here.map Char.toLower = text.map Char.toLower
                else here = text
              if isSame then
                next
                  ⟨place.position + text.length, text.getLast?.or place.before,
                    place.rest.drop text.length⟩
                  captures best
              else
                best

/-- The longest match that begins at a place. -/
def matchAt (expression : Regex) (foldsCase : Bool) (place : Place) : Option Found :=
  explore foldsCase (Nat.pow 2 40) expression place []
    (fun stop captures best =>
      match best with
      | some found =>
          if found.stop.position < stop.position then some ⟨stop, captures⟩ else some found
      | none => some ⟨stop, captures⟩)
    none

/-- The first match that begins at a place or after it, with the place where it begins. -/
def search (expression : Regex) (foldsCase : Bool) :
    Nat → Option Char → List Char → Option (Place × Found)
  | position, before, text =>
      let place : Place := ⟨position, before, text⟩
      match matchAt expression foldsCase place with
      | some found => some (place, found)
      | none =>
          match text with
          | [] => none
          | c :: rest => search expression foldsCase (position + 1) (some c) rest

end Regex

end Tool

end Cadence
