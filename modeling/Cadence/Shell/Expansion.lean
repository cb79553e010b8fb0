import Cadence.Shell.Arithmetic
import Cadence.Shell.Children

namespace Cadence

namespace Shell

open Host

/-!
# Expansion of words

A word becomes segments: tildes, parameters, arithmetic and the output of commands
are replaced.  Where fields are wanted, the segments are split, and fields that
are patterns of paths are replaced by the paths that match.
-/

/-- How a word is expanded. -/
structure Mode where
  /-- Fields are wanted. -/
  splits : Bool := false
  /-- A tilde at the front stands for a home directory. -/
  hasTilde : Bool := false
  /-- The word is an assignment, in which a tilde may follow an equals sign or a colon. -/
  assigns : Bool := false
  /-- The word belongs to an expansion, so that its own characters are split too. -/
  isOperand : Bool := false
  isQuoted : Bool := false

namespace Running

/-- The home directory of a user; the empty name is that of the user. -/
def homeOf? (name : List Char) : Running (Option (List Char)) := do
  if name.isEmpty then
    valueOf? (chars "HOME")
  else
    match ← ask (.openFile (chars "/etc/passwd") OpenMode.forReading 0) with
    | .error _ => pure none
    | .ok descriptor =>
        let table ← readAll descriptor Reading.patience []
        let _ ← ask (.close descriptor)
        let entries := (table.splitOn '\n').map fun line => line.splitOn ':'
        pure <| (entries.find? fun entry => entry.head? = some name).bind fun entry => entry[5]?

/-- The name after a tilde, and what follows it; none if the tilde stands for itself. -/
def tildeName? (assigns : Bool) : Word → Option (List Char × Word)
  | [] => some ([], [])
  | .char c isQuoted :: rest =>
      if isQuoted then
        none
      else if c = '/' || (assigns && c = ':') then
        some ([], .char c false :: rest)
      else
        (tildeName? assigns rest).map fun (name, after) => (c :: name, after)
  | _ :: _ => none

/-- The segments of the text that an arithmetic expansion has computed. -/
def arithmeticValue (text : List Char) : Running (List Char) := do
  let store ← get
  let computed : Except ArithmeticFault (Int × Expression.Assigned) := do
    let expression ← Expression.ofText text
    (expression.evaluate store.value?).run []
  match computed with
  | .ok (value, assigned) =>
      assigned.reverse.forM fun (name, value) => setValue name (Numeral.decimal value)
      pure (Numeral.decimal value)
  | .error (.malformed reason) =>
      fault (chars "arithmetic expression: " ++ chars reason ++ chars ": \"" ++ text ++ ['"'])
  | .error .divisionByZero =>
      fault (chars "arithmetic expression: division by zero: \"" ++ text ++ ['"'])
  | .error (.notANumber text) => fault (chars "Illegal number: " ++ text)
  | .error .overflow => crash Signal.floatingPoint

/-- What stands between arguments that are joined: between fields a mark of its own, otherwise the
first separator. -/
def joint (store : Store) (separates : Bool) : List Char :=
  match store.separators with
  | none => [' ']
  | some separators => if separates then [Segment.argumentEnd] else separators.take 1

/-- Changes a value in its parts between the marks of arguments. -/
def inParts (change : List (List Char) → List (List Char)) (value : List Char) : List Char :=
  [Segment.argumentEnd].intercalate (change (value.splitOn Segment.argumentEnd))

/-- The value of a parameter. -/
def parameterValue (name : List Char) (mode : Mode) (isQuoted : Bool) :
    Running (Option (List Char)) := do
  let store ← get
  let number (value : Nat) : Running (Option (List Char)) := pure (some (Numeral.digits value))
  match name with
  | ['$'] => number store.process
  | ['?'] => number store.status
  | ['#'] => number store.arguments.length
  | ['!'] => pure (store.lastBackground.map Numeral.digits)
  | ['-'] => pure (some ("pubaCEVvxsnmiIfe".toList.filter store.hasOption))
  | ['0'] => pure (some store.name)
  | ['@'] =>
      if isQuoted && mode.splits then
        pure (some ([Segment.argumentEnd].intercalate store.arguments))
      else
        pure (some ((joint store (!isQuoted && mode.splits)).intercalate store.arguments))
  | ['*'] =>
      pure (some ((joint store (!isQuoted && mode.splits)).intercalate store.arguments))
  | name =>
      if name.all Char.isDigit then
        let index := Numeral.valueOf 10 name
        pure (if index = 0 then some store.name else store.arguments[index - 1]?)
      else
        pure (store.value? name)

/-- Fails because a parameter has no value. -/
def failUnset {α : Type} (name message : List Char) : Running α :=
  fault (name ++ chars ": " ++ message)

/-- Fails if parameters must be set and one is not. -/
def checkSet (name : List Char) (value : Option (List Char)) : Running Unit := do
  if value.isNone && (← get).hasOption 'u' then
    failUnset name (chars "parameter not set")

/-- The segments of a value. -/
def valueSegments (name value : List Char) (isQuoted : Bool) : Running (List Segment) := do
  let glyphs := Glyph.ofValue isQuoted value
  if !isQuoted then
    pure [⟨.fields, glyphs⟩]
  else if name = ['@'] && !(← get).arguments.isEmpty then
    pure [⟨.arguments, glyphs⟩]
  else
    pure [⟨.never, glyphs⟩]

/-- Adds a glyph to segments in reverse, as one more of the last segment if that is split alike. -/
def addGlyph (splitting : Splitting) (glyph : Glyph) (done : List Segment) : List Segment :=
  match done with
  | last :: others =>
      if last.splitting = splitting && splitting ≠ .arguments then
        ⟨splitting, glyph :: last.glyphs⟩ :: others
      else
        ⟨splitting, [glyph]⟩ :: done
  | [] => [⟨splitting, [glyph]⟩]

/-- The segments of a word that has been expanded in reverse. -/
def inOrder (done : List Segment) : List Segment :=
  done.reverse.map fun segment => { segment with glyphs := segment.glyphs.reverse }

/-- Adds whole segments to segments in reverse. -/
def addSegments (added done : List Segment) : List Segment :=
  (added.map fun segment => { segment with glyphs := segment.glyphs.reverse }).reverse ++ done

/-- Whether a value is taken for one, where an empty one may not count. -/
def counts (value : Option (List Char)) (emptyToo : Bool) : Bool :=
  match value with
  | none => false
  | some text => !(emptyToo && text.isEmpty)

/-- How far the expansion of a word has come. -/
structure Expanded where
  /-- The segments in reverse, with their glyphs in reverse. -/
  segments : List Segment := []
  /-- Whether a quotation is open. -/
  isOpen : Bool := false
  /-- Whether an equals sign has been seen in an assignment. -/
  afterEquals : Bool := false

/-- Whether a tilde may stand after a character of an assignment. -/
def allowsTilde (mode : Mode) (done : Expanded) (c : Char) : Bool :=
  mode.assigns && !mode.isQuoted && !done.isOpen && ((c = '=' && !done.afterEquals) || c = ':')

mutual

/-- Expands the rest of a word.  The first argument bounds the depth and the length of words. -/
def expandFrom (evaluate : Evaluator) :
    Nat → Mode → Bool → Expanded → Word → Running (List Segment)
  | 0, _, _, done, _ => pure (inOrder done.segments)
  | _ + 1, _, _, done, [] => pure (inOrder done.segments)
  | fuel + 1, mode, mayBeTilde, done, piece :: rest => do
      let isQuoted := mode.isQuoted || done.isOpen
      let add (added : List Segment) : Running (List Segment) :=
        expandFrom evaluate fuel mode false
          { done with segments := addSegments added done.segments } rest
      match piece with
      | .char c isGuarded =>
          let tilde? :=
            if mayBeTilde && c = '~' && !isGuarded then tildeName? mode.assigns rest else none
          let home? : Option (List Char × Word) ←
            match tilde? with
            | none => pure none
            | some (name, after) => do
                pure ((← homeOf? name).map fun home => (home, after))
          match home? with
          | some (home, after) =>
              let glyphs := Glyph.ofValue true home
              expandFrom evaluate fuel mode false
                { done with segments := addSegments [⟨.never, glyphs⟩] done.segments } after
          | none =>
              let splitting : Splitting :=
                if mode.isOperand && !isQuoted && !isGuarded then .fields else .never
              let next := !isGuarded && allowsTilde mode done c
              expandFrom evaluate fuel mode next
                { done with
                  segments := addGlyph splitting (.char c isGuarded) done.segments
                  afterEquals := done.afterEquals || (c = '=' && !isGuarded) }
                rest
      | .mark =>
          match rest with
          | .parameter ['@'] .value _ :: .mark :: after =>
              if done.isOpen then
                expandFrom evaluate fuel mode false
                  { done with
                    segments := addGlyph .never .mark done.segments
                    isOpen := false }
                  rest
              else
                let added ← expandParameter evaluate fuel mode true ['@'] .value []
                expandFrom evaluate fuel mode false
                  { done with segments := addSegments added done.segments } after
          | _ =>
              expandFrom evaluate fuel mode false
                { done with
                  segments := addGlyph .never .mark done.segments
                  isOpen := !done.isOpen }
                rest
      | .parameter name operation word =>
          add (← expandParameter evaluate fuel mode isQuoted name operation word)
      | .arithmetic expression =>
          let text ← expandFrom evaluate fuel {} false {} expression
          let value ← arithmeticValue (Segment.textOf text)
          add [⟨if isQuoted then .never else .fields, Glyph.ofValue isQuoted value⟩]
      | .substitution command =>
          match command with
          | none => add []
          | some command =>
              let output ← outputOf evaluate command
              add [⟨if isQuoted then .never else .fields, Glyph.ofValue isQuoted output⟩]

/-- Expands a parameter. -/
def expandParameter (evaluate : Evaluator) :
    Nat → Mode → Bool → List Char → Operation → Word → Running (List Segment)
  | 0, _, _, _, _, _ => pure []
  | fuel + 1, mode, isQuoted, name, operation, word => do
      let operand (mode : Mode) : Running (List Segment) :=
        expandFrom evaluate fuel mode true {} word
      let plain : Mode := { hasTilde := true }
      let inPlace : Mode := { mode with hasTilde := true, isOperand := true, isQuoted := isQuoted }
      match operation with
      | .unknown _ => fault (chars "Bad substitution")
      | .value =>
          let value ← parameterValue name mode isQuoted
          checkSet name value
          match value with
          | none => pure []
          | some value => valueSegments name value isQuoted
      | .length =>
          let value ← parameterValue name {} isQuoted
          checkSet name value
          let digits := Numeral.digits (value.getD []).length
          pure [⟨if isQuoted then .never else .fields, Glyph.ofValue isQuoted digits⟩]
      | .orElse emptyToo =>
          let value ← parameterValue name mode isQuoted
          if counts value emptyToo then
            valueSegments name (value.getD []) isQuoted
          else
            operand inPlace
      | .ifSet emptyToo =>
          let value ← parameterValue name mode isQuoted
          if counts value emptyToo then operand inPlace else pure []
      | .orAssign emptyToo =>
          let value ← parameterValue name mode isQuoted
          if counts value emptyToo then
            valueSegments name (value.getD []) isQuoted
          else
            setChecked name (Segment.textOf (← operand plain))
            let value ← parameterValue name mode isQuoted
            valueSegments name (value.getD []) isQuoted
      | .orFail emptyToo =>
          let value ← parameterValue name mode isQuoted
          if counts value emptyToo then
            valueSegments name (value.getD []) isQuoted
          else
            let message := Segment.textOf (← operand plain)
            if word.isEmpty then
              failUnset name
                (chars (if emptyToo then "parameter not set or null" else "parameter not set"))
            else
              failUnset name message
      | .cutStart isLongest =>
          let value ← parameterValue name mode isQuoted
          checkSet name value
          match value with
          | none => pure []
          | some value =>
              let pattern := Glyph.pattern (Segment.glyphsOf (← operand plain))
              valueSegments name (inParts (Pattern.cutStartAll isLongest pattern) value) isQuoted
      | .cutEnd isLongest =>
          let value ← parameterValue name mode isQuoted
          checkSet name value
          match value with
          | none => pure []
          | some value =>
              let pattern := Glyph.pattern (Segment.glyphsOf (← operand plain))
              valueSegments name (inParts (Pattern.cutEndAll isLongest pattern) value) isQuoted

end

/-- Expands a word. -/
def expand (evaluate : Evaluator) (mode : Mode) (word : Word) : Running (List Segment) :=
  expandFrom evaluate Reading.patience mode mode.hasTilde {} word

/-- The paths that match the parts of a pattern, after a path. -/
def matchParts : Nat → List Char → List (List Char) → Running (List (List Char))
  | 0, _, _ => pure []
  | _ + 1, path, [] => do
      match ← ask (.status path false) with
      | .ok _ => pure [path]
      | .error _ => pure []
  | fuel + 1, path, part :: rest => do
      if part = ['/'] || !hasMeta part then
        matchParts fuel (path ++ unquote part) rest
      else
        match ← ask (.entries (if path.isEmpty then ['.'] else path)) with
        | .error _ => pure []
        | .ok entries =>
            let wantsHidden := (unquote (part.take 2)).head? = some '.'
            let names := [['.'], ['.', '.']] ++ entries
            let matching := names.filter fun name =>
              (wantsHidden || name.head? ≠ some '.') && Pattern.isMatch part name
            let found ← matching.mapM fun name => matchParts fuel (path ++ name) rest
            pure found.flatten

/-- The texts of a field: the paths that it matches, or its own text if there are none. -/
def pathsOf (glyphs : List Glyph) : Running (List (List Char)) := do
  let text := Glyph.text glyphs
  if !text.any (fun c => c = '*' || c = '?' || c = '[') || (← get).hasOption 'f' then
    pure [text]
  else
    let pattern := Glyph.pattern glyphs
    if !hasMeta pattern then
      pure [text]
    else
      match ← matchParts (pattern.length + 1) [] (pathParts pattern) with
      | [] => pure [text]
      | paths => pure (paths.mergeSort precedes)

/-- The fields of a word. -/
def fieldsOf (evaluate : Evaluator) (word : Word) : Running (List (List Char)) := do
  match Word.plain? word with
  | some text =>
      if text.isEmpty || text.head? = some '~' || text.any fun c => "*?[".toList.contains c then
        fields
      else
        pure [text]
  | none => fields
where
  fields : Running (List (List Char)) := do
    let segments ← expand evaluate { splits := true, hasTilde := true } word
    let separators := (← get).separators.getD [' ', '\t', '\n']
    let paths ← (Segment.split separators none segments).mapM pathsOf
    pure paths.flatten

/-- The fields of words, one word after the other. -/
def allFields (evaluate : Evaluator) (words : List Word) : Running (List (List Char)) := do
  let fields ← words.mapM (fieldsOf evaluate)
  pure fields.flatten

/-- The text of a word that is not split. -/
def textOf (evaluate : Evaluator) (word : Word) : Running (List Char) := do
  pure (Segment.textOf (← expand evaluate { hasTilde := true } word))

/-- The text of an assignment. -/
def assignmentText (evaluate : Evaluator) (word : Word) : Running (List Char) := do
  pure (Segment.textOf (← expand evaluate { hasTilde := true, assigns := true } word))

/-- The text of a document. -/
def documentText (evaluate : Evaluator) (word : Word) : Running (List Char) := do
  pure (Segment.textOf (← expand evaluate { isQuoted := true } word))

/-- Whether a text matches the pattern of a word. -/
def matchesWord (evaluate : Evaluator) (word : Word) (text : List Char) : Running Bool := do
  let glyphs := Segment.glyphsOf (← expand evaluate { hasTilde := true } word)
  pure (Pattern.isMatch (Glyph.pattern glyphs) text)

end Running

end Shell

end Cadence
