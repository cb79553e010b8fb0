import Cadence.Shell.Reader

namespace Cadence

namespace Shell

/-!
# Words and tokens

A word ends at a character that is special outside quotation marks.  Within it,
quotation marks and expansions nest: every `${`, and every arithmetic expansion,
may open a frame in which other characters are special than around it, and the
frame is left when its closing character is read.
-/

/-- Which characters are special. -/
inductive Quoting
  | base
  | double
  | single
  | arithmetic
  deriving DecidableEq, Repr

/-- What a character does while a word is read. -/
inductive CharacterClass
  | ordinary
  /-- Would be special in a pattern or at the front of a word, and is quoted here. -/
  | guarded
  | newline
  | backslash
  | singleQuote
  | doubleQuote
  | endQuote
  | backquote
  | dollar
  | closeBrace
  | openParen
  | closeParen
  /-- Ends a word. -/
  | delimiter
  deriving DecidableEq, Repr

/-- The class of a character. -/
def Quoting.classify (quoting : Quoting) (c : Char) : CharacterClass :=
  match quoting with
  | .base =>
      match c with
      | '\n' => .newline
      | '\\' => .backslash
      | '\'' => .singleQuote
      | '"' => .doubleQuote
      | '\x60' => .backquote
      | '$' => .dollar
      | '}' => .closeBrace
      | '<' | '>' | '(' | ')' | ';' | '&' | '|' | ' ' | '\t' => .delimiter
      | _ => .ordinary
  | .double =>
      match c with
      | '\n' => .newline
      | '\\' => .backslash
      | '"' => .endQuote
      | '\x60' => .backquote
      | '$' => .dollar
      | '}' => .closeBrace
      | '!' | '*' | '?' | '[' | '=' | '~' | ':' | '/' | '-' | ']' => .guarded
      | _ => .ordinary
  | .single =>
      match c with
      | '\n' => .newline
      | '\'' => .endQuote
      | '!' | '*' | '?' | '[' | '=' | '~' | ':' | '/' | '-' | ']' | '\\' => .guarded
      | _ => .ordinary
  | .arithmetic =>
      match c with
      | '\n' => .newline
      | '\\' => .backslash
      | '\x60' => .backquote
      | '$' => .dollar
      | '}' => .closeBrace
      | '(' => .openParen
      | ')' => .closeParen
      | _ => .ordinary

/-- A level of nesting within a word. -/
structure Frame where
  quoting : Quoting
  /-- Whether the level is within double quotation marks. -/
  isDouble : Bool := false
  /-- How many braces are open, and how many of them were opened within double quotation marks. -/
  braces : Nat := 0
  doubleBraces : Nat := 0
  /-- Whether a double quotation mark is open within the braces. -/
  innerDouble : Bool := false
  parens : Nat := 0
  /-- Whether the level ends with its last brace. -/
  endsWithBraces : Bool := false

/-- An expansion whose end has not been read. -/
inductive Unfinished
  | parameter (name : List Char) (operation : Operation)
  | arithmetic

/-- A word that is being read.  Pieces are held in reverse. -/
structure WordState where
  frame : Frame
  outer : List Frame := []
  pieces : List Piece := []
  unfinished : List (Unfinished × List Piece) := []
  /-- How many quotations have ended. -/
  quotations : Nat := 0

/-- The document that is being read. -/
structure DocumentEnd where
  mark : List Char
  stripsTabs : Bool

namespace WordState

/-- The state with one more piece. -/
def add (state : WordState) (piece : Piece) : WordState :=
  { state with pieces := piece :: state.pieces }

/-- The state with one more character. -/
def put (state : WordState) (c : Char) (isQuoted : Bool) : WordState :=
  state.add (.char c isQuoted)

/-- The state with its innermost level changed. -/
def modifyFrame (state : WordState) (change : Frame → Frame) : WordState :=
  { state with frame := change state.frame }

/-- The state with a new innermost level. -/
def push (state : WordState) (frame : Frame) : WordState :=
  { state with frame := frame, outer := state.frame :: state.outer }

/-- The state without its innermost level. -/
def pop (state : WordState) : WordState :=
  match state.outer with
  | [] => state
  | frame :: outer => { state with frame := frame, outer := outer }

/-- The state after the start of an expansion. -/
def start (state : WordState) (opening : Unfinished) : WordState :=
  { state with pieces := [], unfinished := (opening, state.pieces) :: state.unfinished }

/-- The state after the end of an expansion. -/
def finish (state : WordState) : WordState :=
  match state.unfinished with
  | [] => state
  | (opening, before) :: others =>
      let piece : Piece :=
        match opening with
        | .parameter name operation => .parameter name operation state.pieces.reverse
        | .arithmetic => .arithmetic state.pieces.reverse
      { state with pieces := piece :: before, unfinished := others }

end WordState

namespace Reading

/-- Skips to the first character of a line of a document; none if the line ends the document. -/
def documentLine (document : Option DocumentEnd) (c : Option Char) : Reading (Option Char) := do
  match document with
  | none => pure c
  | some document =>
      unread c
      if document.stripsTabs then
        drop ((← get).input.takeWhile (· = '\t')).length
      let ends := (← startsWith (document.mark ++ ['\n'])) || (← get).input = document.mark
      if ends then
        drop (document.mark.length + 1)
        pure none
      else
        next

/-- Reads the text up to a backquote.  A backslash stays where it does not quote. -/
def backquoted (isDouble : Bool) : Nat → List Char → Reading (List Char)
  | 0, text => pure text.reverse
  | fuel + 1, text => do
      match ← nextJoined with
      | none => fail "EOF in backquote substitution"
      | some '\x60' => pure text.reverse
      | some '\\' =>
          match ← next with
          | none => fail "EOF in backquote substitution"
          | some c =>
              if c = '\\' || c = '\x60' || c = '$' || (isDouble && c = '"') then
                backquoted isDouble fuel (c :: text)
              else
                backquoted isDouble fuel (c :: '\\' :: text)
      | some c => backquoted isDouble fuel (c :: text)

/-- Reads the command between backquotes, whose lines are counted from 1. -/
def backquotedCommand (commands : Reading (Option Command)) (isDouble : Bool) :
    Reading (Option Command) := do
  let text ← backquoted isDouble ((← get).remaining + 1) []
  let outer ← get
  set { outer with
        input := text
        remaining := text.length
        line := 1
        aliasesInUse := []
        isPushedBack := false
        pending := [] }
  let command ← commands
  modify fun inner =>
    { inner with
      input := outer.input
      remaining := outer.remaining
      line := outer.line
      aliasesInUse := outer.aliasesInUse
      isPushedBack := false
      pending := outer.pending }
  pure command

/-- Reads a name, or the digits of a number. -/
def takeJoined (accepts : Char → Bool) :
    Nat → List Char → Option Char → Reading (List Char × Option Char)
  | 0, taken, c => pure (taken.reverse, c)
  | fuel + 1, taken, c => do
      match c with
      | none => pure (taken.reverse, none)
      | some c =>
          if accepts c then
            takeJoined accepts fuel (c :: taken) (← nextJoined)
          else
            pure (taken.reverse, some c)

/-- Whether a character is a parameter of its own. -/
def isSpecialParameter (c : Option Char) : Bool :=
  match c with
  | none => false
  | some c => c.isDigit || "*@#?$!-".toList.contains c

/-- Whether a character begins the name of a parameter. -/
def isParameterStart (c : Option Char) : Bool :=
  c.any isNameStart || isSpecialParameter c

/-- The parameter of an expansion with what is known of its operation: none if the operation stands
next, and the next character. -/
structure ParameterHead where
  name : List Char
  operation : Option Operation
  next : Option Char

/-- Reads the parameter of an expansion whose first character is `c`. -/
def parameterName (isBraced : Bool) (c : Option Char) : Reading ParameterHead := do
  let bound := (← get).remaining + 1
  let known : Option Operation := if isBraced then none else some .value
  match c with
  | none => pure ⟨[], some (.unknown false), none⟩
  | some '}' => pure ⟨[], some (.unknown false), some '}'⟩
  | some first =>
      if isNameStart first then
        let (name, after) ← takeJoined isNamePart bound [] c
        pure ⟨name, known, after⟩
      else if first.isDigit then
        if isBraced then
          let (name, after) ← takeJoined Char.isDigit bound [] c
          pure ⟨name, known, after⟩
        else
          pure ⟨[first], known, ← nextJoined⟩
      else
        let second ← nextJoined
        if isBraced && first = '#' then
          if second.any isNameStart then
            let (name, after) ← takeJoined isNamePart bound [] second
            pure ⟨name, some .length, after⟩
          else if second.any Char.isDigit then
            let (name, after) ← takeJoined Char.isDigit bound [] second
            pure ⟨name, some .length, after⟩
          else
            let third ← nextJoined
            if second = some '}' || third ≠ some '}' then
              unread third
              pure ⟨['#'], none, second⟩
            else if isSpecialParameter second then
              pure ⟨second.toList, some .length, third⟩
            else
              pure ⟨[], some (.unknown false), third⟩
        else if isSpecialParameter c then
          pure ⟨[first], known, second⟩
        else
          pure ⟨[], some (.unknown false), second⟩

/-- Reads the operation of an expansion, whose first character is `c`. -/
def parameterOperation (c : Option Char) : Reading Operation := do
  match c with
  | some '%' =>
      let second ← nextJoined
      if second = some '%' then
        pure (.cutEnd true)
      else
        unread second
        pure (.cutEnd false)
  | some '#' =>
      let second ← nextJoined
      if second = some '#' then
        pure (.cutStart true)
      else
        unread second
        pure (.cutStart false)
  | _ =>
      let emptyToo := c = some ':'
      let sign ← if emptyToo then nextJoined else pure c
      match sign with
      | some '}' => pure (if emptyToo then .unknown true else .value)
      | some '-' => pure (.orElse emptyToo)
      | some '+' => pure (.ifSet emptyToo)
      | some '?' => pure (.orFail emptyToo)
      | some '=' => pure (.orAssign emptyToo)
      | _ => pure (.unknown emptyToo)

/-- Which characters are special in the word of an operation. -/
def operandQuoting (around : Quoting) (operation : Operation) : Quoting :=
  match operation with
  | .cutStart _ | .cutEnd _ => .base
  | _ => if around = .arithmetic then .double else around

/-- Reads a parameter expansion after its dollar sign. -/
def parameter (state : WordState) (c : Option Char) : Reading WordState := do
  let isBraced := c = some '{'
  let first ← if isBraced then nextJoined else pure c
  let head ← parameterName isBraced first
  let operation ←
    match head.operation with
    | none => parameterOperation head.next
    | some .length =>
        unread head.next
        pure (if head.next = some '}' then .length else .unknown false)
    | some known =>
        unread head.next
        pure known
  if operation = .value then
    pure (state.add (.parameter head.name .value []))
  else
    let quoting := operandQuoting state.frame.quoting operation
    let started := state.start (.parameter head.name operation)
    let framed :=
      if quoting ≠ state.frame.quoting || state.frame.innerDouble then
        started.push
          { quoting := quoting, isDouble := quoting ≠ .base, endsWithBraces := true }
      else
        started
    pure <| framed.modifyFrame fun frame =>
      { frame with
        braces := frame.braces + 1
        doubleBraces := frame.doubleBraces + (if frame.isDouble then 1 else 0) }

/-- Fails because of the last token. -/
def unexpected {α : Type} (expecting : Option Token) : Reading α := do
  let last := (← get).token.describe ++ " unexpected"
  match expecting with
  | none => fail last
  | some token => fail (last ++ " (expecting " ++ token.describe ++ ")")

/-- Fails unless the last token is the one that is expected. -/
def expectLast (token : Token) : Reading Unit := do
  if (← get).token ≠ token then
    unexpected (some token)

/-- Reads what a dollar sign begins. -/
def expansion (commands : Reading (Option Command)) (inMark : Bool) (state : WordState) :
    Reading WordState := do
  let c ← nextJoined
  let begins := c = some '(' || c = some '{' || isParameterStart c
  if inMark || !begins then
    unread c
    pure (state.put '$' false)
  else if c = some '(' then
    let second ← nextJoined
    if second = some '(' then
      pure ((state.start .arithmetic).push { quoting := .arithmetic, isDouble := true })
    else
      unread second
      let pending := (← get).pending
      modify fun reader => { reader with pending := [] }
      let command ← commands
      modify fun reader => { reader with pending := pending }
      expectLast .closeParen
      modify fun reader => { reader with isPushedBack := false }
      pure (state.add (.substitution command))
  else
    parameter state c

/-- Reads what a closing brace ends. -/
def closeBrace (state : WordState) : WordState :=
  let frame := state.frame
  if frame.innerDouble || frame.braces = 0 then
    state.put '}' false
  else
    let closed := state.finish.modifyFrame fun frame => { frame with braces := frame.braces - 1 }
    if frame.braces = 1 && frame.endsWithBraces then
      closed.pop
    else
      closed.modifyFrame fun frame => { frame with doubleBraces := frame.doubleBraces - 1 }

/-- Reads what a closing parenthesis ends in an arithmetic expansion. -/
def closeParen (state : WordState) : Reading WordState := do
  if 0 < state.frame.parens then
    pure ((state.put ')' false).modifyFrame fun frame => { frame with parens := frame.parens - 1 })
  else
    let second ← nextJoined
    if second = some ')' then
      pure state.finish.pop
    else
      unread second
      pure (state.put ')' false)

/-- The state after a quotation mark. -/
def quotationMark (state : WordState) (inDocument isDouble : Bool) : WordState :=
  let toggled :=
    if isDouble && 0 < state.frame.braces then
      state.modifyFrame fun frame => { frame with innerDouble := !frame.innerDouble }
    else
      state
  if inDocument then toggled else toggled.add .mark

/-- Reads what a backslash quotes. -/
def quoted (state : WordState) (inDocument : Bool) : Reading WordState := do
  match ← next with
  | none =>
      pure (state.put '\\' true)
  | some '\n' => pure state
  | some c =>
      let frame := state.frame
      let stays :=
        frame.isDouble && c ≠ '\\' && c ≠ '\x60' && c ≠ '$' &&
          (c ≠ '"' || (inDocument && frame.braces = 0)) && (c ≠ '}' || frame.braces = 0)
      let before := if stays then state.put '\\' true else state
      pure { before.put c true with quotations := state.quotations + 1 }

/-- Reads the rest of a word, whose next character is `c`; the answer has the character after it. -/
def wordRest (commands : Reading (Option Command)) (document : Option DocumentEnd) (inMark : Bool) :
    Nat → WordState → Option Char → Reading (WordState × Option Char)
  | 0, state, c => pure (state, c)
  | _ + 1, state, none => pure (state, none)
  | fuel + 1, state, some c => do
      let frame := state.frame
      let continue_ (state : WordState) : Reading (WordState × Option Char) := do
        let c ← if state.frame.quoting = .single then next else nextJoined
        wordRest commands document inMark fuel state c
      match frame.quoting.classify c with
      | .newline =>
          if frame.quoting = .base && frame.braces = 0 then
            pure (state, some c)
          else
            let line ← documentLine document (← next)
            wordRest commands document inMark fuel (state.put c false) line
      | .ordinary => continue_ (state.put c false)
      | .guarded =>
          continue_ (state.put c (document.isNone || frame.isDouble || 0 < frame.braces))
      | .backslash => continue_ (← quoted state document.isSome)
      | .singleQuote =>
          continue_ <| quotationMark
            (state.modifyFrame fun frame => { frame with quoting := .single })
            document.isSome false
      | .doubleQuote =>
          continue_ <| quotationMark
            (state.modifyFrame fun frame => { frame with quoting := .double, isDouble := true })
            document.isSome true
      | .endQuote =>
          if document.isSome && frame.braces = 0 then
            continue_ (state.put c false)
          else
            let left :=
              if frame.doubleBraces = 0 then
                state.modifyFrame fun frame => { frame with quoting := .base, isDouble := false }
              else
                state
            continue_ <| quotationMark { left with quotations := left.quotations + 1 }
              document.isSome (c = '"')
      | .dollar => continue_ (← expansion commands inMark state)
      | .closeBrace => continue_ (closeBrace state)
      | .openParen =>
          continue_ <| (state.put c false).modifyFrame fun frame =>
            { frame with parens := frame.parens + 1 }
      | .closeParen => continue_ (← closeParen state)
      | .backquote =>
          if inMark then
            continue_ (state.put c false)
          else
            let command ← backquotedCommand commands frame.isDouble
            continue_ (state.add (.substitution command))
      | .delimiter =>
          if frame.braces = 0 then
            pure (state, some c)
          else
            continue_ (state.put c false)

/-- Fails if a word is not complete. -/
def checkComplete (state : WordState) (inDocument : Bool) : Reading Unit := do
  if state.frame.quoting = .arithmetic then
    fail "Missing '))'"
  else if state.frame.quoting ≠ .base && !inDocument then
    fail "Unterminated quoted string"
  else if state.frame.braces ≠ 0 then
    fail "Missing '\x7d'"

/-- More steps than any reading takes. -/
def patience : Nat := Nat.pow 2 40

/-- Reads the rest of a redirection after its first character. -/
def redirectionStart (c : Char) : Reading RedirectionStart := do
  let second ← nextJoined
  if c = '>' then
    match second with
    | some '>' => pure (.file .append)
    | some '|' => pure (.file .forced)
    | some '&' => pure .copy
    | _ =>
        unread second
        pure (.file .output)
  else
    match second with
    | some '<' =>
        let third ← nextJoined
        if third = some '-' then
          pure (.document true)
        else
          unread third
          pure (.document false)
    | some '&' => pure .copy
    | some '>' => pure (.file .both)
    | _ =>
        unread second
        pure (.file .input)

/-- Reads a word or a redirection whose first character is `c`. -/
def wordToken (commands : Reading (Option Command)) (c : Option Char) : Reading Token := do
  let inMark := (← get).checks.endMark
  let (state, after) ← wordRest commands none inMark patience { frame := { quoting := .base } } c
  checkComplete state false
  let number? : Option (Option Nat) :=
    match state.pieces with
    | [] => some none
    | [.char digit false] =>
        if digit.isDigit then some (some (digit.toNat - '0'.toNat)) else none
    | _ => none
  let token ←
    match number?, after with
    | some number, some c =>
        if (c = '<' || c = '>') && state.quotations = 0 then do
          let start ← redirectionStart c
          let usual := if c = '<' then 0 else 1
          modify fun reader => { reader with redirection := (number.getD usual, start) }
          pure Token.redirection
        else do
          unread after
          pure .word
    | _, _ => do
        unread after
        pure .word
  modify fun reader =>
    { reader with
      token := token
      word := state.pieces.reverse
      isQuoted := state.quotations ≠ 0 }
  pure token

/-- Skips a comment. -/
def skipComment : Reading Unit := do
  let comment := (← get).input.takeWhile (· ≠ '\n')
  drop comment.length

/-- Reads the next token, whatever it may mean. -/
def rawToken (commands : Reading (Option Command)) : Nat → Reading Token
  | 0 => pure .stop
  | fuel + 1 => do
      let read (token : Token) : Reading Token := do
        modify fun reader => { reader with token := token }
        pure token
      let either (second : Char) (double single : Token) : Reading Token := do
        let c ← nextJoined
        if c = some second then
          read double
        else
          unread c
          read single
      if (← get).isPushedBack then
        modify fun reader => { reader with isPushedBack := false }
        pure (← get).token
      else
        match ← nextJoined with
        | none => read .stop
        | some c =>
            match c with
            | ' ' | '\t' => rawToken commands fuel
            | '#' =>
                skipComment
                rawToken commands fuel
            | '\n' => read .newline
            | '&' => either '&' .andIf .ampersand
            | '|' => either '|' .orIf .pipe
            | ';' => either ';' .endCase .semicolon
            | '(' => read .openParen
            | ')' => read .closeParen
            | c => wordToken commands (some c)

/-- Reads a document. -/
def readDocument (commands : Reading (Option Command)) (pending : PendingDocument) :
    Reading Unit := do
  let document : DocumentEnd := ⟨pending.mark, pending.stripsTabs⟩
  let quoting : Quoting := if pending.isExpanded then .double else .single
  let first ← if pending.isExpanded then nextJoined else next
  let c ← documentLine (some document) first
  let (state, after) ←
    wordRest commands (some document) false patience
      { frame := { quoting := quoting, isDouble := pending.isExpanded } } c
  checkComplete state true
  unread after
  modify fun reader =>
    { reader with documents := reader.documents.set! pending.number state.pieces.reverse }

/-- Reads the documents that begin after the line. -/
def readDocuments (commands : Reading (Option Command)) : Reading Unit := do
  let pending := (← get).pending
  modify fun reader => { reader with pending := [] }
  pending.forM (readDocument commands)

/-- Pushes the last token back, so that it is read again. -/
def pushBack : Reading Unit :=
  modify fun reader => { reader with isPushedBack := true }

/-- Skips newlines, with the documents that begin after them. -/
def skipNewlines (commands : Reading (Option Command)) : Nat → Token → Reading Token
  | 0, token => pure token
  | fuel + 1, token => do
      if token = .newline then
        readDocuments commands
        modify fun reader => { reader with checks := {} }
        skipNewlines commands fuel (← rawToken commands patience)
      else
        pure token

/-- Reads a token, and replaces it as long as it is an alias. -/
def tokenWith (commands : Reading (Option Command)) : Nat → Checks → Reading Token
  | 0, _ => pure .stop
  | fuel + 1, checks => do
      let raw ← rawToken commands patience
      let token ← if checks.newlines then skipNewlines commands patience raw else pure raw
      let reader ← get
      let checks : Checks :=
        { checks with
          keywords := checks.keywords || reader.checks.keywords
          aliases := checks.aliases || reader.checks.aliases }
      set { reader with checks := {} }
      if token ≠ .word || reader.isQuoted then
        pure token
      else
        match Word.plain? reader.word with
        | none => pure token
        | some text =>
            match if checks.keywords then Keyword.ofText? text else none with
            | some keyword =>
                modify fun reader => { reader with token := .keyword keyword }
                pure (.keyword keyword)
            | none =>
                let replacement? ← if checks.aliases then alias? text else pure none
                match replacement? with
                | none => pure token
                | some replacement =>
                    if !replacement.isEmpty then
                      useAlias text replacement
                    tokenWith commands fuel checks

/-- Reads the next token. -/
def token (commands : Reading (Option Command)) : Reading Token := do
  tokenWith commands patience (← get).checks

/-- Says what to look for when the next token is read. -/
def check (checks : Checks) : Reading Unit :=
  modify fun reader => { reader with checks := checks }

end Reading

end Shell

end Cadence
