import Cadence.Shell.Expansion

namespace Cadence

namespace Shell

open Host

/-!
# Redirecting descriptors

The operands of all redirections of a command are expanded before the first file
is opened.  What a redirection changes can be put aside, so that it is put back
when the command is over.
-/

/-- A redirection whose operand has been expanded. -/
inductive Redirected
  | file (descriptor : Nat) (opening : Opening) (path : List Char)
  | copy (descriptor : Nat) (source : Option Nat)
  | document (descriptor : Nat) (word : Word) (isExpanded : Bool)

/-- Where a redirection leads. -/
inductive Target
  /-- A descriptor of the shell's own, which is closed when it has been copied. -/
  | opened (descriptor : Nat)
  | shared (descriptor : Nat)
  | closed

namespace Redirected

/-- The descriptor that is redirected. -/
def descriptor : Redirected → Nat
  | file descriptor .. => descriptor
  | copy descriptor _ => descriptor
  | document descriptor .. => descriptor

end Redirected

namespace Running

/-- Expands the operand of a redirection. -/
def expandRedirection (evaluate : Evaluator) : Redirection → Running Redirected
  | .file descriptor opening path => do
      pure (.file descriptor opening (← textOf evaluate path))
  | .copy descriptor source => pure (.copy descriptor source)
  | .namedCopy descriptor source => do
      match ← textOf evaluate source with
      | ['-'] => pure (.copy descriptor none)
      | [c] =>
          if c.isDigit then
            pure (.copy descriptor (some (c.toNat - '0'.toNat)))
          else
            fault (chars "Syntax error: Bad fd number")
      | _ => fault (chars "Syntax error: Bad fd number")
  | .document descriptor number isExpanded => do
      pure (.document descriptor ((← get).documents.getD number []) isExpanded)

/-- Fails because a file cannot be opened. -/
def failOpening {α : Type} (path : List Char) (errno : Errno) (isCreated : Bool) : Running α :=
  let reason : List Char :=
    if errno = .noEntry || errno = .notDirectory then
      chars (if isCreated then "Directory nonexistent" else "No such file")
    else
      errno.text
  let action := if isCreated then "cannot create " else "cannot open "
  fault (chars action ++ path ++ chars ": " ++ reason)

/-- Opens a file; of a named pipe the other end is waited for. -/
def openFile (path : List Char) (how : OpenMode) : Running Nat := do
  match ← ask (.openFile path how 0o666) with
  | .error errno => failOpening path errno how.create
  | .ok descriptor =>
      match ← ask (.awaitPeer descriptor) with
      | .error errno => failOpening path errno how.create
      | .ok descriptor => pure descriptor

/-- Opens a file for output where files that exist are protected. -/
def openProtected (path : List Char) : Running Nat := do
  match ← ask (.status path true) with
  | .ok status =>
      if status.kind = .regular then
        failOpening path .alreadyExists true
      else
        openFile path OpenMode.forAppending
  | .error _ => openFile path OpenMode.forNewFile

/-- Up to so many bytes of a document are put into its pipe at once. -/
def documentBlock : Nat := 4096

/-- Opens a document for reading. -/
def openDocument (evaluate : Evaluator) (text : List Char) : Running Nat := do
  match ← ask .pipe with
  | .error _ => fault (chars "Pipe call failed")
  | .ok (reader, writer) =>
      if text.length ≤ documentBlock then
        let _ ← writeText writer text
      else
        let _ ← startCopy evaluate .foreground do
          let _ ← ask (.close reader)
          let _ ← writeText writer text
          modify fun store => { store with status := 0 }
          exit
      let _ ← ask (.close writer)
      pure reader

/-- Opens what a redirection leads to. -/
def openTarget (evaluate : Evaluator) : Redirected → Running Target
  | .copy _ none => pure .closed
  | .copy _ (some source) => pure (.shared source)
  | .document _ word isExpanded => do
      let text ← if isExpanded then documentText evaluate word else pure (Word.characters word)
      pure (.opened (← openDocument evaluate text))
  | .file _ opening path => do
      let descriptor ←
        match opening with
        | .input => openFile path OpenMode.forReading
        | .both => openFile path OpenMode.forBoth
        | .append => openFile path OpenMode.forAppending
        | .forced => openFile path OpenMode.forWriting
        | .output =>
            if (← get).hasOption 'C' then openProtected path
            else openFile path OpenMode.forWriting
      pure (.opened descriptor)

/-- Fails because a descriptor cannot be copied. -/
def failCopying {α : Type} (descriptor : Nat) (errno : Errno) : Running α :=
  fault (Numeral.digits descriptor ++ chars ": " ++ errno.text)

/-- Copies are held by descriptors from this number on. -/
def firstCopy : Nat := 10

/-- Puts a descriptor aside, unless the innermost redirections have done so before. -/
def putAside (descriptor : Nat) (isFree : Bool) : Running Unit := do
  match (← get).aside with
  | [] => pure ()
  | saved :: others =>
      if (saved.lookup descriptor).isNone then
        let copy : Option Nat ←
          if isFree then
            pure none
          else
            match ← ask (.duplicate descriptor firstCopy true) with
            | .ok copy => do
                let _ ← ask (.close descriptor)
                pure (some copy)
            | .error .badDescriptor => pure none
            | .error errno => do
                let _ ← ask (.close descriptor)
                failCopying descriptor errno
        modify fun store => { store with aside := ((descriptor, copy) :: saved) :: others }

/-- Makes a descriptor stand for what a redirection leads to. -/
def redirectOne (evaluate : Evaluator) (isSaved : Bool) (redirected : Redirected) :
    Running Unit := do
  let descriptor := redirected.descriptor
  let target ← openTarget evaluate redirected
  match target with
  | .closed =>
      if isSaved then
        putAside descriptor false
      let _ ← ask (.close descriptor)
  | .shared source =>
      if source ≠ descriptor then
        if isSaved then
          putAside descriptor false
        match ← ask (.replace source descriptor) with
        | .ok _ => pure ()
        | .error errno => failCopying source errno
  | .opened source =>
      if isSaved then
        putAside descriptor (source = descriptor)
      if source ≠ descriptor then
        match ← ask (.replace source descriptor) with
        | .ok _ =>
            let _ ← ask (.close source)
        | .error errno => do
            let _ ← ask (.close source)
            failCopying source errno

/-- Expands the operands of redirections. -/
def expandRedirections (evaluate : Evaluator) (redirections : List Redirection) :
    Running (List Redirected) :=
  redirections.mapM (expandRedirection evaluate)

/-- Performs redirections for good. -/
def redirect (evaluate : Evaluator) (redirected : List Redirected) : Running Unit :=
  redirected.forM (redirectOne evaluate false)

/-- Performs redirections until they are put back; the answer is whether that was possible. -/
def redirectAside (evaluate : Evaluator) (redirections : List Redirection) : Running Bool := do
  let redirected ← expandRedirections evaluate redirections
  modify fun store => { store with aside := [] :: store.aside }
  try
    redirected.forM (redirectOne evaluate true)
    pure true
  catch stop =>
    match stop with
    | .fault => pure false
    | _ => throw stop

end Running

end Shell

end Cadence
