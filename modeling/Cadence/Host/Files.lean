import Cadence.Host.Request

namespace Cadence

namespace Host

/-!
# Files

The tree of files.  A file is a node with a number; node 0 is the root, and a
directory knows its entries and the directory above it.  A path is looked up name
by name: links are followed, and `..` leads to the directory above.
-/

/-- A device behind a file. -/
inductive Device
  /-- Has nothing to read and takes everything. -/
  | null
  /-- Gives bytes 0 and takes everything. -/
  | zero
  /-- Gives bytes 0 and has no room. -/
  | full
  | random
  /-- The terminal of the process, which has none. -/
  | terminal
  deriving DecidableEq, Repr

/-- What a file holds. -/
inductive Content
  | directory (entries : List (List Char × Nat)) (parent : Nat)
  | regular (data : List Char)
  | link (target : List Char)
  | device (device : Device)
  | fifo (pipe : Option Nat)
  | program (name : String)
  /-- The directory of the descriptors of the process that looks. -/
  | descriptors (parent : Nat)
  deriving Repr

namespace Content

/-- What kind of file holds such a content. -/
def kind : Content → FileKind
  | directory .. => .directory
  | regular _ => .regular
  | link _ => .link
  | device _ => .characterDevice
  | fifo _ => .fifo
  | program _ => .regular
  | descriptors _ => .directory

/-- Whether names can be looked up in it. -/
def isDirectory : Content → Bool
  | directory .. => true
  | descriptors _ => true
  | _ => false

/-- The number of bytes that a status tells. -/
def size : Content → Nat
  | directory .. => 4096
  | regular data => data.length
  | link target => target.length
  | program _ => 39256
  | _ => 0

end Content

/-- A file: its content, who may use it, and when it last changed. -/
structure Node where
  content : Content
  mode : Nat
  modified : Nat

/-- The files of a host. -/
structure Files where
  nodes : Array Node

namespace Files

/-- The node of a number. -/
def node (files : Files) (index : Nat) : Node :=
  files.nodes.getD index ⟨.regular [], 0, 0⟩

/-- The content of a node. -/
def content (files : Files) (index : Nat) : Content :=
  (files.node index).content

/-- The files after a change of one. -/
def modify (files : Files) (index : Nat) (change : Node → Node) : Files :=
  ⟨files.nodes.modify index change⟩

/-- What is told about a file. -/
def statusOf (files : Files) (index : Nat) : FileStatus :=
  let node := files.node index
  { kind := node.content.kind
    mode := node.mode
    size := node.content.size
    serial := index
    modified := node.modified }

/-- The longest name of a file. -/
def longestName : Nat := 255

/-- No path is so long. -/
def pathBound : Nat := 4096

/-- The most links that one path may lead through. -/
def mostLinks : Nat := 40

/-- The names of a path; a path that ends in a slash leads to what is in the directory before it. -/
def names (path : List Char) : List (List Char) :=
  let named := (path.splitOn '/').filter fun name => !name.isEmpty
  if path.getLast? = some '/' then named ++ [['.']] else named

/-- What is found where a path leads. -/
inductive Place
  | node (index : Nat)
  /-- Nothing, but a file could be made here. -/
  | vacancy
  /-- The descriptor of a number. -/
  | descriptor (number : Nat)
  deriving DecidableEq, Repr

/-- Where a path leads: a name in a directory, and what is there. -/
structure Location where
  directory : Nat
  name : List Char
  place : Place
  deriving Repr

/-- The number that decimal digits write. -/
def number? (digits : List Char) : Option Nat :=
  if digits.isEmpty || !digits.all Char.isDigit then
    none
  else
    some (digits.foldl (fun value digit => 10 * value + (digit.toNat - '0'.toNat)) 0)

/-- Looks names up from a directory.  At most `links` links are followed; the last name is followed
on request. -/
def walk (files : Files) (follow : Bool) :
    Nat → Nat → Nat → List (List Char) → Except Errno Location
  | 0, _, _, _ => .error .tooManyLinks
  | _ + 1, _, here, [] => .ok ⟨here, ['.'], .node here⟩
  | fuel + 1, links, here, name :: rest =>
      if longestName < name.length then
        .error .nameTooLong
      else
        match files.content here with
        | .directory entries parent =>
            if name = ['.'] then
              walk files follow fuel links here rest
            else if name = ['.', '.'] then
              walk files follow fuel links parent rest
            else
              match entries.lookup name with
              | none => if rest.isEmpty then .ok ⟨here, name, .vacancy⟩ else .error .noEntry
              | some index =>
                  match files.content index with
                  | .link target =>
                      if rest.isEmpty && !follow then
                        .ok ⟨here, name, .node index⟩
                      else if links = 0 then
                        .error .tooManyLinks
                      else
                        let start := if target.head? = some '/' then 0 else here
                        walk files follow fuel (links - 1) start (names target ++ rest)
                  | content =>
                      if rest.isEmpty then
                        .ok ⟨here, name, .node index⟩
                      else if content.isDirectory then
                        walk files follow fuel links index rest
                      else
                        .error .notDirectory
        | .descriptors parent =>
            if name = ['.'] then
              walk files follow fuel links here rest
            else if name = ['.', '.'] then
              walk files follow fuel links parent rest
            else
              match number? name with
              | none => .error .noEntry
              | some number =>
                  if rest.isEmpty then
                    .ok ⟨here, name, .descriptor number⟩
                  else
                    .error .notDirectory
        | _ => .error .notDirectory

/-- Looks a path up, seen from a directory. -/
def locate (files : Files) (here : Nat) (path : List Char) (follow : Bool) :
    Except Errno Location :=
  if path.isEmpty then
    .error .noEntry
  else if pathBound ≤ path.length then
    .error .nameTooLong
  else
    let start := if path.head? = some '/' then 0 else here
    files.walk follow (pathBound * (mostLinks + 1)) mostLinks start (names path)

/-- The path of a directory, from the names of the directories below it. -/
def climb (files : Files) : Nat → Nat → List (List Char) → Except Errno (List Char)
  | 0, _, _ => .error .noEntry
  | fuel + 1, here, below =>
      if here = 0 then
        .ok (if below.isEmpty then ['/'] else below.flatMap fun name => '/' :: name)
      else
        match files.content here with
        | .directory _ parent | .descriptors parent =>
            match files.content parent with
            | .directory entries _ =>
                match entries.find? fun entry => entry.2 = here with
                | none => .error .noEntry
                | some entry => files.climb fuel parent (entry.1 :: below)
            | _ => .error .noEntry
        | _ => .error .notDirectory

/-- The path of a directory without links. -/
def pathOf (files : Files) (here : Nat) : Except Errno (List Char) :=
  files.climb (files.nodes.size + 1) here []

/-- Whether a file can be made in a directory: it must still have a place in the tree. -/
def isAttached (files : Files) (directory : Nat) : Bool :=
  match files.content directory with
  | .directory .. => (files.pathOf directory).toOption.isSome
  | _ => false

/-- Enters a node into a directory, in the place of one of that name. -/
def enter (files : Files) (directory : Nat) (name : List Char) (index : Nat) (now : Nat) : Files :=
  files.modify directory fun node =>
    match node.content with
    | .directory entries parent =>
        let others := entries.filter fun entry => entry.1 ≠ name
        { node with content := .directory (others ++ [(name, index)]) parent, modified := now }
    | _ => node

/-- Takes a name out of a directory. -/
def erase (files : Files) (directory : Nat) (name : List Char) (now : Nat) : Files :=
  files.modify directory fun node =>
    match node.content with
    | .directory entries parent =>
        { node with
          content := .directory (entries.filter fun entry => entry.1 ≠ name) parent
          modified := now }
    | _ => node

/-- Makes a file in a directory; the answer is its number. -/
def make (files : Files) (directory : Nat) (name : List Char) (content : Content) (mode : Nat)
    (now : Nat) : Nat × Files :=
  let index := files.nodes.size
  let grown : Files := ⟨files.nodes.push ⟨content, mode, now⟩⟩
  (index, grown.enter directory name index now)

/-- Changes the content of a file. -/
def setContent (files : Files) (index : Nat) (content : Content) (now : Nat) : Files :=
  files.modify index fun node => { node with content := content, modified := now }

/-- The names in a directory, in the order in which they were entered. -/
def entriesOf (files : Files) (index : Nat) : Except Errno (List (List Char)) :=
  match files.content index with
  | .directory entries _ => .ok (entries.map Prod.fst)
  | .descriptors _ => .ok []
  | _ => .error .notDirectory

end Files

end Host

end Cadence
