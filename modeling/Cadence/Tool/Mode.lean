import Cadence.Tool.Basic

namespace Cadence

namespace Tool

/-!
# Changes of file modes

A mode is written in octal digits or as clauses between commas.  A clause names
those whose rights change, and adds rights, takes them away or replaces them; a
clause that names nobody leaves alone what the mask of new files withholds.
-/

namespace Mode

/-- The bits of those that letters name. -/
def places (letters : Bytes) : Nat :=
  letters.foldl
    (fun bits letter =>
      bits ||| match letter with
        | 'u' => 0o4700
        | 'g' => 0o2070
        | 'o' => 0o1007
        | _ => 0o7777)
    0

/-- The rights of all that stand where someone has one of a mode. -/
def spread (mode : Nat) : Nat :=
  let right (bits : Nat) : Nat := if mode &&& bits = 0 then 0 else bits
  right 0o444 ||| right 0o222 ||| right 0o111

/-- The bits for the letters of rights. -/
def rights (isDirectory : Bool) (mode : Nat) (letters : Bytes) : Nat :=
  letters.foldl
    (fun bits letter =>
      bits ||| match letter with
        | 'r' => 0o444
        | 'w' => 0o222
        | 'x' => 0o111
        | 'X' => if isDirectory || mode &&& 0o111 ≠ 0 then 0o111 else 0
        | 's' => 0o6000
        | 't' => 0o1000
        | 'u' => spread (mode &&& 0o700)
        | 'g' => spread (mode &&& 0o070)
        | 'o' => spread (mode &&& 0o007)
        | _ => 0)
    0

/-- The bits of twelve that are not in a mode. -/
def inverted (mode : Nat) : Nat :=
  (mode % 0o10000) ^^^ 0o7777

/-- Applies the actions of a clause; none if they cannot be read.  The first argument bounds their
number. -/
def actions (isDirectory : Bool) (mask named : Nat) : Nat → Nat → Bytes → Option Nat
  | 0, _, _ => none
  | _, mode, [] => some mode
  | fuel + 1, mode, sign :: text =>
      let letters :=
        match text with
        | 'u' :: _ | 'g' :: _ | 'o' :: _ => text.take 1
        | text => text.takeWhile fun c => (chars "rwxXst").contains c
      let allowed := if named = 0 then inverted mask else named
      let bits := rights isDirectory mode letters &&& allowed
      let rest := text.drop letters.length
      match sign with
      | '+' => actions isDirectory mask named fuel (mode ||| bits) rest
      | '-' => actions isDirectory mask named fuel (mode &&& inverted bits) rest
      | '=' =>
          let kept := if named = 0 then 0 else mode &&& inverted named
          actions isDirectory mask named fuel (kept ||| bits) rest
      | _ => none

/-- Applies clauses. -/
def clauses (isDirectory : Bool) (mask : Nat) : Nat → List Bytes → Option Nat
  | mode, [] => some mode
  | mode, clause :: rest => do
      let who := clause.takeWhile fun c => (chars "ugoa").contains c
      let text := clause.drop who.length
      if text.isEmpty then
        none
      else
        let changed ← actions isDirectory mask (places who) (text.length + 1) mode text
        clauses isDirectory mask changed rest

/-- The mode that a text makes of another one; none if it cannot be read. -/
def change? (isDirectory : Bool) (mask mode : Nat) (text : Bytes) : Option Nat :=
  if !text.isEmpty && text.all fun c => '0' ≤ c && c ≤ '7' then
    let value := text.foldl (fun value c => 8 * value + (c.toNat - '0'.toNat)) 0
    if value ≤ 0o7777 then some value else none
  else
    clauses isDirectory mask mode (text.splitOn ',')

/-- A mode in letters, three for each of user, group and others. -/
def letters (mode : Nat) : Bytes :=
  let part (shift special : Nat) (both alone : Char) : Bytes :=
    let bits := mode / Nat.pow 2 shift % 8
    let mark (bit : Nat) (letter : Char) : Char := if bits &&& bit = 0 then '-' else letter
    let last :=
      if mode &&& special = 0 then mark 1 'x' else if bits &&& 1 = 0 then alone else both
    [mark 4 'r', mark 2 'w', last]
  part 6 0o4000 's' 'S' ++ part 3 0o2000 's' 'S' ++ part 0 0o1000 't' 'T'

end Mode

end Tool

end Cadence
