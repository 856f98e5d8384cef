import Tabular.Archive
import Tabular.Archive.Inflate

set_option autoImplicit false

/-! # Reading archives

The directory of an archive is read as a whole, and a file only when it is asked for. The
directory is found from the last record; bytes may stand before the archive, and positions are
then counted from where it starts.
-/

namespace Tabular.Archive

/-- The number in so many bytes from a position on. -/
def field? (bytes : ByteArray) (position : Nat) : (width : Nat) → Option Nat
  | 0 => some 0
  | width + 1 => do
    let low ← if h : position < bytes.size then some bytes[position] else none
    let high ← field? bytes (position + 1) width
    some (256 * high + low.toNat)

structure Member where
  /-- The path, if its characters are known. -/
  name : Option String
  /-- The content is encrypted. -/
  encrypted : Bool
  /-- The number of the way in which the content is packed. -/
  method : Nat
  checksum : Nat
  /-- The position of the packed content. -/
  start : Nat
  packedSize : Nat
deriving DecidableEq

/-! ## The directory -/

/-- The position of the last record: the last place where its number stands and its comment fits
behind it. -/
def endPosition? (bytes : ByteArray) : (below : Nat) → Option Nat
  | 0 => none
  | below + 1 =>
    match field? bytes below 4, field? bytes (below + 20) 2 with
    | some mark, some comment =>
      if mark = endMark ∧ below + endSize + comment ≤ bytes.size then some below
      else endPosition? bytes below
    | _, _ => endPosition? bytes below

/-- The name in an entry. Only ASCII is known without the mark of UTF-8. -/
def nameOf? (marked : Bool) (bytes : ByteArray) : Option String :=
  if marked ∨ bytes.data.all (· < 128) then String.fromUTF8? bytes else none

/-- Reads a directory entry in an archive that starts at `origin` and whose directory starts at
`directory`, which comes after all contents. Gives the position behind the entry. -/
def readMember (bytes : ByteArray) (origin directory position : Nat) : Option (Member × Nat) := do
  let number (offset width : Nat) := field? bytes (position + offset) width
  if (← number 0 4) ≠ entryMark then none
  let flags ← number 8 2
  let nameSize ← number 28 2
  let next := position + 46 + nameSize + (← number 30 2) + (← number 32 2)
  let header := origin + (← number 42 4)
  if (← field? bytes header 4) ≠ headerMark then none
  let start := header + 30 + (← field? bytes (header + 26) 2) + (← field? bytes (header + 28) 2)
  if next ≤ bytes.size ∧ start ≤ directory then
    let m : Member :=
      { name := nameOf? (flags.testBit 11) (bytes.extract (position + 46) (position + 46 + nameSize))
        encrypted := flags.testBit 0
        method := ← number 10 2
        checksum := ← number 16 4
        start
        packedSize := ← number 20 4 }
    some (m, next)
  else none

/-- Reads so many directory entries. -/
def readMembers (bytes : ByteArray) (origin directory : Nat) :
    (count position : Nat) → Option (List Member)
  | 0, _ => some []
  | count + 1, position => do
    let (m, position) ← readMember bytes origin directory position
    let rest ← readMembers bytes origin directory count position
    some (m :: rest)

/-- The files that the directory of an archive lists. An archive has one part. -/
def members? (bytes : ByteArray) : Option (List Member) := do
  let last ← endPosition? bytes (bytes.size + 1 - endSize)
  let number (offset width : Nat) := field? bytes (last + offset) width
  let size ← number 12 4
  let offset ← number 16 4
  if (← number 4 2) ≠ (← number 6 2) ∨ last < size + offset then none
  -- Other bytes may stand in front of the archive. Its positions count them, or they do not.
  let shift := last - (size + offset)
  let origin := if field? bytes (shift + offset) 4 = some entryMark then shift else 0
  readMembers bytes origin (origin + offset) (← number 8 2) (origin + offset)

/-! ## Contents -/

/-- The listed file at a path, without regard to the case of ASCII letters. Of files with the
same name the last one counts. -/
def member? (members : List Member) (path : String) : Option Member := do
  let letters (s : String) := s.toList.map Char.toLower
  let name ← (members.filterMap Member.name).find? fun name => letters name = letters path
  members.reverse.find? fun m => m.name = some name

def Member.content? (m : Member) (bytes : ByteArray) : Option ByteArray :=
  let packed := bytes.extract m.start (m.start + m.packedSize)
  if m.encrypted then none
  else match m.method with
    | 0 => some packed
    | 8 => inflate? packed
    | _ => none

/-- The content has the checksum that the directory gives. -/
def Member.isIntact (m : Member) (content : ByteArray) : Bool :=
  (Archive.checksum content).toNat = m.checksum

end Tabular.Archive
