import Tabular.Archive.Huffman

set_option autoImplicit false

/-! # Decompression

A compressed content is a sequence of blocks. A block holds bytes as they are, or symbols of two
codes, which are fixed ones or come at the start of the block. A symbol is a byte, the end of the
block, or a length; a length is followed by a distance and stands for so many bytes again, from
so far back.

Every symbol and every block takes at least one bit, so the number of bits bounds the loops.
-/

namespace Tabular.Archive

/-! ## Lengths and distances -/

/-- The number of bits that follow a length symbol, counted from the first one. -/
def lengthBits (i : Nat) : Nat := if i < 8 ∨ i = 28 then 0 else (i - 4) / 4

def lengthBase (i : Nat) : Nat :=
  if i < 8 then i + 3 else if i = 28 then 258 else (4 + i % 4) <<< lengthBits i + 3

/-- The number of bits that follow a distance symbol. -/
def distanceBits (i : Nat) : Nat := if i < 4 then 0 else i / 2 - 1

def distanceBase (i : Nat) : Nat :=
  if i < 4 then i + 1 else (2 + i % 2) <<< distanceBits i + 1

/-- The byte at a distance back; before the first one there are zeros. -/
def byteBack (distance : Nat) (out : ByteArray) : UInt8 :=
  if h : out.size - distance < out.size then out[out.size - distance] else 0

/-- Appends so many bytes again, from a distance back. -/
def repeatBytes (distance : Nat) : (length : Nat) → ByteArray → ByteArray
  | 0, out => out
  | length + 1, out => repeatBytes distance length (out.push (byteBack distance out))

/-! ## Blocks -/

/-- Reads the symbols of a block, at most `fuel` of them. Gives the position behind the block. -/
def readSymbols (bytes : ByteArray) (literals distances : Code) :
    (fuel position : Nat) → ByteArray → Option (Nat × ByteArray)
  | 0, _, _ => none
  | fuel + 1, position, out => do
    let (s, position) ← literals.read bytes position
    if s < 256 then
      readSymbols bytes literals distances fuel position (out.push (UInt8.ofNat s))
    else if s = 256 then some (position, out)
    else
      -- A length and a distance, each a symbol and some bits behind it.
      let i := s - 257
      let (more, position) ← number? bytes (lengthBits i) position
      let (d, position) ← distances.read bytes position
      let (further, position) ← number? bytes (distanceBits d) position
      let distance := distanceBase d + further
      if i ≤ 28 ∧ d ≤ 29 ∧ distance ≤ out.size then
        readSymbols bytes literals distances fuel position
          (repeatBytes distance (lengthBase i + more) out)
      else none

def fixedLiterals : Code :=
  Code.ofLengths (List.replicate 144 8 ++ List.replicate 112 9 ++ List.replicate 24 7
    ++ List.replicate 8 8)

def fixedDistances : Code := Code.ofLengths (List.replicate 30 5)

/-- Reads the lengths of the words of a code, which are written in a code themselves: a length, or
how often the last length or zero is repeated. -/
def readLengths (bytes : ByteArray) (code : Code) (count : Nat) :
    (fuel position : Nat) → (backwards : List Nat) → Option (List Nat × Nat)
  | 0, _, _ => none
  | fuel + 1, position, backwards =>
    if count ≤ backwards.length then some (backwards.reverse, position)
    else do
      let (s, position) ← code.read bytes position
      if s < 16 then readLengths bytes code count fuel position (s :: backwards)
      else
        -- The symbols 16, 17 and 18 repeat; only the first of them repeats what stands in front.
        let (width, least) := if s = 16 then (2, 3) else if s = 17 then (3, 3) else (7, 11)
        let (n, position) ← number? bytes width position
        let last ← if s = 16 then backwards.head? else some 0
        readLengths bytes code count fuel position (List.replicate (least + n) last ++ backwards)

/-- The order in which the lengths of the code for lengths are given. -/
def lengthOrder : List Nat := [16, 17, 18, 0, 8, 7, 9, 6, 10, 5, 11, 4, 12, 3, 13, 2, 14, 1, 15]

def readTriples (bytes : ByteArray) : (count position : Nat) → Option (List Nat × Nat)
  | 0, position => some ([], position)
  | count + 1, position => do
    let (n, position) ← number? bytes 3 position
    let (ns, position) ← readTriples bytes count position
    some (n :: ns, position)

def readCodes (bytes : ByteArray) (position : Nat) : Option (Code × Code × Nat) := do
  let (more, position) ← number? bytes 5 position
  let (distances, position) ← number? bytes 5 position
  let (triples, position) ← number? bytes 4 position
  let (lengths, position) ← readTriples bytes (triples + 4) position
  let given := lengthOrder.zip lengths
  let code := Code.ofLengths ((List.range 19).map fun i => (given.lookup i).getD 0)
  -- Both codes are given by one list of lengths, so that a repetition may run from one into the
  -- other.
  let count := 257 + more + (distances + 1)
  let (lengths, position) ← readLengths bytes code count (count + 1) position []
  some (Code.ofLengths (lengths.take (257 + more)), Code.ofLengths (lengths.drop (257 + more)),
    position)

/-- Reads a block of bytes as they are, which starts at the next byte with its size and the
complement of it. -/
def readStored (bytes : ByteArray) (position : Nat) (out : ByteArray) :
    Option (Nat × ByteArray) := do
  let start := (position + 7) / 8
  let (size, _) ← number? bytes 16 (8 * start)
  let (complement, _) ← number? bytes 16 (8 * start + 16)
  if size + complement = 0xFFFF ∧ start + 4 + size ≤ bytes.size then
    some (8 * (start + 4 + size), out ++ bytes.extract (start + 4) (start + 4 + size))
  else none

/-- Reads blocks up to the last one, at most `blocks` of them with at most `fuel` symbols each. -/
def readBlocks (bytes : ByteArray) (fuel : Nat) :
    (blocks position : Nat) → ByteArray → Option ByteArray
  | 0, _, _ => none
  | blocks + 1, position, out => do
    let (last, position) ← number? bytes 1 position
    let (kind, position) ← number? bytes 2 position
    let (position, out) ← match kind with
      | 0 => readStored bytes position out
      | 1 => readSymbols bytes fixedLiterals fixedDistances fuel position out
      | 2 => do
        let (literals, distances, position) ← readCodes bytes position
        readSymbols bytes literals distances fuel position out
      | _ => none
    if last = 1 then some out else readBlocks bytes fuel blocks position out

def inflate? (bytes : ByteArray) : Option ByteArray :=
  let bits := 8 * bytes.size + 1
  readBlocks bytes bits bits 0 .empty

end Tabular.Archive
