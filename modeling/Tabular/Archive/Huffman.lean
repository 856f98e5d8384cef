set_option autoImplicit false

/-! # Bits and codes

A compressed content is a sequence of bits, the lowest bit of each byte first. Symbols are
written in a code in which no word starts another one. The code is given by the lengths of its
words alone: shorter words come first, words of one length in the order of their symbols, and
each word is the next one in binary.
-/

namespace Tabular.Archive

def bit? (bytes : ByteArray) (position : Nat) : Option Bool :=
  if h : position / 8 < bytes.size then some (bytes[position / 8].toNat.testBit (position % 8))
  else none

/-- The number in the next bits, the lowest one first, and the position behind it. -/
def number? (bytes : ByteArray) : (width position : Nat) → Option (Nat × Nat)
  | 0, position => some (0, position)
  | width + 1, position => do
    let b ← bit? bytes position
    let (n, position) ← number? bytes width (position + 1)
    some (2 * n + b.toNat, position)

/-- A code as a tree: a word leads from the root to its symbol. -/
inductive Code where
  | unused
  | symbol (n : Nat)
  | branch (zero one : Code)

namespace Code

def insert (n : Nat) : (word : List Bool) → Code → Code
  | [], _ => .symbol n
  | false :: word, .branch zero one => .branch (insert n word zero) one
  | true :: word, .branch zero one => .branch zero (insert n word one)
  | false :: word, _ => .branch (insert n word .unused) .unused
  | true :: word, _ => .branch .unused (insert n word .unused)

/-- The bits of a number, the highest one first. -/
def word (width value : Nat) : List Bool :=
  (List.range width).reverse.map fun i => value.testBit i

/-- Gives words to symbols in the order of their lengths. The words of a length start at `next`,
which is as long as the last word. -/
def assign (next length : Nat) : List (Nat × Nat) → Code → Code
  | [], code => code
  | (width, n) :: rest, code =>
    let value := next <<< (width - length)
    assign (value + 1) width rest (code.insert n (word width value))

/-- The code of the lengths of its words; the symbol at a length of zero has none. -/
def ofLengths (lengths : List Nat) : Code :=
  let used := lengths.zipIdx.filter fun p => p.1 ≠ 0
  assign 0 0 (used.mergeSort fun a b => a.1 ≤ b.1) .unused

/-- Reads a symbol and gives the position behind its word. -/
def read (bytes : ByteArray) : Code → (position : Nat) → Option (Nat × Nat)
  | .unused, _ => none
  | .symbol n, position => some (n, position)
  | .branch zero one, position =>
    match bit? bytes position with
    | none => none
    | some false => zero.read bytes (position + 1)
    | some true => one.read bytes (position + 1)

end Code

end Tabular.Archive
