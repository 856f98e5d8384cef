import Tabular.Json.Value
import Tabular.Text.Encoding
import Tabular.Number.Arithmetic
import Tabular.Number.Numeral

set_option autoImplicit false

/-! # Reading JSON

A reader takes symbols from the front of its input and gives what it read and the rest, or the
first fault. The grammar is strict: no comments, no trailing commas, no lone surrogates, no raw
controls in strings, and at most 127 containers inside each other, which is also what the
recursion descends on. A loop that reads part after part is bounded by the input that it started
with: it drops a symbol of its bound for each part, and a part has at least one symbol.

A floating-point number is read approximately: the digits that fit 64 bits are taken as one
whole number, and that is scaled once by a power of ten (`scaled?`).
-/

namespace Tabular.Json

open Text

abbrev Input := List Symbol

/-! ## Blanks and words -/

/-- The four blanks of JSON. -/
def isBlankSymbol : Symbol → Bool
  | some c => c = ' ' || c = '\n' || c = '\t' || c = '\r'
  | none => false

def skipBlanks (s : Input) : Input := s.dropWhile isBlankSymbol

def readWord : List Char → Input → Except Fault Input
  | [], s => .ok s
  | _ :: _, [] => .error .ended
  | c :: word, x :: rest => if x = some c then readWord word rest else .error .malformed

/-- Nothing but blanks is left. -/
def readEnd (s : Input) : Except Fault Unit :=
  if skipBlanks s = [] then .ok () else .error .malformed

/-! ## Strings -/

def hexValue? (c : Char) : Option Nat :=
  if '0' ≤ c ∧ c ≤ '9' then some (c.toNat - '0'.toNat)
  else if 'a' ≤ c ∧ c ≤ 'f' then some (c.toNat - 'a'.toNat + 10)
  else if 'A' ≤ c ∧ c ≤ 'F' then some (c.toNat - 'A'.toNat + 10)
  else none

/-- Reads four hexadecimal digits. They need four bytes; fewer are an early end. -/
def readHex (s : Input) : Except Fault (Nat × Input) :=
  match s with
  | some a :: some b :: some c :: some d :: rest =>
    match hexValue? a, hexValue? b, hexValue? c, hexValue? d with
    | some a, some b, some c, some d => .ok (a * 4096 + b * 256 + c * 16 + d, rest)
    | _, _, _, _ => .error .malformed
  | _ => if (s.take 4).foldl (fun n x => n + symbolSize x) 0 < 4 then .error .ended else .error .malformed

/-- Reads the second half of a surrogate pair, whose first half is `high`. -/
def readLow (high : Nat) : Input → Except Fault (Char × Input)
  | [] | [some '\\'] => .error .ended
  | some '\\' :: some 'u' :: rest => do
    let (low, rest) ← readHex rest
    if 0xDC00 ≤ low ∧ low ≤ 0xDFFF then
      .ok (Char.ofNat (0x10000 + (high - 0xD800) * 0x400 + (low - 0xDC00)), rest)
    else .error .malformed
  | _ => .error .malformed

def readEscape : Input → Except Fault (Char × Input)
  | [] => .error .ended
  | some 'u' :: rest => do
    let (n, rest) ← readHex rest
    if 0xDC00 ≤ n ∧ n ≤ 0xDFFF then .error .malformed
    else if 0xD800 ≤ n ∧ n ≤ 0xDBFF then readLow n rest
    else .ok (Char.ofNat n, rest)
  | some '"' :: rest => .ok ('"', rest)
  | some '\\' :: rest => .ok ('\\', rest)
  | some '/' :: rest => .ok ('/', rest)
  | some 'b' :: rest => .ok ('\x08', rest)
  | some 'f' :: rest => .ok ('\x0c', rest)
  | some 'n' :: rest => .ok ('\n', rest)
  | some 'r' :: rest => .ok ('\r', rest)
  | some 't' :: rest => .ok ('\t', rest)
  | _ => .error .malformed

/-- Reads the characters of a string after its opening quote. A stray byte spoils the string,
which is noticed at its end. -/
def readChars : (bound : Input) → Input → Except Fault (List Char × Input)
  | [], _ | _, [] => .error .ended
  | _ :: _, some '"' :: rest => .ok ([], rest)
  | _ :: bound, some '\\' :: rest => do
    let (c, rest) ← readEscape rest
    let (cs, rest) ← readChars bound rest
    .ok (c :: cs, rest)
  | _ :: bound, some c :: rest =>
    if c.toNat < 0x20 then .error .malformed
    else do
      let (cs, rest) ← readChars bound rest
      .ok (c :: cs, rest)
  | _ :: bound, none :: rest => do
    let _ ← readChars bound rest
    .error .malformed

def readString (s : Input) : Except Fault (String × Input) := do
  let (cs, rest) ← readChars s s
  .ok (String.ofList cs, rest)

/-! ## Numbers -/

/-- The greatest whole number that digits are gathered in. -/
def maxWhole : Nat := 0xFFFFFFFFFFFFFFFF

/-- The values of the digits at the start of an input, and the rest. -/
def takeDigits : Input → List Nat × Input
  | some c :: rest =>
    if c.isDigit then
      let (digits, rest) := takeDigits rest
      (digitValue c :: digits, rest)
    else ([], some c :: rest)
  | s => ([], s)

/-- Appends digits to a whole number as long as it fits. Gives the number, and the digits that
did not fit any more. -/
def gather (n : Nat) : List Nat → Nat × List Nat
  | [] => (n, [])
  | d :: digits => if 10 * n + d ≤ maxWhole then gather (10 * n + d) digits else (n, d :: digits)

/-- `10^k` as a number, `k ≤ 308`. -/
def powerOfTen (k : Nat) : Number := Number.ofDecimal false 1 k

/-- A number divided by `10^k`, in steps of at most `10^308`. Two whole steps leave nothing of a
64-bit number. -/
def dividedByPower (x : Number) (k : Nat) : Number :=
  if k ≤ 308 then x.div (powerOfTen k)
  else if k ≤ 616 then (x.div (powerOfTen 308)).div (powerOfTen (k - 308))
  else (x.div (powerOfTen 308)).div (powerOfTen 308)

/-- `n · 10^e`, rounded once for `n` and once for each scaling. There is no such number when it
is too large. -/
def scaled? (n : Nat) (e : Int) : Option Number :=
  let x := Number.ofNat n
  if e < 0 then some (dividedByPower x e.natAbs)
  else if n = 0 then some x
  else if 308 < e then none
  else
    let y := x.mul (powerOfTen e.toNat)
    if y.isFinite then some y else none

/-- A floating-point number from its digits and its power of ten. -/
def decimalNumeral (negative : Bool) (n : Nat) (e : Int) (rest : Input) :
    Except Fault (Numeral × Input) :=
  match scaled? n e with
  | some x => .ok (.decimal (if negative then x.neg else x), rest)
  | none => .error .malformed

/-- Reads the power of ten after its `e`. One beyond 32 bits makes zero of zero or of any
number when it is negative, and is out of range otherwise. -/
def readPower (negative : Bool) (n : Nat) (e : Int) (s : Input) : Except Fault (Numeral × Input) :=
  let (down, s) : Bool × Input := match s with
    | some '-' :: rest => (true, rest)
    | some '+' :: rest => (false, rest)
    | s => (false, s)
  match takeDigits s with
  | ([], []) => .error .ended
  | ([], _) => .error .malformed
  | (digits, rest) =>
    let power : Nat := digits.foldl (fun n d => 10 * n + d) 0
    if power < 0x80000000 then
      decimalNumeral negative n (e + if down then -(power : Int) else power) rest
    else if n ≠ 0 ∧ !down then .error .malformed
    else .ok (.decimal (if negative then .negativeZero else .zero), rest)

/-- Reads what may follow the whole digits, of which `n` was gathered and `dropped` more were
not: a fraction and a power of ten. -/
def readFraction (negative : Bool) (n dropped : Nat) : Input → Except Fault (Numeral × Input)
  | some '.' :: s =>
    match takeDigits s with
    | ([], []) => .error .ended
    | ([], _) => .error .malformed
    | (digits, rest) =>
      let (n, unused) := gather n digits
      let e : Int := dropped - (digits.length - unused.length : Nat)
      match rest with
      | some 'e' :: rest | some 'E' :: rest => readPower negative n e rest
      | rest => decimalNumeral negative n e rest
  | some 'e' :: rest | some 'E' :: rest => readPower negative n dropped rest
  | rest =>
    if dropped ≠ 0 then decimalNumeral negative n dropped rest
    else if negative then
      -- Negative zero and what does not fit 64 bits are floating-point numbers.
      if n = 0 ∨ 0x8000000000000000 < n then .ok (.decimal (Number.ofNat n).neg, rest)
      else .ok (.whole (-(n : Int)), rest)
    else .ok (.whole n, rest)

/-- Reads a number after its minus sign, if it has one. -/
def readNumeral (negative : Bool) (s : Input) : Except Fault (Numeral × Input) :=
  match takeDigits s with
  | ([], []) => .error .ended
  | ([], _) => .error .malformed
  -- A zero in front stands alone.
  | (0 :: rest, s) => if rest = [] then readFraction negative 0 0 s else .error .malformed
  | (digits, s) =>
    let (n, unused) := gather 0 digits
    readFraction negative n unused.length s

/-! ## Containers -/

/-- Reads the items of an array after its bracket or after an item. -/
def readItems {α : Type} (item : Input → Except Fault (α × Input)) :
    (bound : Input) → (first : Bool) → Input → Except Fault (List α × Input)
  | [], _, _ => .error .ended
  | _ :: bound, first, s =>
    let more (s : Input) : Except Fault (List α × Input) := do
      let (x, rest) ← item s
      let (xs, rest) ← readItems item bound false rest
      .ok (x :: xs, rest)
    match skipBlanks s with
    | [] => .error .ended
    | some ']' :: rest => .ok ([], rest)
    | s@(x :: rest) =>
      if first then more s
      else if x = some ',' then
        match skipBlanks rest with
        | [] => .error .ended
        -- No item stands behind the last comma.
        | some ']' :: _ => .error .malformed
        | s => more s
      else .error .malformed

/-- Reads the colon between a key and its value. -/
def readColon (s : Input) : Except Fault Input :=
  match skipBlanks s with
  | [] => .error .ended
  | some ':' :: rest => .ok rest
  | _ => .error .malformed

/-- Reads the members of an object after its brace or after a member. `key` reads a key after its
quote; `member` is given the key and what has been gathered so far, and reads on from the
colon. -/
def readMembers {κ σ : Type} (key : Input → Except Fault (κ × Input))
    (member : κ → σ → Input → Except Fault (σ × Input)) :
    (bound : Input) → (first : Bool) → σ → Input → Except Fault (σ × Input)
  | [], _, _, _ => .error .ended
  | _ :: bound, first, state, s =>
    let more (s : Input) : Except Fault (σ × Input) := do
      let (k, rest) ← key s
      let (state, rest) ← member k state rest
      readMembers key member bound false state rest
    match skipBlanks s with
    | [] => .error .ended
    | some '\x7d' :: rest => .ok (state, rest)
    | x :: rest =>
      if first then
        if x = some '"' then more rest else .error .malformed
      else if x = some ',' then
        match skipBlanks rest with
        | [] => .error .ended
        | some '"' :: rest => more rest
        | _ => .error .malformed
      else .error .malformed

/-! ## Values -/

/-- Reads a value that is no container. -/
def readScalar : Input → Except Fault (Json × Input)
  | [] => .error .ended
  | some 'n' :: rest => do .ok (.null, ← readWord ['u', 'l', 'l'] rest)
  | some 't' :: rest => do .ok (.bool true, ← readWord ['r', 'u', 'e'] rest)
  | some 'f' :: rest => do .ok (.bool false, ← readWord ['a', 'l', 's', 'e'] rest)
  | some '"' :: rest => do
    let (s, rest) ← readString rest
    .ok (.string s, rest)
  | some '-' :: rest => do
    let (n, rest) ← readNumeral true rest
    .ok (.number n, rest)
  | some c :: rest =>
    if c.isDigit then do
      let (n, rest) ← readNumeral false (some c :: rest)
      .ok (.number n, rest)
    else .error .malformed
  -- A stray byte begins no value.
  | none :: _ => .error .malformed

/-- Reads a value with at most `depth` containers inside each other. -/
def readValue : (depth : Nat) → Input → Except Fault (Json × Input)
  | 0, s => match skipBlanks s with
    -- One container too deep.
    | some '[' :: _ | some '\x7b' :: _ => .error .malformed
    | s => readScalar s
  | depth + 1, s => match skipBlanks s with
    | some '[' :: rest => do
      let (items, rest) ← readItems (readValue depth) rest true rest
      .ok (.array items, rest)
    | some '\x7b' :: rest => do
      let member := fun key (members : List (String × Json)) rest => do
        let rest ← readColon rest
        let (value, rest) ← readValue depth rest
        .ok (members ++ [(key, value)], rest)
      let (members, rest) ← readMembers readString member rest true [] rest
      .ok (.object members, rest)
    | s => readScalar s

/-- The containers that may lie inside each other. -/
def maxDepth : Nat := 127

def whole {α : Type} (read : Input → Except Fault (α × Input)) (s : Input) :
    Except Fault α := do
  let (x, rest) ← read s
  readEnd rest
  .ok x

def parse (s : Input) : Except Fault Json := whole (readValue maxDepth) s

/-! ## Expected shapes

A reader that expects an array or an object refuses anything else as soon as it can: a container
by its bracket, a scalar when it has been read. -/

/-- The fault of a value that is not the expected container. -/
def unexpected {α : Type} (s : Input) : Except Fault (α × Input) :=
  match s with
  | some '[' :: _ | some '\x7b' :: _ => .error .shape
  | s => do
    let _ ← readScalar s
    .error .shape

/-- Reads an array of items that are read one by one. -/
def readArray {α : Type} (depth : Nat) (item : Nat → Input → Except Fault (α × Input))
    (s : Input) : Except Fault (List α × Input) :=
  match skipBlanks s with
  | some '[' :: rest => match depth with
    | 0 => .error .malformed
    | depth + 1 => readItems (item depth) rest true rest
  | s => unexpected s

def readObject {σ : Type} (depth : Nat)
    (member : Nat → String → σ → Input → Except Fault (σ × Input)) (start : σ) (s : Input) :
    Except Fault (σ × Input) :=
  match skipBlanks s with
  | some '\x7b' :: rest => match depth with
    | 0 => .error .malformed
    | depth + 1 => readMembers readString (member depth) rest true start rest
  | s => unexpected s

/-! ## Values that are not wanted

The value of an unknown member is passed over. Its numbers have no range and its escapes no
meaning, but its form has to be right. -/

def skipEscape : Input → Except Fault Input
  | [] => .error .ended
  | some 'u' :: rest => do
    let (_, rest) ← readHex rest
    .ok rest
  | some c :: rest =>
    if c ∈ ['"', '\\', '/', 'b', 'f', 'n', 'r', 't'] then .ok rest else .error .malformed
  | none :: _ => .error .malformed

/-- Passes over a string after its opening quote. -/
def skipString : (bound : Input) → Input → Except Fault Input
  | [], _ | _, [] => .error .ended
  | _ :: _, some '"' :: rest => .ok rest
  | _ :: bound, some '\\' :: rest => do
    let rest ← skipEscape rest
    skipString bound rest
  | _ :: bound, some c :: rest =>
    if c.toNat < 0x20 then .error .malformed else skipString bound rest
  | _ :: bound, none :: rest => skipString bound rest

def skipPower : Input → Except Fault Input
  | some 'e' :: s | some 'E' :: s =>
    let digits := match s with
      | some '+' :: rest | some '-' :: rest => rest
      | s => s
    match takeDigits digits with
    | ([], _) => .error .malformed
    | (_, rest) => .ok rest
  | s => .ok s

def skipNumeral (s : Input) : Except Fault Input :=
  match takeDigits s with
  | ([], _) => .error .malformed
  | (0 :: _ :: _, _) => .error .malformed
  | (_, some '.' :: rest) => match takeDigits rest with
    | ([], _) => .error .malformed
    | (_, rest) => skipPower rest
  | (_, rest) => skipPower rest

def skipScalar : Input → Except Fault (Unit × Input)
  | [] => .error .ended
  | some 'n' :: rest => do .ok ((), ← readWord ['u', 'l', 'l'] rest)
  | some 't' :: rest => do .ok ((), ← readWord ['r', 'u', 'e'] rest)
  | some 'f' :: rest => do .ok ((), ← readWord ['a', 'l', 's', 'e'] rest)
  | some '"' :: rest => do .ok ((), ← skipString rest rest)
  | some '-' :: rest => do .ok ((), ← skipNumeral rest)
  | some c :: rest =>
    if c.isDigit then do .ok ((), ← skipNumeral (some c :: rest)) else .error .malformed
  | none :: _ => .error .malformed

/-- Passes over a value. The containers inside each other are bounded like the parts of a loop. -/
def skipNested : (bound : Input) → Input → Except Fault (Unit × Input)
  | [], s => skipScalar (skipBlanks s)
  | _ :: bound, s => match skipBlanks s with
    | some '[' :: rest => do
      let (_, rest) ← readItems (skipNested bound) rest true rest
      .ok ((), rest)
    | some '\x7b' :: rest =>
      let key := fun s => do .ok ((), ← skipString s s)
      let member := fun _ _ rest => do
        let rest ← readColon rest
        skipNested bound rest
      readMembers key member rest true () rest
    | s => skipScalar s

/-- Passes over a value, however deep. -/
def skipValue (s : Input) : Except Fault (Unit × Input) := skipNested s s

end Tabular.Json
