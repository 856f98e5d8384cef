set_option autoImplicit false

/-! # Archives

An archive is a list of named files in one sequence of bytes. Each file has a header before its
content; a directory at the end lists the headers again with their positions, and a last record
says where the directory is. Archives are written without compression; `Tabular.Archive.Directory`
reads them with or without.
-/

namespace Tabular

structure ArchiveFile where
  name : String
  content : ByteArray

structure Archive where
  files : List ArchiveFile

namespace Archive

/-! ## Numbers -/

/-- A number in so many bytes, the lowest one first. -/
def littleEndian : (width n : Nat) → List UInt8
  | 0, _ => []
  | width + 1, n => UInt8.ofNat (n % 256) :: littleEndian width (n / 256)

/-- Fields of a record, given with their widths in bytes. -/
def fields (values : List (Nat × Nat)) : ByteArray :=
  ⟨(values.flatMap fun (width, n) => littleEndian width n).toArray⟩

/-! ## Checksums

The cyclic redundancy check of 32 bits that an archive keeps for each of its files: the
remainder of the content, read as a polynomial over two elements, with the lowest power in the
highest bit.
-/

/-- The divisor without its leading term. -/
def divisor : UInt32 := 0xEDB88320

def shiftRemainder (r : UInt32) : UInt32 :=
  if r &&& 1 = 1 then divisor ^^^ (r >>> 1) else r >>> 1

def remainders : Array UInt32 :=
  ((List.range 256).map fun b => Nat.repeat shiftRemainder 8 (UInt32.ofNat b)).toArray

def addByte (r : UInt32) (b : UInt8) : UInt32 :=
  remainders.getD ((r ^^^ b.toUInt32) &&& 0xFF).toNat 0 ^^^ (r >>> 8)

def checksum (bytes : ByteArray) : UInt32 := bytes.foldl addByte 0xFFFFFFFF ^^^ 0xFFFFFFFF

/-! ## Records

Each kind of record starts with a number of its own. -/

/-- The number of a file's header. -/
def headerMark : Nat := 0x04034B50

/-- The number of a directory entry. -/
def entryMark : Nat := 0x02014B50

/-- The number of the last record. -/
def endMark : Nat := 0x06054B50

/-- The size of the last record without a comment. -/
def endSize : Nat := 22

/-- What a header and a directory entry have in common: the version that is needed, the mark of
names in UTF-8, no compression, the first day of the calendar, the checksum and the sizes. -/
def description (f : ArchiveFile) : List (Nat × Nat) :=
  [(2, 20), (2, 0x800), (2, 0), (2, 0), (2, 0x21), (4, (checksum f.content).toNat),
    (4, f.content.size), (4, f.content.size), (2, f.name.utf8ByteSize), (2, 0)]

def fileBytes (f : ArchiveFile) : ByteArray :=
  fields ((4, headerMark) :: description f) ++ f.name.toUTF8 ++ f.content

/-- The directory entry of a file whose header is at a position. -/
def entryBytes (f : ArchiveFile) (position : Nat) : ByteArray :=
  fields ((4, entryMark) :: (2, 20) :: description f
    ++ [(2, 0), (2, 0), (2, 0), (4, 0), (4, position)]) ++ f.name.toUTF8

/-- Writes the files after the given bytes, and their directory. -/
def write : List ArchiveFile → (content directory : ByteArray) → ByteArray × ByteArray
  | [], content, directory => (content, directory)
  | f :: rest, content, directory =>
    write rest (content ++ fileBytes f) (directory ++ entryBytes f content.size)

def toBytes (a : Archive) : ByteArray :=
  let (content, directory) := write a.files .empty .empty
  content ++ directory ++ fields [(4, endMark), (2, 0), (2, 0), (2, a.files.length),
    (2, a.files.length), (4, directory.size), (4, content.size), (2, 0)]

end Archive

end Tabular
