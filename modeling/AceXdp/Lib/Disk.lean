import Mathlib.Data.List.Basic
import AceXdp.Lib.Json

/-!
# A file system — absolute paths, files, directories and symbolic links

A path is the list of its components, a name a list of code points as the scripting language decodes
it. Contents are bytes; text is stored as UTF-8.
-/

namespace Disk

open Json (Str)

abbrev Bytes := List UInt8

/-- An absolute path by its components. -/
abbrev Path := List Str

namespace Path

def parent (p : Path) : Path := p.dropLast

/-- `str(path)`. -/
def text (p : Path) : Str :=
  if p = [] then ['/'.toNat] else p.flatMap fun name => '/'.toNat :: name

end Path

inductive Entry where
  | file (content : Bytes)
  | directory
  | symlink (target : Path)
  deriving DecidableEq, Repr

/-- What stands at each path. -/
abbrev FileSystem := Path → Option Entry

/-- As many links as a lookup follows. -/
def maxLinks : Nat := 40

/-- The file behind a path, links followed. -/
def readFrom (fs : FileSystem) : Nat → Path → Option Bytes
  | 0, _ => none
  | fuel + 1, p =>
    match fs p with
    | some (.file content) => some content
    | some (.symlink target) => readFrom fs fuel target
    | _ => none

def FileSystem.read (fs : FileSystem) (p : Path) : Option Bytes := readFrom fs (maxLinks + 1) p

theorem FileSystem.read_file {fs : FileSystem} {p : Path} {content : Bytes}
    (h : fs p = some (.file content)) : fs.read p = some content := by
  rw [FileSystem.read, readFrom, h]

/-! ## Text -/

def encode (text : List Char) : Bytes := text.flatMap String.utf8EncodeChar

def decode (bytes : Bytes) : Option (List Char) :=
  bytes.toByteArray.utf8Decode?.map Array.toList

theorem decode_encode (text : List Char) : decode (encode text) = some text := by
  have harray : (encode text).toByteArray = text.utf8Encode := rfl
  rw [decode, harray, List.utf8Decode?_utf8Encode]
  rfl

end Disk
