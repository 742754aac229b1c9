import BenefitForm.Text.Utf8

/-!
# File names and folders

- `FileName.normalize`: a name without parts that say nothing.
- `FileName.bytes`: the bytes that name a file for the system. A surrogate from
  `DC80` to `DCFF` stands for one byte; any other has no bytes.
- `Folder.read`: what a name leads to in a folder of files, part by part.
-/

namespace BenefitForm

/-- Why a file cannot be read. -/
inductive FileProblem where
  | absent
  | folder
  | notInFolder
  | longName
deriving DecidableEq

/-- The problem as the system reports it. -/
def FileProblem.message : FileProblem → String
  | .absent => "[Errno 2] No such file or directory"
  | .folder => "[Errno 21] Is a directory"
  | .notInFolder => "[Errno 20] Not a directory"
  | .longName => "[Errno 36] File name too long"

namespace FileName

/-- A file name without empty parts and parts that mean the same folder. Two slashes at its
beginning are not one, and more than two are. -/
def normalize (t : Text) : Text :=
  let slashes := (t.takeWhile (·.val = 0x2F)).length
  let parts := (Text.splitOn '/' t).filter fun p => !p.isEmpty && p ≠ Text.ofString "."
  let joined := Text.join (Text.ofString "/") parts
  if slashes = 2 then Text.ofString "//" ++ joined
  else if slashes > 0 then Text.ofString "/" ++ joined
  else if joined.isEmpty then Text.ofString "."
  else joined

/-- Whether a code point stands for a byte that is part of no character. -/
def isLoneByte (c : CodePoint) : Bool := 0xDC80 ≤ c.val && c.val ≤ 0xDCFF

/-- The bytes of one code point of a file name. -/
def pointBytes (c : CodePoint) : List UInt8 :=
  if isLoneByte c then [(c.val - 0xDC00).toUInt8] else Utf8.encodePoint c

/-- The bytes of a file name. -/
def bytes (t : Text) : Except EncodeError (List UInt8) :=
  match t.findIdx? fun c => c.isSurrogate && !isLoneByte c with
  | some i => .error ⟨i, 1, t.getD i '?'⟩
  | none => .ok (t.flatMap pointBytes)

/-- The parts of a file name that say something, in bytes. -/
def parts (t : Text) : List (List UInt8) :=
  ((Text.splitOn '/' t).filter fun p => !p.isEmpty && p ≠ Text.ofString ".").map
    (·.flatMap pointBytes)

end FileName

/-- A folder: its files by their paths. -/
structure Folder where
  /-- The paths, each as its parts, and the contents. -/
  files : List (List (List UInt8) × List UInt8)

namespace Folder

/-- The most bytes of a path, with the zero that ends it. -/
def maxPathBytes : Nat := 4096

/-- The most bytes of one part of a path. -/
def maxNameBytes : Nat := 255

/-- The folder of files with these names. -/
def ofFiles (files : List (Text × List UInt8)) : Folder where
  files := files.map fun f => (FileName.parts f.1, f.2)

/-- Go on from a place in the folder by the parts of a path. Above the folder nothing is known
but that there are folders. -/
def walk (f : Folder) (place : List (List UInt8)) :
    List (List UInt8) → Except FileProblem (List UInt8)
  | [] =>
    match f.files.find? (·.1 = place) with
    | some file => .ok file.2
    | none => .error .folder
  | part :: rest =>
    if f.files.any (·.1 = place) then .error .notInFolder
    else if part.length > maxNameBytes then .error .longName
    else if part = [0x2E, 0x2E] then f.walk place.dropLast rest
    else
      let place := place ++ [part]
      if f.files.any fun file => place.isPrefixOf file.1 then f.walk place rest
      else .error .absent

/-- The content of the file that a name leads to. A name that begins with a slash leads out of the
folder. -/
def read (f : Folder) (name : Text) : Except FileProblem (List UInt8) :=
  if (name.flatMap FileName.pointBytes).length ≥ maxPathBytes then .error .longName
  else if (name.head?.map (·.val)) = some 0x2F then walk ⟨[]⟩ [] (FileName.parts name)
  else f.walk [] (FileName.parts name)

end Folder

end BenefitForm
