import Questionnaire.Zip.Inflate

/-!
# Zip Containers

A container holds files, each with a name, one after the other, and after them a
directory that tells where they are and how they are packed. The end of the
directory is marked by a record with a comment, the last such record that there
is. Positions are counted from the beginning of the container, which may stand
between other bytes.

## Main definitions

* `number`: A number at a place.
* `EndRecord`: The record that marks the end of the directory.
* `Member`: A file, as the directory describes it.
* `members?`: The files of a container with their bytes.
-/

namespace Questionnaire

namespace Zip

/-- The number that some bytes are, the lowest first. -/
def numberOfBytes (bytes : List UInt8) : Nat :=
  bytes.foldr (fun b n => b.toNat + 256 * n) 0

/-- The number of `width` bytes at a place. -/
def number (bytes : List UInt8) (start width : Nat) : Nat :=
  numberOfBytes ((bytes.drop start).take width)

/-- The number that marks the beginning of a file. -/
def fileMark : Nat :=
  0x04034b50

/-- The number that marks the description of a file. -/
def descriptionMark : Nat :=
  0x02014b50

/-- The number that marks the end of the directory. -/
def endMark : Nat :=
  0x06054b50

/-- The record that marks the end of the directory. -/
structure EndRecord where
  /-- Where the record is. -/
  start : Nat
  /-- The number of files. -/
  count : Nat
  /-- The length of the directory. -/
  length : Nat
  /-- Where the directory is said to be. -/
  directory : Nat
deriving DecidableEq, Repr

/-- The record at the beginning of some bytes, which stand at a place, if its comment
    ends before they do. -/
def EndRecord.at? (start : Nat) (bytes : List UInt8) : Option EndRecord :=
  if number bytes 0 4 = endMark ∧ 22 + number bytes 20 2 ≤ bytes.length ∧
      number bytes 4 2 = number bytes 6 2 then
    some ⟨start, number bytes 10 2, number bytes 12 4, number bytes 16 4⟩
  else none

/-- The last record that marks the end of the directory, in bytes that stand at a
    place, or the one `found` before them. -/
def EndRecord.findFrom (found : Option EndRecord) : (start : Nat) → List UInt8 → Option EndRecord
  | _, [] => found
  | start, b :: rest =>
    EndRecord.findFrom ((EndRecord.at? start (b :: rest)).or found) (start + 1) rest

/-- The last record that marks the end of the directory. -/
def EndRecord.find? (bytes : List UInt8) : Option EndRecord :=
  EndRecord.findFrom none 0 bytes

/-- A file, as the directory describes it. -/
structure Member where
  name : List UInt8
  /-- How the file is packed. -/
  method : Nat
  packedLength : Nat
  /-- Where the file is, counted from the beginning of the container. -/
  start : Nat
deriving DecidableEq, Repr

/-- The files that a directory describes. -/
def readDirectory : (count : Nat) → List UInt8 → Option (List Member)
  | 0, _ => some []
  | count + 1, bytes =>
    if number bytes 0 4 = descriptionMark ∧ 46 ≤ bytes.length then do
      let nameLength := number bytes 28 2
      let member := ⟨(bytes.drop 46).take nameLength, number bytes 10 2, number bytes 20 4,
        number bytes 42 4⟩
      let rest ← readDirectory count
        (bytes.drop (46 + nameLength + number bytes 30 2 + number bytes 32 2))
      return member :: rest
    else none

/-- The bytes of a file of a container. -/
def Member.unpack? (m : Member) (container : List UInt8) : Option (List UInt8) :=
  let bytes := container.drop m.start
  if number bytes 0 4 = fileMark then
    let packed := (bytes.drop (30 + number bytes 26 2 + number bytes 28 2)).take m.packedLength
    match m.method with
    | 0 => some packed
    | 8 => inflate? packed
    | _ => none
  else none

/-- The files of a container with their bytes, if all of them can be read. -/
def members? (bytes : List UInt8) : Option (List (List UInt8 × List UInt8)) := do
  let r ← EndRecord.find? bytes
  if r.start < r.directory + r.length then none
  else
    let container := bytes.drop (r.start - r.length - r.directory)
    let members ← readDirectory r.count (container.drop r.directory)
    members.mapM fun m => (m.unpack? container).map fun content => (m.name, content)

end Zip

end Questionnaire
