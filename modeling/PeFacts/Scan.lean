import PeFacts.Image.Session
import PeFacts.Report
import PeFacts.Settings

/-!
# Scanning a file

At most a given number of bytes of a file is read, and every fact of what was read goes into a
report. The file's digests and size are those of all of it.
-/

namespace PeFacts

/-- Why a file cannot be scanned. -/
inductive ScanFault
  /-- Reading was limited to less than nothing. -/
  | negativeLimit
  /-- The limit is no size at all. -/
  | hugeLimit
  /-- No machine has room for so much. -/
  | noRoom
  /-- A fact could not be given. -/
  | access (fault : AccessFault)
  deriving Repr, DecidableEq

namespace Scan

/-- The least number that is no size. -/
def sizeBound : Int := 0x8000000000000000

/-- What a run of bytes takes besides its bytes. -/
def sizeOverhead : Int := 33

/-- The least size for which there is no room. -/
def roomBound : Int := 0x800000000000

/-- The first bytes of a file, and whether that is not all of it. One byte more than the limit is
asked for, so that the limit -2 asks for the whole file; a limit below zero then cuts at the end. -/
def firstBytes (file : Bytes) (limit : Int) : Except ScanFault (Bytes × Bool) :=
  if limit + 1 < -sizeBound ∨ sizeBound - sizeOverhead ≤ limit + 1 then .error .hugeLimit
  else if limit + 1 < -1 then .error .negativeLimit
  else if roomBound ≤ limit + 1 then .error .noRoom
  else
    let taken := if limit + 1 = -1 then file else file.extract 0 (limit + 1).toNat
    if (taken.size : Int) > limit then .ok (taken.extract 0 (Bytes.cut taken.size limit), true)
    else .ok (taken, false)

/-- The name of the tool in reports. -/
def toolName : String := "peprobe"

/-- The version of the tool. -/
def toolVersion : String := "0.1.0"

/-- The record entries of a value that is a record. -/
def entriesOf : Value → Entries
  | .record entries => entries
  | _ => []

/-- The image in the bytes that were read. -/
def imageOf (data : Bytes) (mode : ScanMode) (limits : Limits)
    (reader : SignatureReader := .standard) : Except ScanFault Image :=
  (Image.load data mode limits reader).mapError fun m => .access (.misuse m)

/-- What an access gives that is the first one to an image. -/
def firstAccess {α : Type} (image : Image) (access : Access α) : Except ScanFault (α × Session) :=
  match access.run (Session.start image) with
  | (.error fault, _) => .error (.access fault)
  | (.ok a, session) => .ok (a, session)

/-- The report about the file `file` at `path`. -/
def report (path : String) (file : Bytes) (now : String) (mode : ScanMode := .file)
    (settings : Settings := {}) (version : String := toolVersion)
    (reader : SignatureReader := .standard) : Except ScanFault Report := do
  let (data, truncated) ← firstBytes file settings.maxFileSize
  let image ← imageOf data mode settings.limits reader
  let (facts, session) ← firstAccess image image.snapshot
  return {
    timestamp := now
    tool := [("name", .text toolName), ("version", .text version)]
    settings := entriesOf settings.toValue
    input := {
      path, truncated
      size := file.size
      sha256 := Digest.sha256 file
      md5 := Digest.md5 file }
    mode := mode.name
    facts := entriesOf facts
    problems := session.problems.map fun p => entriesOf p.record }

end Scan

end PeFacts
