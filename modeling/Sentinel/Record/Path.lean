import Sentinel.Calendar
import Sentinel.Error
import Sentinel.Path
/-!
# Paths of records

A record is stored under an absolute path. Records of results lie in folders named for the time of
storing, under a name made of the type and an identifier.

Correspondence (operation of the component ↔ definition):
  `check_record_path`                          ↔ `Record.checkPath`
  the parent and the name that `persist` makes ↔ `Record.folder`, `Record.name`
-/

namespace Sentinel

/-- An identifier of 122 bits for one record. -/
structure RecordId where
  bits : BitVec 122
deriving DecidableEq

namespace RecordId

/-- The identifier in five groups of hexadecimal digits, as a universally unique one of the fourth
version. -/
def text (id : RecordId) : String :=
  let n := id.bits.toNat
  let group (width value : Nat) : String := String.ofList (Text.hexDigits width value)
  "-".intercalate [group 8 (n >>> 90), group 4 (n >>> 74), group 4 (0x4000 + (n >>> 62) % 0x1000),
    group 4 (0x8000 + (n >>> 48) % 0x4000), group 12 n]

end RecordId

/-- When a record is stored and by which identifier it is known. -/
structure RecordStamp where
  time : Instant
  id : RecordId
deriving DecidableEq

namespace Record

/-- Refuses a path that is not absolute, or that has an empty or relative segment. -/
def checkPath (path : String) : Except HandlerError Unit :=
  match Text.pieces '/' path.toList with
  | [] :: p :: ps =>
    if (p :: ps).any fun s => s.isEmpty || s = ['.'] || s = ['.', '.'] then
      .error (.persist path "path has an empty or relative segment")
    else .ok ()
  | _ => .error (.persist path "path is not absolute")

/-- The folder below a root for the records of a moment. -/
def folder (root : String) (time : Instant) : String :=
  let root := (root.toList.reverse.dropWhile (· = '/')).reverse
  String.ofList root ++ "/" ++ "/".intercalate time.pathSegments

/-- The name of a record about a value of a type. -/
def name (t : PropertyType) (id : RecordId) : String := t.canonicalName ++ "-" ++ id.text

end Record

end Sentinel
