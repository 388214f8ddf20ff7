import Sentinel.Content.Stream
import Sentinel.Json.Document
import Sentinel.Json.Printer
import Sentinel.Record.Path
/-!
# Records in files

A store that keeps each record in a file of its own, as indented JSON. The files form a tree of
folders below one base folder; what the file system refuses is reported in its words.

Correspondence (operation of the component ↔ definition):
  `FilesystemResultStore.create`, `get`      ↔ `FileStore.create`, `FileStore.get?`
  `file_path`                                ↔ `FileStore.placeOf`
  `create_dir_all`                           ↔ `FileTree.makeFolders`
  the opening with `create_new`, the reading ↔ `FileTree.createFile`, `FileTree.read?`
-/

namespace Sentinel

/-- Why the file system refuses an operation. -/
inductive FileFault where
  | exists
  | notFolder
  | isFolder
  | nameTooLong
  | zeroByte
deriving DecidableEq, Repr

def FileFault.message : FileFault → String
  | .exists => "File exists (os error 17)"
  | .notFolder => "Not a directory (os error 20)"
  | .isFolder => "Is a directory (os error 21)"
  | .nameTooLong => "File name too long (os error 36)"
  | .zeroByte => "file name contained an unexpected NUL byte"

/-- A place in the tree: the names from the base folder down. -/
abbrev Place := List String

/-- A tree of files with texts, and the folders that were made. -/
structure FileTree where
  files : KeyMap String
  folders : List Place

namespace FileTree

def empty : FileTree := ⟨KeyMap.empty, []⟩

/-- A place as it is written, with slashes between the names. -/
def pathOf (p : Place) : String := "/".intercalate p

def isFolder (t : FileTree) (p : Place) : Bool := p.isEmpty || t.folders.contains p

def isFile (t : FileTree) (p : Place) : Bool := t.files.contains (pathOf p)

def maxNameBytes : Nat := 255

/-- The longest place, in bytes: what a path of 4095 bytes leaves below the base folder. -/
def maxPlaceBytes : Nat := 4079

/-- Whether a place has a name that no file system takes. -/
def hasZeroByte (p : Place) : Bool := p.any (·.toList.contains (Char.ofNat 0))

/-- What is wrong with a place, whatever the tree. -/
def faultOf? (p : Place) : Option FileFault :=
  if hasZeroByte p then some .zeroByte
  else if maxPlaceBytes < (pathOf p).utf8ByteSize then some .nameTooLong
  else none

/-- Makes the folders that lead from a place on to the folder with further names. Those made before
a fault stay. -/
def makeFoldersFrom (t : FileTree) (base : Place) : Place → Option FileFault × FileTree
  | [] => (none, t)
  | name :: names =>
    let here := base ++ [name]
    if t.isFolder here then t.makeFoldersFrom here names
    else if t.isFile here then (some (if names.isEmpty then .exists else .notFolder), t)
    else if maxNameBytes < name.utf8ByteSize then (some .nameTooLong, t)
    else ({ t with folders := here :: t.folders } : FileTree).makeFoldersFrom here names

/-- Makes a folder and all those above it, and tells what stood in the way. -/
def makeFolders (t : FileTree) (p : Place) : Option FileFault × FileTree :=
  match faultOf? p with
  | some e => (some e, t)
  | none => t.makeFoldersFrom [] p

/-- Makes a file that must not exist. -/
def createFile (t : FileTree) (p : Place) (text : String) : Except FileFault FileTree :=
  match faultOf? p with
  | some e => .error e
  | none =>
    if maxNameBytes < ((p.getLast?.map String.utf8ByteSize).getD 0) then .error .nameTooLong
    else if t.isFile p || t.isFolder p then .error .exists
    else .ok { t with files := t.files.insert (pathOf p) text }

/-- Reads from a place on down to a file; there may be none. -/
def readFrom (t : FileTree) (base : Place) : Place → Except FileFault (Option String)
  | [] => if t.isFolder base then .error .isFolder else .ok (t.files.get? (pathOf base))
  | name :: names =>
    let here := base ++ [name]
    if maxNameBytes < name.utf8ByteSize then .error .nameTooLong
    else if t.isFolder here then t.readFrom here names
    else if t.isFile here then
      if names.isEmpty then .ok (t.files.get? (pathOf here)) else .error .notFolder
    else .ok none

/-- The text of the file at a place, if there is a file. -/
def read? (t : FileTree) (p : Place) : Except FileFault (Option String) :=
  match faultOf? p with
  | some e => .error e
  | none => t.readFrom [] p

/-- Puts a file at a place, with the folders above it; what stands in the way stays. -/
def plant (t : FileTree) (p : Place) (text : String) : FileTree :=
  match t.makeFolders p.dropLast with
  | (some _, t) => t
  | (none, t) => if t.isFolder p then t else { t with files := t.files.insert (pathOf p) text }

end FileTree

namespace FileStore

/-- The place of the file for the record at a path. -/
def placeOf (path : String) : Place :=
  let names := (Path.segments path).map String.ofList
  names.dropLast ++ (names.getLast?.map (· ++ ".json")).toList

/-- Creates a record below a parent; its path is the answer. Folders that were made stay, even if
the record is refused. -/
def create (t : FileTree) (parent name : String) (properties : Attributes) :
    Except HandlerError String × FileTree :=
  let path := Path.child parent name
  match Record.checkPath path with
  | .error e => (.error e, t)
  | .ok () =>
    match t.makeFolders (placeOf path).dropLast with
    | (some e, t) => (.error (.persist path ("Failed to create parent: " ++ e.message)), t)
    | (none, t) =>
      match t.createFile (placeOf path) (Json.ofAttributes properties).indented with
      | .error e => (.error (.persist path ("Failed to create record: " ++ e.message)), t)
      | .ok t => (.ok path, t)

def get? (t : FileTree) (path : String) : Except HandlerError (Option Attributes) := do
  Record.checkPath path
  match t.read? (placeOf path) with
  | .error e => throw (.persist path ("Failed to read record: " ++ e.message))
  | .ok none => return none
  | .ok (some text) =>
    match (Json.parse? text).bind Json.attributes? with
    | some properties => return some properties
    | none => throw .serialization

end FileStore

end Sentinel
