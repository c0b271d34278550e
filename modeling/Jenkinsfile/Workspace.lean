/-
# Workspaces

A workspace is the folder that a run starts in, with its folders and files.  A path leads through
it name by name; `..` leads back out of a folder.  The folders around the workspace exist, but
nothing is known to be in them: a file there cannot be read, and one that is written there is none
of the workspace.  Only the null device is known by its path: it reads as an empty file, and keeps
nothing that is written to it.

A path is shown without what does not matter in it: empty names, the name `.` and slashes at the
end.
-/
import Jenkinsfile.Text.Quoted
import Jenkinsfile.Text.Utf8

namespace Jenkinsfile

/-! ## 1. Paths -/

/-- The names of a path. -/
def pathNames (path : Text) : List Text :=
  (path.splitOn '/').filter fun name => name ≠ [] ∧ name ≠ ['.']

/-- What a path begins with: nothing, the root, or the root that two slashes stand for. -/
def pathRoot : Text → Text
  | '/' :: '/' :: '/' :: _ => ['/']
  | '/' :: '/' :: _ => ['/', '/']
  | '/' :: _ => ['/']
  | _ => []

/-- A path as it is shown. -/
def shownPath (path : Text) : Text :=
  match pathRoot path ++ ['/'].intercalate (pathNames path) with
  | [] => ['.']
  | shown => shown

example : shownPath "./a//b/./c/".toList = "a/b/c".toList := by decide

/-! ## 2. Faults -/

/-- Why a file cannot be read or written. -/
inductive FileCause
  | missing
  | isFolder
  | notFolder
  | tooLong
  /-- Anything else, with the system's code and text. -/
  | other (code : Nat) (text : Text)
  deriving DecidableEq, Repr

/-- A file that cannot be read or written. -/
structure FileFault where
  cause : FileCause
  path : Text
  deriving DecidableEq, Repr

namespace FileFault

/-- The class a fault is reported under. -/
def label (f : FileFault) : Text :=
  match f.cause with
  | .missing => "FileNotFoundError".toList
  | .isFolder => "IsADirectoryError".toList
  | .notFolder => "NotADirectoryError".toList
  | .tooLong => "OSError".toList
  | .other 13 _ => "PermissionError".toList
  | .other .. => "OSError".toList

/-- The system's code and text for a cause. -/
def codeAndText (f : FileFault) : Nat × Text :=
  match f.cause with
  | .missing => (2, "No such file or directory".toList)
  | .isFolder => (21, "Is a directory".toList)
  | .notFolder => (20, "Not a directory".toList)
  | .tooLong => (36, "File name too long".toList)
  | .other code text => (code, text)

def message (f : FileFault) : Text :=
  "[Errno ".toList ++ Text.ofNat f.codeAndText.1 ++ "] ".toList ++ f.codeAndText.2 ++ ": ".toList
    ++ Text.quoted (shownPath f.path)

end FileFault

/-! ## 3. Folders and files -/

/-- A place in a workspace: the names that lead to it. -/
abbrev Place := List Text

/-- The folders and files of a workspace. -/
structure Workspace where
  folders : List Place
  files : List (Place × List UInt8)
  deriving DecidableEq, Repr

namespace Workspace

/-- A workspace with nothing in it. -/
def empty : Workspace := ⟨[], []⟩

/-- The bytes of the file at a place. -/
def file? (w : Workspace) (place : Place) : Option (List UInt8) := w.files.lookup place

/-- There is a folder at a place; the workspace itself is one. -/
def isFolder (w : Workspace) (place : Place) : Bool := place.isEmpty || w.folders.contains place

/-- The workspace with a folder and all the folders around it. -/
def addFolder (w : Workspace) (place : Place) : Workspace :=
  let around := (List.range place.length).map fun n => place.take (n + 1)
  { w with folders := w.folders ++ around.filter fun p => !w.isFolder p }

/-- The workspace with other bytes in the file at a place. -/
def putFile (w : Workspace) (place : Place) (bytes : List UInt8) : Workspace :=
  if (w.file? place).isSome then
    { w with files := w.files.map fun f => if f.1 = place then (place, bytes) else f }
  else { w with files := w.files ++ [(place, bytes)] }

/-- The most bytes a name may have. -/
def nameLimit : Nat := 255

/-- The most bytes a path may have. -/
def pathLimit : Nat := 4095

/-- Where a path leads. -/
inductive Target
  /-- To a folder. -/
  | folder
  /-- To a place in a folder at which there is no folder. -/
  | file (place : Place)
  /-- To a name in a folder around the workspace. -/
  | outside
  /-- To the null device. -/
  | nullDevice
  deriving DecidableEq, Repr

/-- Follows names from a folder of the workspace, or from outside of it. -/
def follow (w : Workspace) : (here : Option Place) → List Text → Except FileCause Target
  | _, [] => .ok .folder
  | here, name :: names =>
    if name = ['.', '.'] then
      match here with
      | some (first :: inner) => follow w (some (first :: inner).dropLast) names
      | _ => follow w none names
    else if nameLimit < (Utf8.encode name).length then .error .tooLong
    else
      match here with
      | none => if names.isEmpty then .ok .outside else .error .missing
      | some folder =>
        let place := folder ++ [name]
        if w.isFolder place then follow w (some place) names
        else if names.isEmpty then .ok (.file place)
        else if (w.file? place).isSome then .error .notFolder
        else .error .missing

/-- A path leads to the null device. -/
def isNullDevice (path : Text) : Bool :=
  pathRoot path ≠ [] && pathNames path = ["dev".toList, "null".toList]

/-- Where a path leads from the workspace. -/
def resolve (w : Workspace) (path : Text) : Except FileCause Target :=
  if isNullDevice path then .ok .nullDevice
  else if pathLimit < (Utf8.encode (shownPath path)).length then .error .tooLong
  else w.follow (if pathRoot path = [] then some [] else none) (pathNames path)

/-! ## 4. Reading and writing -/

/-- The bytes of the file at a path. -/
def read (w : Workspace) (path : Text) : Except FileFault (List UInt8) :=
  match w.resolve path with
  | .error cause => .error ⟨cause, path⟩
  | .ok .folder => .error ⟨.isFolder, path⟩
  | .ok .outside => .error ⟨.missing, path⟩
  | .ok .nullDevice => .ok []
  | .ok (.file place) =>
    match w.file? place with
    | some bytes => .ok bytes
    | none => .error ⟨.missing, path⟩

/-- Puts bytes into the file at a path, which need not exist. -/
def write (w : Workspace) (path : Text) (bytes : List UInt8) : Except FileFault Workspace :=
  match w.resolve path with
  | .error cause => .error ⟨cause, path⟩
  | .ok .folder => .error ⟨.isFolder, path⟩
  | .ok .outside => .ok w
  | .ok .nullDevice => .ok w
  | .ok (.file place) => .ok (w.putFile place bytes)

/-- The files that are new in a workspace or have other bytes than before. -/
def changes (before after : Workspace) : List (Place × List UInt8) :=
  after.files.filter fun f => before.file? f.1 ≠ some f.2

end Workspace

end Jenkinsfile
