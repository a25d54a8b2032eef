import FlowScript.Text.Lines

/-!
# Folders

The files that a program sees, as a value: what reading and writing a path comes to, and
why it fails. All files lie in one tree, and the program works at some place in it. A path
that begins with a slash is taken from the root of the tree and any other from that place,
step by step; so a file in the middle of it and a missing folder are different faults.
There are folders where there are files below them, and on the way to where the program
works. Links, permissions and devices that make up their content are left out.

Before a file is written it is emptied, and then there may be no room for all of its new
content. What found room stays behind, and it is a fault all the same: so writing always
gives the folder that it leaves.
-/

namespace FlowScript

/-- Why a file is not read or written. -/
inductive FileFault where
  /-- there is no such file, or no such folder on the way to it -/
  | missing
  /-- something on the way is a file -/
  | notFolder
  /-- it is a folder -/
  | isFolder
  /-- its content is no text -/
  | notText
  /-- there is no room for its content -/
  | noRoom
  /-- some other cause, with its number -/
  | other (code : Nat) (cause : String)
deriving DecidableEq

/-- The wording of a fault. -/
def FileFault.message : FileFault → String
  | .missing => "No such file or directory (os error 2)"
  | .notFolder => "Not a directory (os error 20)"
  | .isFolder => "Is a directory (os error 21)"
  | .notText => "stream did not contain valid UTF-8"
  | .noRoom => "No space left on device (os error 28)"
  | .other code cause => cause ++ " (os error " ++ toString code ++ ")"

/-! ### Paths -/

/-- A path to a file or a folder. -/
structure Path where
  /-- whether it is taken from the root -/
  fromRoot : Bool
  /-- the steps to take, each a name or `..` -/
  steps : List String
  /-- whether it can only be a folder, since it ends in a slash or in `.` -/
  endsOpen : Bool
deriving DecidableEq

/-- A path from its text, unless that is empty. Steps that lead nowhere are left out. -/
def Path.ofText? (text : String) : Option Path :=
  let parts := (Text.cut '/' text.toList).map String.ofList
  let idle := fun (part : String) => part == "" || part == "."
  if text = "" then none
  else some
    { fromRoot := parts.head? == some ""
      steps := parts.filter fun part => !idle part
      endsOpen := parts.getLast?.any idle }

/-! ### Contents -/

/-- Files with their contents, each by the names that lead to it from the root. -/
structure Folder where
  /-- the files -/
  files : List (List String × List UInt8) := []
  /-- the place where the program works -/
  working : List String := []
  /-- the places that have room for so many bytes only -/
  limits : List (List String × Nat) := []
deriving DecidableEq

namespace Folder

/-- The content of the file at a place. -/
def file? (folder : Folder) (place : List String) : Option (List UInt8) :=
  folder.files.lookup place

/-- Whether there is a folder at a place. -/
def hasFolder (folder : Folder) (place : List String) : Bool :=
  place.isPrefixOf folder.working ||
    folder.files.any fun (other, _) => other != place && place.isPrefixOf other

/-- Takes the steps of a path from a place. Only the place where it ends may be missing. What
is above the root is the root. -/
def walk (folder : Folder) (place : List String) : List String → Except FileFault (List String)
  | [] => .ok place
  | step :: rest =>
    if !folder.hasFolder place then
      .error (if (folder.file? place).isSome then .notFolder else .missing)
    else folder.walk (if step = ".." then place.dropLast else place ++ [step]) rest

/-- The place to which a path leads, and whether the path asks for a folder there. -/
def locate (folder : Folder) (text : String) : Except FileFault (List String × Bool) :=
  match Path.ofText? text with
  | none => .error .missing
  | some path =>
    (folder.walk (if path.fromRoot then [] else folder.working) path.steps).map fun place =>
      (place, path.endsOpen)

/-- The content of the file at a path. -/
def read (folder : Folder) (path : String) : Except FileFault (List UInt8) :=
  match folder.locate path with
  | .error fault => .error fault
  | .ok (place, endsOpen) =>
    match folder.file? place with
    | some content => if endsOpen then .error .notFolder else .ok content
    | none => .error (if folder.hasFolder place then .isFolder else .missing)

/-- The content of the nearest file of a name: it is looked for where the program works, and
then in one folder above the other. -/
def find? (folder : Folder) (name : String) : Option (List UInt8) :=
  (List.range (folder.working.length + 1)).reverse.findSome? fun depth =>
    folder.file? (folder.working.take depth ++ [name])

/-- The folder with new content for the file at a place. -/
def put (folder : Folder) (place : List String) (content : List UInt8) : Folder :=
  { folder with files := (place, content) :: folder.files.filter fun (other, _) => other != place }

/-- As much of a content as there is room for at a place. -/
def fitting (folder : Folder) (place : List String) (content : List UInt8) : List UInt8 :=
  match folder.limits.lookup place with
  | none => content
  | some room => content.take room

/-- Writes new content to the file at a path. The file may be a new one, but its folder has to
be there. -/
def write (folder : Folder) (path : String) (content : List UInt8) :
    Except FileFault Unit × Folder :=
  match folder.locate path with
  | .error fault => (.error fault, folder)
  | .ok (place, endsOpen) =>
    if folder.hasFolder place then (.error .isFolder, folder)
    else if endsOpen then
      (.error (if (folder.file? place).isSome then .notFolder else .isFolder), folder)
    else
      let kept := folder.fitting place content
      (if kept = content then .ok () else .error .noRoom, folder.put place kept)

end Folder

end FlowScript
