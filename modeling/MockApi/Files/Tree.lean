import MockApi.Entries
import MockApi.Files.Path

/-! # Trees of files

A tree of files maps places to texts. A place is the list of segments on the way from the top.
Folders are kept beside the files, since a folder can be empty; the folder around a file or folder
is always there.

A change that cannot be made gives nothing: below a file there is nothing, a text cannot be written
in place of a folder, and only folders are removed with all that is below them.

Changes are values as well, so that the ones made to a tree can be made again elsewhere.
-/

namespace MockApi

/-- The segments on the way to a file or folder. -/
abbrev Place := List String

/-- A change of a tree. -/
inductive FileChange where
  | write (place : Place) (text : String)
  | move (source target : Place)
  /-- Makes a folder and the folders around it. -/
  | makeFolders (place : Place)
  | removeFolder (place : Place)
deriving DecidableEq, Repr

/-- Files with their texts, and folders, seen from a working folder. -/
structure FileTree where
  /-- The working folder, where path names start that are not absolute. -/
  home : Place
  files : List (Place × String) := []
  folders : List Place := []
deriving DecidableEq, Repr

namespace FileTree

/-- Follows segments from a place; two dots lead to the folder above. -/
def follow (start : Place) (segments : List String) : Place :=
  segments.foldl (fun place s => if s = ".." then place.dropLast else place ++ [s]) start

/-- The place that a path name stands for. -/
def locate (t : FileTree) (path : String) : Place :=
  follow (if PathName.isAbsolute path then [] else t.home) (PathName.segments path)

/-- The text of a file. -/
def text? (t : FileTree) (place : Place) : Option String := t.files.lookup place

/-- True of files. -/
def isFile (t : FileTree) (place : Place) : Bool := (t.text? place).isSome

/-- True of folders; the top is one. -/
def isFolder (t : FileTree) (place : Place) : Bool := place.isEmpty || t.folders.contains place

/-- The places on the way to a place, from the top, without the place itself. -/
def above (place : Place) : List Place := (List.range place.length).map place.take

/-- Whether something is at a place; nothing when a file is on the way. -/
def holds? (t : FileTree) (place : Place) : Option Bool :=
  if (above place).any t.isFile then none else some (t.isFile place || t.isFolder place)

/-- Puts a text at a place. -/
def put (t : FileTree) (place : Place) (text : String) : FileTree :=
  if t.isFile place then
    { t with files := t.files.map fun f => if f.1 = place then (place, text) else f }
  else { t with files := t.files ++ [(place, text)] }

/-- Writes a file into a folder that is there. -/
def write? (t : FileTree) (place : Place) (text : String) : Option FileTree :=
  if place.isEmpty || t.isFolder place || !t.isFolder place.dropLast then none
  else some (t.put place text)

/-- Takes a file away. -/
def drop (t : FileTree) (place : Place) : FileTree :=
  { t with files := t.files.filter fun f => f.1 != place }

/-- Removes a file. -/
def removeFile? (t : FileTree) (place : Place) : Option FileTree :=
  if t.isFile place then some (t.drop place) else none

/-- Moves a file, in place of the file that may be at the target. -/
def move? (t : FileTree) (source target : Place) : Option FileTree := do
  let text ← t.text? source
  if source = target then return t
  (t.drop source).write? target text

/-- Makes a folder and the folders around it. -/
def makeFolders? (t : FileTree) (place : Place) : Option FileTree :=
  let places := above place ++ [place]
  if places.any t.isFile then none
  else some { t with folders := t.folders ++ places.filter fun p => !t.isFolder p }

/-- True of a place and all places below it. -/
def isWithin (folder place : Place) : Bool := folder.isPrefixOf place

/-- Removes a folder with all that is below it. -/
def removeFolder? (t : FileTree) (place : Place) : Option FileTree :=
  if t.isFolder place then
    some { t with
      files := t.files.filter fun f => !isWithin place f.1
      folders := t.folders.filter fun f => !isWithin place f }
  else none

/-- The tree after a change. -/
def after? (t : FileTree) : FileChange → Option FileTree
  | .write place text => t.write? place text
  | .move source target => t.move? source target
  | .makeFolders place => t.makeFolders? place
  | .removeFolder place => t.removeFolder? place

end FileTree
end MockApi
