import DungeonForge.Config.Source
import DungeonForge.Run.Path

/-!
Files as a program sees them: texts at locations. A disk tells where a path leads that is to be read
or written, whatever links and rights there are; a write that is not refused replaces the whole text
of the file.
-/

namespace DungeonForge

inductive FileFault
  | noSuchEntry
  | notADirectory
  | isADirectory
  | nameTooLong
  | nullInPath
  | other (text : String)
deriving DecidableEq, Repr

def FileFault.message : FileFault → String
  | .noSuchEntry => "No such file or directory (os error 2)"
  | .notADirectory => "Not a directory (os error 20)"
  | .isADirectory => "Is a directory (os error 21)"
  | .nameTooLong => "File name too long (os error 36)"
  | .nullInPath => "file name contained an unexpected NUL byte"
  | .other text => text

abbrev Files := List (Location × String)

namespace Files

def get? (fs : Files) (l : Location) : Option String :=
  (fs.find? fun f => f.1 == l).map Prod.snd

def put (fs : Files) (l : Location) (text : String) : Files :=
  if (fs.get? l).isSome then fs.map fun f => if f.1 == l then (l, text) else f
  else fs ++ [(l, text)]

section

variable (fs : Files) (here : Location)

/-- The directory of the program is there, so are those around it, and so is every directory around
a file. -/
def isDirectory (l : Location) : Bool :=
  l.isPrefixOf here || fs.any fun f => l.isPrefixOf f.1 && l != f.1

def notDirectory (l : Location) : FileFault :=
  if (fs.get? l).isSome then .notADirectory else .noSuchEntry

def enter (l : Location) (name : String) : Except FileFault Location :=
  if !fs.isDirectory here l then .error (fs.notDirectory l)
  else if Path.maxNameSize < name.utf8ByteSize then .error .nameTooLong
  else .ok (l.enter name)

/-- The file to which a path leads where there are no links, whether or not it is there yet. All
names but the last must lead to directories, and a slash behind the last one asks for a directory. -/
def locate (path : String) : Except FileFault Location := do
  if path.contains '\x00' then throw .nullInPath
  if path.isEmpty then throw .noSuchEntry
  if Path.maxSize < path.utf8ByteSize then throw .nameTooLong
  let l ← (Path.names path).foldlM (fs.enter here) (if Path.isAbsolute path then [] else here)
  if path.endsWith "/" ∨ fs.isDirectory here l then throw .isADirectory
  return l

end

end Files

structure Disk where
  tree : Files
  here : Location
  /-- The file that is read at a path, given the files. -/
  source : Files → String → Option Location
  /-- The file that a write to a path makes or replaces, given the files. -/
  target : Files → String → Except FileFault Location

namespace Disk

def home : Location := ["d"]

/-- A disk without links, with just the given files in the directory of the program. -/
def ofFiles (files : Files) : Disk where
  tree := files.map fun f => (home ++ f.1, f.2)
  here := home
  source fs path := (fs.locate home path).toOption
  target fs path := fs.locate home path

/-- The files as they are seen from the directory of the program. -/
def files (d : Disk) : Files :=
  d.tree.map fun f => (d.here.seenFrom f.1, f.2)

def read? (d : Disk) (path : String) : Option String :=
  (d.source d.tree path).bind d.tree.get?

def open? (d : Disk) (path : String) : Option Config.SourceFile :=
  (d.read? path).map fun text => ⟨Path.seenFrom d.here path, text⟩

def write (d : Disk) (path text : String) : Except FileFault Disk := do
  let l ← d.target d.tree path
  return { d with tree := d.tree.put l text }

end Disk

end DungeonForge
