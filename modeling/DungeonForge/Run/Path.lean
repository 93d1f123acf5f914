/-!
Paths of files as texts: names between slashes, from the directory of the program or, behind a slash
in front, from the outermost one. A configuration may be asked for without its suffix, so a path at
which there is no file has a second path that is tried, `Path.withSuffix?`.
-/

namespace DungeonForge

/-- The names on the way from a directory to a file, from the outermost one if no other is meant. -/
abbrev Location := List String

namespace Path

def maxNameSize : Nat := 255

def maxSize : Nat := 4095

def isAbsolute (path : String) : Bool :=
  path.startsWith "/"

/-- The names of a path, those included that stay in a directory or go back. -/
def names (path : String) : List String :=
  (path.splitOn "/").filter fun name => name ≠ ""

/-- The texts before the last name of a path, and that name. Slashes and points behind it do not
count; a path that ends in going back has no last name, nor has one that never leaves. -/
def lastName? (path : String) : Option (List String × String) :=
  match (path.splitOn "/").reverse.dropWhile fun name => name = "" ∨ name = "." with
  | [] => none
  | last :: before => if last = ".." then none else some (before.reverse, last)

/-- A name without its extension: what stands before its last point, unless that is nothing. -/
def stem (name : String) : String :=
  match name.toList.reverse.dropWhile (· ≠ '.') with
  | [] => name
  | _ :: before => if before.isEmpty then name else String.ofList before.reverse

def hasExtension (name : String) : Bool :=
  stem name ≠ name

def withExtension? (path ext : String) : Option String :=
  (lastName? path).map fun (before, last) =>
    "/".intercalate (before ++ [stem last ++ "." ++ ext])

/-- The path that is tried when there is no file at a path. An extension that the path has is kept:
a placeholder goes behind the path, and the suffix takes the place of the placeholder. -/
def withSuffix? (path : String) : Option String :=
  let kept := (lastName? path).any fun p => hasExtension p.2
  withExtension? (if kept then path ++ ".placeholder" else path) "toml"

end Path

namespace Location

def ofPath (path : String) : Location :=
  (Path.names path).filter fun name => name ≠ "."

def text (l : Location) : String :=
  "/".intercalate l

def seenFrom : Location → Location → Location
  | here, [] => here.map fun _ => ".."
  | [], l => l
  | h :: here, n :: l =>
    if h = n then seenFrom here l else (h :: here).map (fun _ => "..") ++ n :: l

/-- The location to which a name leads from a directory. No way leads out of the outermost one. -/
def enter (l : Location) (name : String) : Location :=
  if name = "." then l else if name = ".." then l.dropLast else l ++ [name]

end Location

/-- A path as messages about its file give it, absolute ones too as seen from a directory. -/
def Path.seenFrom (here : Location) (path : String) : String :=
  let l := Location.ofPath path
  (if isAbsolute path then here.seenFrom l else l).text

end DungeonForge
