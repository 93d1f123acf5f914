import DungeonForge.Text.Utf8
import DungeonForge.Toml.Statement

/-!
A TOML document as one table. Headers open the table to which the lines after them belong.
-/

namespace DungeonForge.Toml

structure Draft where
  root : Entries
  current : List String

def Draft.change (d : Draft) (f : Entries → Option Entries) : Option Draft :=
  (d.root.along f d.current).map fun root => { d with root }

def Draft.add (d : Draft) : Statement → Option Draft
  | .assign path v => d.change (Entries.assign true v path)
  | .table path =>
    match path.getLast? with
    | none => none
    | some key => (d.root.along (Entries.openTable key) path.dropLast).map fun root => ⟨root, path⟩
  | .element path =>
    match path.getLast? with
    | none => none
    | some key => (d.root.along (Entries.openElement key) path.dropLast).map fun root => ⟨root, path⟩

/-- The table of a document. A byte order mark in front of it is skipped. -/
def document? (text : String) : Option Entries := do
  let cs := Text.withoutMark text.toList
  let statements ← readStatements (cs.length + 1) cs
  let draft ← statements.foldlM Draft.add ⟨[], []⟩
  return draft.root

end DungeonForge.Toml
