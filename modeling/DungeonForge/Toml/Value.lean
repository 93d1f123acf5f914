import DungeonForge.Decimal.Binary64

/-!
Values of the TOML format, with what the format needs to know of a table to tell whether a later
line may still add to it. `assign` adds the value of a dotted key and `openTable` and `openElement`
follow the two kinds of header; each fails where a key would be defined twice or a closed table
would be reopened.
-/

namespace DungeonForge.Toml

inductive TableKind
  | header
  /-- By a longer header that goes through it. -/
  | implied
  | dotted
  /-- Between braces; nothing can be added to it later. -/
  | closed
deriving DecidableEq, Repr

inductive Value
  | text (s : String)
  | integer (n : Int)
  | real (x : Binary64)
  | boolean (b : Bool)
  | moment (s : String)
  | array (items : List Value)
  /-- Tables that were opened one by one by headers, the latest first. -/
  | tables (reversed : List (List (String × Value)))
  | table (kind : TableKind) (entries : List (String × Value))
deriving Inhabited, Repr

abbrev Entries := List (String × Value)

namespace Entries

def get? (es : Entries) (key : String) : Option Value :=
  (es.find? fun e => e.1 == key).map Prod.snd

def replace (es : Entries) (key : String) (v : Value) : Entries :=
  es.map fun e => if e.1 == key then (key, v) else e

def add (es : Entries) (key : String) (v : Value) : Entries :=
  es ++ [(key, v)]

/-- Adds the value of a dotted key to the entries of a table. Tables on the way that only a longer
header has implied are from then on tables of dotted keys. The way may lead through the latest of
a list of tables, but the value itself is not added there: `adds` tells whether it may be. -/
def assign (adds : Bool) (v : Value) : List String → Entries → Option Entries
  | [], _ => none
  | [key], es => if adds ∧ (es.get? key).isNone then some (es.add key v) else none
  | key :: path, es =>
    match es.get? key with
    | none => (assign true v path []).map fun inner => es.add key (.table .dotted inner)
    | some (.table .dotted inner) =>
      (assign true v path inner).map fun new => es.replace key (.table .dotted new)
    | some (.table .implied inner) =>
      (assign true v path inner).map fun new => es.replace key (.table .dotted new)
    | some (.tables (last :: earlier)) =>
      (assign false v path last).map fun new => es.replace key (.tables (new :: earlier))
    | some _ => none

/-- Changes the table at the end of a path, making the tables on the way that are missing; in a
list of tables the way leads through the latest. -/
def along (change : Entries → Option Entries) : List String → Entries → Option Entries
  | [], es => change es
  | key :: path, es =>
    match es.get? key with
    | none => (along change path []).map fun inner => es.add key (.table .implied inner)
    | some (.table .closed _) => none
    | some (.table kind inner) =>
      (along change path inner).map fun new => es.replace key (.table kind new)
    | some (.tables (last :: earlier)) =>
      (along change path last).map fun new => es.replace key (.tables (new :: earlier))
    | some _ => none

def openTable (key : String) (es : Entries) : Option Entries :=
  match es.get? key with
  | none => some (es.add key (.table .header []))
  | some (.table .implied inner) => some (es.replace key (.table .header inner))
  | some _ => none

def openElement (key : String) (es : Entries) : Option Entries :=
  match es.get? key with
  | none => some (es.add key (.tables [[]]))
  | some (.tables reversed) => some (es.replace key (.tables ([] :: reversed)))
  | some _ => none

end Entries

end DungeonForge.Toml
