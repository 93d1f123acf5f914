import DungeonForge.Record.Mismatch

/-!
Reading records from data trees of any format. A record is a table, whose fields are found by key,
or a list, whose items are the fields in the order of declaration. The fields of a table are read in
the order of their keys and those of a list in the order of declaration; what is missing is reported
only when all that is present can be read, again in the order of declaration.
-/

namespace DungeonForge

inductive Shape (V : Type)
  | table (entries : List (String × V))
  | list (items : List V)
  | other (found : Found)

namespace Shape

def found {V : Type} : Shape V → Found
  | .table _ => .table
  | .list _ => .list
  | .other f => f

end Shape

structure Format (V E : Type) where
  shape : V → Shape V
  text : V → Except E String
  flag : V → Except E Bool
  unsigned32 : V → Except E UInt32
  signed32 : V → Except E Int32
  mismatch : Mismatch → E
  missing : String → E
  inField : String → E → E
  inItem : Nat → E → E
  /-- Whether a list may hold more items than the record has fields. -/
  allowsSurplus : Bool

structure RecordKind where
  name : String
  size : Nat

namespace RecordKind

def words (k : RecordKind) : String :=
  "struct " ++ k.name

def sizedWords (k : RecordKind) : String :=
  k.words ++ " with " ++ toString k.size ++ (if k.size = 1 then " element" else " elements")

end RecordKind

inductive Record (V : Type)
  | keyed (kind : RecordKind) (entries : List (String × V))
  | positional (kind : RecordKind) (items : List V)

structure Slot (E α : Type) where
  place : Nat
  key : String
  value : Except E (Option α)

namespace Slot

variable {E α : Type}

def check (s : Slot E α) : String × Except E Unit :=
  (s.key, s.value.map fun _ => ())

def getD (s : Slot E α) (other : α) : Except E α :=
  s.value.map fun v => v.getD other

end Slot

/-- The first error among the fields, which are given in the order of declaration. -/
def Record.settle {V E : Type} (r : Record V) (fields : List (String × Except E Unit)) :
    Except E Unit :=
  let ordered := match r with
    | .keyed _ _ => fields.mergeSort fun a b => decide (a.1 ≤ b.1)
    | .positional _ _ => fields
  ordered.forM Prod.snd

namespace Format

variable {V E α : Type} (fmt : Format V E)

def record (k : RecordKind) (v : V) : Except E (Record V) :=
  match fmt.shape v with
  | .table entries => .ok (.keyed k entries)
  | .list items => .ok (.positional k items)
  | .other f => .error (fmt.mismatch (.wrongType f k.words))

/-- Reads a field. A key that is repeated stands for its last value. -/
def slot (r : Record V) (place : Nat) (key : String) (read : V → Except E α) : Slot E α :=
  ⟨place, key,
    match r with
    | .keyed _ entries =>
      match entries.reverse.find? fun e => e.1 == key with
      | none => .ok none
      | some e => ((read e.2).map some).mapError (fmt.inField key)
    | .positional _ items =>
      match items[place]? with
      | none => .ok none
      | some v => ((read v).map some).mapError (fmt.inItem place)⟩

def lacking (r : Record V) (place : Nat) (key : String) : E :=
  match r with
  | .keyed _ _ => fmt.missing key
  | .positional k _ => fmt.mismatch (.wrongLength place k.sizedWords)

def require (r : Record V) (s : Slot E α) : Except E α :=
  s.value.bind fun
    | some a => .ok a
    | none => .error (fmt.lacking r s.place s.key)

/-- The value of a field that may be nothing and that only a table may leave out. -/
def requireItem (r : Record V) (s : Slot E (Option α)) : Except E (Option α) :=
  match r with
  | .keyed _ _ => s.getD none
  | .positional _ _ => fmt.require r s

def refuseSurplus (r : Record V) : Except E Unit :=
  match r with
  | .keyed _ _ => .ok ()
  | .positional k items =>
    if items.length ≤ k.size || fmt.allowsSurplus then .ok ()
    else .error (fmt.mismatch (.wrongLength items.length "fewer elements in array"))

def itemsFrom (read : V → Except E α) (i : Nat) : List V → Except E (List α)
  | [] => .ok []
  | v :: vs => do
    let a ← (read v).mapError (fmt.inItem i)
    return a :: (← itemsFrom read (i + 1) vs)

def list (read : V → Except E α) (v : V) : Except E (List α) :=
  match fmt.shape v with
  | .list items => fmt.itemsFrom read 0 items
  | s => .error (fmt.mismatch (.wrongType s.found "a sequence"))

def optional (read : V → Except E α) (v : V) : Except E (Option α) :=
  match fmt.shape v with
  | .other .nothing => .ok none
  | _ => (read v).map some

end Format

end DungeonForge
