import DungeonForge.Document.Render
import DungeonForge.Manifest.Build
import DungeonForge.Rules.Inspect

/-!
A session: one dungeon that is edited and asked about step by step, and at most one remembered copy
of it. A step that fails changes nothing. Nodes are given by their index in the list around them;
an index may be missing, which counts as out of range, and the outermost bad index is reported.
-/

namespace DungeonForge

inductive IndexKey
  | floor | room | trap | npc | destination | index
deriving DecidableEq, Repr

def IndexKey.name : IndexKey → String
  | .floor => "floor"
  | .room => "room"
  | .trap => "trap"
  | .npc => "npc"
  | .destination => "to"
  | .index => "index"

inductive SessionError
  | noDungeon
  | badIndex (key : IndexKey)
  | notBuilt (e : BuildError)
  | violation (v : Violation)
deriving DecidableEq, Repr

inductive DungeonField
  | name (s : String)
  | theme (s : String)
  | level (n : UInt32)
deriving DecidableEq, Repr

inductive RoomField
  | name (s : String)
  | size (tag : String)
  | kind (tag : String)
  | floorId (s : String)
  | connections (targets : List String)
deriving DecidableEq, Repr

inductive TrapField
  | name (s : String)
  | trigger (tag : String)
  | disarmable (b : Bool)
  | triggerChance (v : Int32)
deriving DecidableEq, Repr

inductive NpcField
  | name (s : String)
  | behaviour (tag : String)
  | kind (tag : String)
  | health (v : Int32)
deriving DecidableEq, Repr

inductive Step
  | new (name theme : String) (level : UInt32)
  | addFloor (name : String)
  | addRoom (floor : Option Nat) (room : RoomEntry)
  | addTrap (floor room : Option Nat) (trap : TrapEntry)
  | addNpc (floor room : Option Nat) (npc : NpcEntry)
  | copyRoom (floor room destination : Option Nat)
  | connect (floor room : Option Nat) (target : String)
  | disconnect (floor room index : Option Nat)
  | setDungeon (field : DungeonField)
  | setFloorName (floor : Option Nat) (name : String)
  | setRoom (floor room : Option Nat) (field : RoomField)
  | setTrap (floor room trap : Option Nat) (field : TrapField)
  | setNpc (floor room npc : Option Nat) (field : NpcField)
  | removeFloor (floor : Option Nat)
  | removeRoom (floor room : Option Nat)
  | removeTrap (floor room trap : Option Nat)
  | removeNpc (floor room npc : Option Nat)
  | reverseFloors
  | reverseRooms (floor : Option Nat)
  | roomNames
  | find (name : String)
  | connectsTo (floor room : Option Nat) (name : String)
  | validate
  | document (layout : Json.Layout)
  | inspect
  | save
  | same
  | restore
deriving DecidableEq, Repr

inductive Answer
  | dungeon (d : Dungeon)
  | heading (d : Dungeon)
  | floor (f : Floor)
  | floorName (f : Floor)
  | room (r : Room)
  | trap (t : Trap)
  | npc (n : Npc)
  | names (l : List String)
  | found (r : Option Room)
  | connects (b : Bool)
  | valid
  | document (text : String)
  | report (r : Report)
  | saved
  | same (b : Bool)
deriving DecidableEq, Repr

/-- An edit of a node gives the node afterwards and an answer. -/
abbrev Edit (α : Type) :=
  α → Except SessionError (α × Answer)

/-- The element of a list at an index that may be missing, with the index. -/
def pick {α : Type} (key : IndexKey) (xs : List α) (i : Option Nat) :
    Except SessionError (Nat × α) :=
  match i with
  | none => .error (.badIndex key)
  | some i =>
    match xs[i]? with
    | none => .error (.badIndex key)
    | some x => .ok (i, x)

def editAt {α : Type} (key : IndexKey) (i : Option Nat) (edit : Edit α) (xs : List α) :
    Except SessionError (List α × Answer) := do
  let (i, x) ← pick key xs i
  let (y, answer) ← edit x
  return (xs.set i y, answer)

def removeAt {α : Type} (key : IndexKey) (i : Option Nat) (answer : α → Answer) (xs : List α) :
    Except SessionError (List α × Answer) := do
  let (i, x) ← pick key xs i
  return (xs.eraseIdx i, answer x)

namespace Dungeon

def editFloor (floor : Option Nat) (edit : Edit Floor) : Edit Dungeon := fun d => do
  let (floors, answer) ← editAt .floor floor edit d.floors
  return ({ d with floors }, answer)

def editRoom (floor room : Option Nat) (edit : Edit Room) : Edit Dungeon :=
  editFloor floor fun f => do
    let (rooms, answer) ← editAt .room room edit f.rooms
    return ({ f with rooms }, answer)

def editTrap (floor room trap : Option Nat) (edit : Room → Edit Trap) : Edit Dungeon :=
  editRoom floor room fun r => do
    let (traps, answer) ← editAt .trap trap (edit r) r.traps
    return ({ r with traps }, answer)

def editNpc (floor room npc : Option Nat) (edit : Room → Edit Npc) : Edit Dungeon :=
  editRoom floor room fun r => do
    let (npcs, answer) ← editAt .npc npc (edit r) r.npcs
    return ({ r with npcs }, answer)

def copyRoom (floor room destination : Option Nat) : Edit Dungeon := fun d => do
  let (_, f) ← pick .floor d.floors floor
  let (_, r) ← pick .room f.rooms room
  let (floors, answer) ← editAt .destination destination (fun g => .ok (g.addRoom r, .room r)) d.floors
  return ({ d with floors }, answer)

def set (field : DungeonField) (d : Dungeon) : Dungeon :=
  match field with
  | .name s => { d with name := s }
  | .theme s => { d with theme := s }
  | .level n => { d with level := n }

end Dungeon

namespace Room

def set (field : RoomField) (r : Room) : Except BuildError Room := do
  match field with
  | .name s => return { r with name := s }
  | .size tag => return { r with size := ← readTag r.name .size tag }
  | .kind tag => return { r with kind := ← readTag r.name .roomKind tag }
  | .floorId s => return { r with floorId := s }
  | .connections targets => return { r with connections := targets }

end Room

namespace Trap

def set (room : String) (field : TrapField) (t : Trap) : Except BuildError Trap := do
  match field with
  | .name s => return { t with name := s }
  | .trigger tag => return { t with trigger := ← readTag room .trigger tag }
  | .disarmable b => return { t with disarmable := b }
  | .triggerChance v => return { t with triggerChance := v }

end Trap

namespace Npc

def set (room : String) (field : NpcField) (n : Npc) : Except BuildError Npc := do
  match field with
  | .name s => return { n with name := s }
  | .behaviour tag => return { n with behaviour := ← readTag room .behaviour tag }
  | .kind tag => return { n with kind := ← readTag room .npcKind tag }
  | .health v => return { n with health := v }

end Npc

def built {α : Type} (answer : α → Answer) (x : Except BuildError α) :
    Except SessionError (α × Answer) :=
  match x with
  | .ok a => .ok (a, answer a)
  | .error e => .error (.notBuilt e)

structure Session where
  current : Option Dungeon
  copy : Option Dungeon
deriving DecidableEq, Repr

namespace Session

def start : Session := ⟨none, none⟩

/-- What a step does to a dungeon; steps that only ask leave it as it is. -/
def edit (copy : Option Dungeon) : Step → Edit Dungeon
  | .new name theme level, _ => do
    let d ← (Dungeon.fresh name theme level).mapError fun e => .notBuilt (.refused e)
    return (d, .dungeon d)
  | .addFloor name, d => do
    let f ← (Floor.fresh name).mapError fun e => .notBuilt (.refused e)
    return (d.addFloor f, .floor f)
  | .addRoom floor e, d =>
    d.editFloor floor fun f => do
      let (r, answer) ← built .room (e.build f.name)
      return (f.addRoom r, answer)
  | .addTrap floor room e, d =>
    d.editRoom floor room fun r => do
      let (t, answer) ← built .trap (e.build r.name)
      return (r.addTrap t, answer)
  | .addNpc floor room e, d =>
    d.editRoom floor room fun r => do
      let (n, answer) ← built .npc (e.build r.name)
      return (r.addNpc n, answer)
  | .copyRoom floor room destination, d => d.copyRoom floor room destination
  | .connect floor room target, d =>
    d.editRoom floor room fun r =>
      let connections := r.connections ++ [target]
      .ok ({ r with connections }, .names connections)
  | .disconnect floor room index, d =>
    d.editRoom floor room fun r => do
      let (i, _) ← pick .index r.connections index
      let connections := r.connections.eraseIdx i
      return ({ r with connections }, .names connections)
  | .setDungeon field, d => .ok (d.set field, .heading (d.set field))
  | .setFloorName floor name, d =>
    d.editFloor floor fun f => .ok ({ f with name }, .floorName { f with name })
  | .setRoom floor room field, d => d.editRoom floor room fun r => built .room (r.set field)
  | .setTrap floor room trap field, d =>
    d.editTrap floor room trap fun r t => built .trap (t.set r.name field)
  | .setNpc floor room npc field, d =>
    d.editNpc floor room npc fun r n => built .npc (n.set r.name field)
  | .removeFloor floor, d => do
    let (floors, answer) ← removeAt .floor floor .floor d.floors
    return ({ d with floors }, answer)
  | .removeRoom floor room, d =>
    d.editFloor floor fun f => do
      let (rooms, answer) ← removeAt .room room .room f.rooms
      return ({ f with rooms }, answer)
  | .removeTrap floor room trap, d =>
    d.editRoom floor room fun r => do
      let (traps, answer) ← removeAt .trap trap .trap r.traps
      return ({ r with traps }, answer)
  | .removeNpc floor room npc, d =>
    d.editRoom floor room fun r => do
      let (npcs, answer) ← removeAt .npc npc .npc r.npcs
      return ({ r with npcs }, answer)
  | .reverseFloors, d =>
    let floors := d.floors.reverse
    .ok ({ d with floors }, .names (floors.map Floor.name))
  | .reverseRooms floor, d =>
    d.editFloor floor fun f =>
      let rooms := f.rooms.reverse
      .ok ({ f with rooms }, .names (rooms.map Room.name))
  | .roomNames, d => .ok (d, .names d.roomNames)
  | .find name, d => .ok (d, .found (d.room? name))
  | .connectsTo floor room name, d =>
    d.editRoom floor room fun r => .ok (r, .connects (r.connectsTo name))
  | .validate, d =>
    match d.firstViolation? with
    | some v => .error (.violation v)
    | none => .ok (d, .valid)
  | .document layout, d =>
    match d.document? layout with
    | .error v => .error (.violation v)
    | .ok text => .ok (d, .document text)
  | .inspect, d => .ok (d, .report d.inspect)
  | .save, d => .ok (d, .saved)
  | .same, d => .ok (d, .same (copy = some d))
  | .restore, d => .ok (copy.getD d, .dungeon (copy.getD d))

/-- Does one step. Only a first dungeon can be made where there is none. -/
def step (s : Session) (step : Step) : Session × Except SessionError Answer :=
  match s.current, step with
  | none, .new name theme level =>
    match Dungeon.fresh name theme level with
    | .ok d => (⟨some d, s.copy⟩, .ok (.dungeon d))
    | .error e => (s, .error (.notBuilt (.refused e)))
  | none, _ => (s, .error .noDungeon)
  | some d, step =>
    match edit s.copy step d with
    | .error e => (s, .error e)
    | .ok (d', answer) => (⟨some d', if step = .save then some d else s.copy⟩, .ok answer)

def run (s : Session) : List Step → List (Except SessionError Answer)
  | [] => []
  | st :: rest => (s.step st).2 :: (s.step st).1.run rest

end Session

end DungeonForge
