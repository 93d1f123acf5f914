import DungeonForge.Manifest.Entry
import DungeonForge.Record.Basic

/-!
Reading a manifest from a data tree of any format. Names, tags and numbers must be given. A theme
that is left out is empty, as is a list, and a trap cannot be disarmed unless it says so.
-/

namespace DungeonForge

variable {V E : Type} (fmt : Format V E)

def TrapEntry.read (v : V) : Except E TrapEntry := do
  let r ← fmt.record ⟨"TrapEntry", 4⟩ v
  let name := fmt.slot r 0 "name" fmt.text
  let trigger := fmt.slot r 1 "trigger" fmt.text
  let disarmable := fmt.slot r 2 "disarmable" fmt.flag
  let triggerChance := fmt.slot r 3 "trigger_chance" fmt.signed32
  r.settle [name.check, trigger.check, disarmable.check, triggerChance.check]
  let e : TrapEntry := {
    name := ← fmt.require r name
    trigger := ← fmt.require r trigger
    disarmable := ← disarmable.getD false
    triggerChance := ← fmt.require r triggerChance }
  fmt.refuseSurplus r
  return e

def NpcEntry.read (v : V) : Except E NpcEntry := do
  let r ← fmt.record ⟨"NpcEntry", 4⟩ v
  let name := fmt.slot r 0 "name" fmt.text
  let behaviour := fmt.slot r 1 "behaviour" fmt.text
  let kind := fmt.slot r 2 "type" fmt.text
  let health := fmt.slot r 3 "health" fmt.signed32
  r.settle [name.check, behaviour.check, kind.check, health.check]
  let e : NpcEntry := {
    name := ← fmt.require r name
    behaviour := ← fmt.require r behaviour
    kind := ← fmt.require r kind
    health := ← fmt.require r health }
  fmt.refuseSurplus r
  return e

def RoomEntry.read (v : V) : Except E RoomEntry := do
  let r ← fmt.record ⟨"RoomEntry", 7⟩ v
  let name := fmt.slot r 0 "name" fmt.text
  let size := fmt.slot r 1 "size" fmt.text
  let kind := fmt.slot r 2 "type" fmt.text
  let floorId := fmt.slot r 3 "floor_id" (fmt.optional fmt.text)
  let connections := fmt.slot r 4 "connections" (fmt.list fmt.text)
  let traps := fmt.slot r 5 "traps" (fmt.list (TrapEntry.read fmt))
  let npcs := fmt.slot r 6 "npcs" (fmt.list (NpcEntry.read fmt))
  r.settle [name.check, size.check, kind.check, floorId.check, connections.check, traps.check,
    npcs.check]
  let e : RoomEntry := {
    name := ← fmt.require r name
    size := ← fmt.require r size
    kind := ← fmt.require r kind
    floorId := ← fmt.requireItem r floorId
    connections := ← connections.getD []
    traps := ← traps.getD []
    npcs := ← npcs.getD [] }
  fmt.refuseSurplus r
  return e

def FloorEntry.read (v : V) : Except E FloorEntry := do
  let r ← fmt.record ⟨"FloorEntry", 2⟩ v
  let name := fmt.slot r 0 "name" fmt.text
  let rooms := fmt.slot r 1 "rooms" (fmt.list (RoomEntry.read fmt))
  r.settle [name.check, rooms.check]
  let e : FloorEntry := {
    name := ← fmt.require r name
    rooms := ← rooms.getD [] }
  fmt.refuseSurplus r
  return e

def DungeonEntry.read (v : V) : Except E DungeonEntry := do
  let r ← fmt.record ⟨"DungeonEntry", 4⟩ v
  let name := fmt.slot r 0 "name" fmt.text
  let theme := fmt.slot r 1 "theme" fmt.text
  let level := fmt.slot r 2 "level" fmt.unsigned32
  let floors := fmt.slot r 3 "floors" (fmt.list (FloorEntry.read fmt))
  r.settle [name.check, theme.check, level.check, floors.check]
  let e : DungeonEntry := {
    name := ← fmt.require r name
    theme := ← theme.getD ""
    level := ← fmt.require r level
    floors := ← floors.getD [] }
  fmt.refuseSurplus r
  return e

def Manifest.read (v : V) : Except E Manifest := do
  let r ← fmt.record ⟨"Manifest", 1⟩ v
  let dungeon := fmt.slot r 0 "dungeon" (DungeonEntry.read fmt)
  r.settle [dungeon.check]
  let m : Manifest := ⟨← fmt.require r dungeon⟩
  fmt.refuseSurplus r
  return m

end DungeonForge
