import DungeonForge.Dungeon.Basic
import DungeonForge.Rules.Finding

/-!
Rules on the mix of rooms of a floor, on the size of a room, and on what is in it.
-/

namespace DungeonForge

namespace Floor

def combatFindings (f : Floor) : List Finding :=
  if f.rooms.any fun r => r.kind = .combat then [] else [.missingCombatRoom f.name]

/-- At most a third of the rooms of a floor may hold treasure, rounded down. -/
def treasureFindings (f : Floor) : List Finding :=
  let total := f.rooms.length
  let treasure := f.rooms.countP fun r => r.kind = .treasure
  if 1 < total ∧ total / 3 < treasure then [.tooManyTreasureRooms f.name (total / 3)] else []

theorem combatFindings_congr {f g : Floor} (name : f.name = g.name)
    (kinds : (f.rooms.map Room.kind).Perm (g.rooms.map Room.kind)) :
    f.combatFindings = g.combatFindings := by
  have mixed := kinds.any_eq (f := fun k => decide (k = RoomKind.combat))
  rw [List.any_map, List.any_map] at mixed
  unfold combatFindings
  rw [name]
  exact ite_congr (congrArg (· = true) mixed) (fun _ => rfl) fun _ => rfl

theorem treasureFindings_congr {f g : Floor} (name : f.name = g.name)
    (kinds : (f.rooms.map Room.kind).Perm (g.rooms.map Room.kind)) :
    f.treasureFindings = g.treasureFindings := by
  have total := kinds.length_eq
  have treasure := kinds.countP_eq fun k => decide (k = RoomKind.treasure)
  rw [List.length_map, List.length_map] at total
  rw [List.countP_map, List.countP_map] at treasure
  simp only [Function.comp_def] at treasure
  simp only [treasureFindings, name, total, treasure]

theorem rule_of_mem_combatFindings {f : Floor} {x : Finding} (mem : x ∈ f.combatFindings) :
    x.rule = .missingCombatRoom := by
  unfold combatFindings at mem
  split at mem
  · cases mem
  · rw [List.mem_singleton.1 mem, Finding.rule]

theorem rule_of_mem_treasureFindings {f : Floor} {x : Finding} (mem : x ∈ f.treasureFindings) :
    x.rule = .tooManyTreasureRooms := by
  simp only [treasureFindings] at mem
  split at mem
  · rw [List.mem_singleton.1 mem, Finding.rule]
  · cases mem

end Floor

namespace Room

def shopFindings (r : Room) : List Finding :=
  if r.kind = .shop ∧ r.size = .large then [.invalidShopSize r.name] else []

def bossFindings (r : Room) : List Finding :=
  if r.kind = .boss then
    (if r.size = .large then [] else [.bossRoomSize r.name]) ++
      (if 1 < r.connections.length then [.bossRoomConnections r.name] else [])
  else []

def trapFindings (r : Room) (t : Trap) : List Finding :=
  (if t.triggerChance.toInt < 0 ∨ 100 < t.triggerChance.toInt then
    [.invalidProbability t.name t.triggerChance] else []) ++
  (if !t.disarmable ∧ r.kind = .puzzle then [.trapInPuzzle t.name] else [])

theorem rule_of_mem_shopFindings {r : Room} {x : Finding} (mem : x ∈ r.shopFindings) :
    x.rule = .invalidShopSize := by
  unfold shopFindings at mem
  split at mem
  · rw [List.mem_singleton.1 mem, Finding.rule]
  · cases mem

theorem rule_of_mem_bossFindings {r : Room} {x : Finding} (mem : x ∈ r.bossFindings) :
    x.rule = .bossRoomSize ∨ x.rule = .bossRoomConnections := by
  unfold bossFindings at mem
  split at mem
  · rcases List.mem_append.1 mem with size | links
    · split at size <;> simp_all [Finding.rule]
    · split at links <;> simp_all [Finding.rule]
  · cases mem

theorem rule_of_mem_trapFindings {r : Room} {t : Trap} {x : Finding} (mem : x ∈ r.trapFindings t) :
    x.rule = .invalidProbability ∨ x.rule = .trapInPuzzle := by
  rcases List.mem_append.1 mem with chance | puzzle
  · split at chance <;> simp_all [Finding.rule]
  · split at puzzle <;> simp_all [Finding.rule]

end Room

namespace Npc

def healthFindings (n : Npc) : List Finding :=
  if n.health.toInt < 0 then [.negativeHealth n.name n.health] else []

theorem rule_of_mem_healthFindings {n : Npc} {x : Finding} (mem : x ∈ n.healthFindings) :
    x.rule = .negativeHealth := by
  unfold healthFindings at mem
  split at mem
  · rw [List.mem_singleton.1 mem, Finding.rule]
  · cases mem

end Npc

end DungeonForge
