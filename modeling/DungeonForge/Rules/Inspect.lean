import DungeonForge.Rules.Links
import DungeonForge.Rules.Reach
import DungeonForge.Rules.Rooms

/-!
The inspection of a dungeon by all design rules. Repeated names come first; then floor by floor the
rules on the floor and room by room the rules on connections, sizes, traps and inhabitants.
-/

namespace DungeonForge

namespace Room

def ownFindings (r : Room) : List Finding :=
  r.shopFindings ++ r.bossFindings ++ r.traps.flatMap r.trapFindings ++
    r.npcs.flatMap Npc.healthFindings

theorem rule_of_mem_ownFindings {r : Room} {x : Finding} (mem : x ∈ r.ownFindings) :
    x.rule ∈ [Rule.invalidShopSize, .bossRoomSize, .bossRoomConnections, .invalidProbability,
      .trapInPuzzle, .negativeHealth] := by
  simp only [ownFindings, List.mem_append, List.mem_flatMap] at mem
  rcases mem with ((shop | boss) | ⟨t, -, trap⟩) | ⟨n, -, health⟩
  · simp [rule_of_mem_shopFindings shop]
  · rcases rule_of_mem_bossFindings boss with size | links
    · simp [size]
    · simp [links]
  · rcases rule_of_mem_trapFindings trap with chance | puzzle
    · simp [chance]
    · simp [puzzle]
  · simp [Npc.rule_of_mem_healthFindings health]

end Room

namespace Dungeon

def roomFindings (d : Dungeon) (here : Place) (r : Room) : List Finding :=
  d.linkFindings here r ++ r.ownFindings

def floorFindings (d : Dungeon) (f : Floor) (i : Nat) : List Finding :=
  f.combatFindings ++ f.treasureFindings ++ d.isolatedFindings f ++
    (f.placedRooms i).flatMap fun p => d.roomFindings p.1 p.2

def inspect (d : Dungeon) : Report :=
  ⟨d.duplicateFindings ++ d.floors.zipIdx.flatMap fun p => d.floorFindings p.1 p.2⟩

end Dungeon

end DungeonForge
