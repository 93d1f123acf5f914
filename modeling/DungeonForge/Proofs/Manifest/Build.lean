import DungeonForge.Manifest.Build
import DungeonForge.Proofs.Record.Fields
import Mathlib.Data.List.Forall2

/-!
What a manifest describes. A dungeon that has been built has the nodes of the manifest, one for one
and in order, each with the texts and numbers of its entry; tags are the texts of the entry, except
that a trigger may be spelled in two ways. A room without a floor of its own names the floor around
it. Any such dungeon whose names and level its constructors accept is the one that is built.
-/

namespace DungeonForge

structure TrapEntry.Describes (e : TrapEntry) (t : Trap) : Prop where
  name : t.name = e.name
  trigger : e.trigger = t.trigger.tag ∨ e.trigger = t.trigger.upperName
  disarmable : t.disarmable = e.disarmable
  triggerChance : t.triggerChance = e.triggerChance

structure NpcEntry.Describes (e : NpcEntry) (n : Npc) : Prop where
  name : n.name = e.name
  behaviour : n.behaviour.tag = e.behaviour
  kind : n.kind.tag = e.kind
  health : n.health = e.health

structure RoomEntry.Describes (floor : String) (e : RoomEntry) (r : Room) : Prop where
  name : r.name = e.name
  size : r.size.tag = e.size
  kind : r.kind.tag = e.kind
  floorId : r.floorId = e.floorId.getD floor
  connections : r.connections = e.connections
  traps : List.Forall₂ TrapEntry.Describes e.traps r.traps
  npcs : List.Forall₂ NpcEntry.Describes e.npcs r.npcs

structure FloorEntry.Describes (e : FloorEntry) (f : Floor) : Prop where
  name : f.name = e.name
  rooms : List.Forall₂ (RoomEntry.Describes e.name) e.rooms f.rooms

structure Manifest.Describes (m : Manifest) (d : Dungeon) : Prop where
  name : d.name = m.dungeon.name
  theme : d.theme = m.dungeon.theme
  level : d.level = m.dungeon.level
  floors : List.Forall₂ FloorEntry.Describes m.dungeon.floors d.floors

/-- What the constructors of a dungeon, its floors and its rooms demand. -/
structure Dungeon.WellNamed (d : Dungeon) : Prop where
  level : d.level ≠ 0
  name : Text.isBlank d.name = false
  floors : ∀ f ∈ d.floors, Text.isBlank f.name = false
  rooms : ∀ f ∈ d.floors, ∀ r ∈ f.rooms, Text.isBlank r.name = false

theorem forall₂_of_mapM {ε α β : Type} {f : α → Except ε β} {as : List α} {bs : List β}
    (built : as.mapM f = .ok bs) : List.Forall₂ (fun a b => f a = .ok b) as bs := by
  induction as generalizing bs with
  | nil =>
    cases built
    exact .nil
  | cons a as ih =>
    rw [List.mapM_cons] at built
    obtain ⟨b, head, built⟩ := bind_eq_ok_iff.1 built
    obtain ⟨bs, tail, built⟩ := bind_eq_ok_iff.1 built
    cases built
    exact .cons head (ih tail)

theorem forall_mem_of_forall₂ {α β : Type} {p : β → Prop} {as : List α} {bs : List β}
    (related : List.Forall₂ (fun _ b => p b) as bs) : ∀ b ∈ bs, p b := by
  induction related with
  | nil => exact List.forall_mem_nil p
  | cons head _ ih => exact List.forall_mem_cons.2 ⟨head, ih⟩

theorem mem_spellings_of_readTag {α : Type} [Tagged α] {room text : String} {kind : TagKind}
    {a : α} (read : readTag room kind text = .ok a) : text ∈ Tagged.spellings a := by
  unfold readTag at read
  split at read
  · next found =>
    cases read
    have spelled := List.find?_some found
    simpa using spelled
  · cases read

theorem TrapEntry.describes_of_build {room : String} {e : TrapEntry} {t : Trap}
    (built : e.build room = .ok t) : e.Describes t := by
  obtain ⟨trigger, read, built⟩ := bind_eq_ok_iff.1 built
  cases built
  have spelled := mem_spellings_of_readTag read
  refine ⟨rfl, ?_, rfl, rfl⟩
  simpa [Tagged.spellings, Tagged.tag, Tagged.otherSpellings] using spelled

theorem NpcEntry.describes_of_build {room : String} {e : NpcEntry} {n : Npc}
    (built : e.build room = .ok n) : e.Describes n := by
  obtain ⟨behaviour, readBehaviour, built⟩ := bind_eq_ok_iff.1 built
  obtain ⟨kind, readKind, built⟩ := bind_eq_ok_iff.1 built
  cases built
  exact ⟨rfl, (List.mem_singleton.1 (mem_spellings_of_readTag readBehaviour)).symm,
    (List.mem_singleton.1 (mem_spellings_of_readTag readKind)).symm, rfl⟩

theorem Room.fresh_eq_ok_iff {name floorId : String} {size : Size} {kind : RoomKind}
    {connections : List String} {r : Room} :
    Room.fresh name size kind floorId connections = .ok r ↔
      Text.isBlank name = false ∧ ⟨name, size, kind, floorId, connections, [], []⟩ = r := by
  unfold Room.fresh
  rw [bind_eq_ok_iff]
  constructor
  · rintro ⟨out, named, same⟩
    obtain ⟨visible, rfl⟩ := requireName_eq_ok_iff.1 named
    cases same
    exact ⟨visible, rfl⟩
  · rintro ⟨visible, rfl⟩
    exact ⟨name, requireName_eq_ok_iff.2 ⟨visible, rfl⟩, rfl⟩

theorem Floor.fresh_eq_ok_iff {name : String} {f : Floor} :
    Floor.fresh name = .ok f ↔ Text.isBlank name = false ∧ ⟨name, []⟩ = f := by
  unfold Floor.fresh
  rw [bind_eq_ok_iff]
  constructor
  · rintro ⟨out, named, made⟩
    obtain ⟨visible, rfl⟩ := requireName_eq_ok_iff.1 named
    cases made
    exact ⟨visible, rfl⟩
  · rintro ⟨visible, rfl⟩
    exact ⟨name, requireName_eq_ok_iff.2 ⟨visible, rfl⟩, rfl⟩

theorem RoomEntry.describes_of_build {floor : String} {e : RoomEntry} {r : Room}
    (built : e.build floor = .ok r) : e.Describes floor r ∧ Text.isBlank r.name = false := by
  obtain ⟨size, readSize, built⟩ := bind_eq_ok_iff.1 built
  obtain ⟨kind, readKind, built⟩ := bind_eq_ok_iff.1 built
  obtain ⟨room, fresh, built⟩ := bind_eq_ok_iff.1 built
  obtain ⟨traps, builtTraps, built⟩ := bind_eq_ok_iff.1 built
  obtain ⟨npcs, builtNpcs, built⟩ := bind_eq_ok_iff.1 built
  obtain ⟨visible, rfl⟩ := Room.fresh_eq_ok_iff.1 (mapError_eq_ok_iff.1 fresh)
  cases built
  refine ⟨?_, visible⟩
  exact {
    name := rfl
    size := (List.mem_singleton.1 (mem_spellings_of_readTag readSize)).symm
    kind := (List.mem_singleton.1 (mem_spellings_of_readTag readKind)).symm
    floorId := rfl
    connections := rfl
    traps := (forall₂_of_mapM builtTraps).imp fun _ _ => TrapEntry.describes_of_build
    npcs := (forall₂_of_mapM builtNpcs).imp fun _ _ => NpcEntry.describes_of_build }

theorem FloorEntry.describes_of_build {e : FloorEntry} {f : Floor} (built : e.build = .ok f) :
    e.Describes f ∧ Text.isBlank f.name = false ∧ ∀ r ∈ f.rooms, Text.isBlank r.name = false := by
  obtain ⟨floor, fresh, built⟩ := bind_eq_ok_iff.1 built
  obtain ⟨rooms, builtRooms, built⟩ := bind_eq_ok_iff.1 built
  obtain ⟨visible, rfl⟩ := Floor.fresh_eq_ok_iff.1 (mapError_eq_ok_iff.1 fresh)
  cases built
  have each := (forall₂_of_mapM builtRooms).imp fun _ _ => RoomEntry.describes_of_build
  exact ⟨⟨rfl, each.imp fun _ _ => And.left⟩, visible,
    forall_mem_of_forall₂ (each.imp fun _ _ => And.right)⟩

theorem Dungeon.fresh_eq_ok_iff {name theme : String} {level : UInt32} {d : Dungeon} :
    Dungeon.fresh name theme level = .ok d ↔
      Text.isBlank name = false ∧ level ≠ 0 ∧ ⟨name, theme, level, []⟩ = d := by
  unfold Dungeon.fresh
  rw [bind_eq_ok_iff]
  constructor
  · rintro ⟨out, named, made⟩
    obtain ⟨visible, rfl⟩ := requireName_eq_ok_iff.1 named
    by_cases zero : level = 0
    · rw [if_pos zero] at made
      cases made
    · rw [if_neg zero] at made
      cases made
      exact ⟨visible, zero, rfl⟩
  · rintro ⟨visible, positive, rfl⟩
    refine ⟨name, requireName_eq_ok_iff.2 ⟨visible, rfl⟩, ?_⟩
    rw [if_neg positive]
    rfl

theorem Manifest.describes_of_build {m : Manifest} {d : Dungeon} (built : m.build = .ok d) :
    m.Describes d ∧ d.WellNamed := by
  obtain ⟨dungeon, fresh, built⟩ := bind_eq_ok_iff.1 built
  obtain ⟨floors, builtFloors, built⟩ := bind_eq_ok_iff.1 built
  obtain ⟨visible, positive, rfl⟩ := Dungeon.fresh_eq_ok_iff.1 (mapError_eq_ok_iff.1 fresh)
  cases built
  have each := (forall₂_of_mapM builtFloors).imp fun _ _ => FloorEntry.describes_of_build
  have named := forall_mem_of_forall₂ (each.imp fun _ _ => And.right)
  exact ⟨⟨rfl, rfl, rfl, each.imp fun _ _ => And.left⟩,
    ⟨positive, visible, fun f mem => (named f mem).1, fun f mem => (named f mem).2⟩⟩

theorem mapM_of_forall₂ {ε α β : Type} {R : α → β → Prop} {f : α → Except ε β} {as : List α}
    {bs : List β} (related : List.Forall₂ R as bs)
    (built : ∀ a, ∀ b ∈ bs, R a b → f a = .ok b) : as.mapM f = .ok bs := by
  induction related with
  | nil => rfl
  | cons first _ ih =>
    rw [List.mapM_cons]
    refine bind_eq_ok_iff.2 ⟨_, built _ _ List.mem_cons_self first, ?_⟩
    have tail := ih fun a b mem => built a b (List.mem_cons_of_mem _ mem)
    exact bind_eq_ok_iff.2 ⟨_, tail, rfl⟩

theorem readTag_of_ofText? {α : Type} [Tagged α] {room text : String} {kind : TagKind} {a : α}
    (stands : Tagged.ofText? text = some a) : readTag room kind text = .ok a := by
  rw [readTag, stands]

theorem TrapEntry.Describes.build {room : String} {e : TrapEntry} {t : Trap}
    (same : e.Describes t) : e.build room = .ok t := by
  have trigger : Tagged.ofText? e.trigger = some t.trigger := by
    rcases same.trigger with spelled | spelled <;> rw [spelled]
    · exact t.trigger.ofText?_tag
    · exact t.trigger.ofText?_upperName
  refine bind_eq_ok_iff.2 ⟨_, readTag_of_ofText? trigger, ?_⟩
  rw [← same.name, ← same.disarmable, ← same.triggerChance]
  rfl

theorem NpcEntry.Describes.build {room : String} {e : NpcEntry} {n : Npc}
    (same : e.Describes n) : e.build room = .ok n := by
  have behaviour : Tagged.ofText? e.behaviour = some n.behaviour :=
    same.behaviour ▸ n.behaviour.ofText?_tag
  have kind : Tagged.ofText? e.kind = some n.kind := same.kind ▸ n.kind.ofText?_tag
  refine bind_eq_ok_iff.2 ⟨_, readTag_of_ofText? behaviour, ?_⟩
  refine bind_eq_ok_iff.2 ⟨_, readTag_of_ofText? kind, ?_⟩
  rw [← same.name, ← same.health]
  rfl

theorem RoomEntry.Describes.build {floor : String} {e : RoomEntry} {r : Room}
    (same : e.Describes floor r) (visible : Text.isBlank r.name = false) :
    e.build floor = .ok r := by
  have size : Tagged.ofText? e.size = some r.size := same.size ▸ r.size.ofText?_tag
  have kind : Tagged.ofText? e.kind = some r.kind := same.kind ▸ r.kind.ofText?_tag
  have room : Room.fresh r.name r.size r.kind r.floorId r.connections =
      .ok ⟨r.name, r.size, r.kind, r.floorId, r.connections, [], []⟩ :=
    Room.fresh_eq_ok_iff.2 ⟨visible, rfl⟩
  refine bind_eq_ok_iff.2 ⟨_, readTag_of_ofText? size, ?_⟩
  refine bind_eq_ok_iff.2 ⟨_, readTag_of_ofText? kind, ?_⟩
  rw [← same.floorId, ← same.connections, ← same.name]
  refine bind_eq_ok_iff.2 ⟨_, mapError_eq_ok_iff.2 room, ?_⟩
  have traps : e.traps.mapM (TrapEntry.build r.name) = .ok r.traps :=
    mapM_of_forall₂ same.traps fun _ _ _ => TrapEntry.Describes.build
  have npcs : e.npcs.mapM (NpcEntry.build r.name) = .ok r.npcs :=
    mapM_of_forall₂ same.npcs fun _ _ _ => NpcEntry.Describes.build
  exact bind_eq_ok_iff.2 ⟨_, traps, bind_eq_ok_iff.2 ⟨_, npcs, rfl⟩⟩

theorem FloorEntry.Describes.build {e : FloorEntry} {f : Floor} (same : e.Describes f)
    (visible : Text.isBlank f.name = false) (rooms : ∀ r ∈ f.rooms, Text.isBlank r.name = false) :
    e.build = .ok f := by
  have floor : Floor.fresh e.name = .ok ⟨e.name, []⟩ :=
    Floor.fresh_eq_ok_iff.2 ⟨same.name ▸ visible, rfl⟩
  have built : e.rooms.mapM (RoomEntry.build e.name) = .ok f.rooms :=
    mapM_of_forall₂ same.rooms fun _ r mem alike => alike.build (rooms r mem)
  refine bind_eq_ok_iff.2 ⟨_, mapError_eq_ok_iff.2 floor, ?_⟩
  refine bind_eq_ok_iff.2 ⟨_, built, ?_⟩
  rw [← same.name]
  rfl

theorem Manifest.Describes.build {m : Manifest} {d : Dungeon} (same : m.Describes d)
    (named : d.WellNamed) : m.build = .ok d := by
  have dungeon : Dungeon.fresh m.dungeon.name m.dungeon.theme m.dungeon.level =
      .ok ⟨d.name, d.theme, d.level, []⟩ := by
    rw [← same.name, ← same.theme, ← same.level]
    exact Dungeon.fresh_eq_ok_iff.2 ⟨named.name, named.level, rfl⟩
  have floors : m.dungeon.floors.mapM FloorEntry.build = .ok d.floors :=
    mapM_of_forall₂ same.floors fun _ f mem alike =>
      alike.build (named.floors f mem) (named.rooms f mem)
  refine bind_eq_ok_iff.2 ⟨_, mapError_eq_ok_iff.2 dungeon, ?_⟩
  exact bind_eq_ok_iff.2 ⟨_, floors, rfl⟩

end DungeonForge
