import DungeonForge.Manifest.Load
import DungeonForge.Proofs.Config.Merge
import DungeonForge.Proofs.Manifest.Build
import Mathlib

/-!
Manifests as trees. A tree spells a manifest if it has the fields of every entry, under their keys
and with their values; what has a default may be left out where it is the default, and tables may
have further entries and have them in any order. Both formats read such a tree as the manifest that
it spells, which is then built into every well-named dungeon that the manifest describes.
-/

namespace DungeonForge

variable {V E : Type} (fmt : Format V E)

structure TrapEntry.Fields (e : TrapEntry) (entries : List (String × V)) : Prop where
  name : Has entries "name" (fmt.IsText e.name)
  trigger : Has entries "trigger" (fmt.IsText e.trigger)
  disarmable : HasUnless (e.disarmable = false) entries "disarmable" (fmt.IsFlag e.disarmable)
  triggerChance : Has entries "trigger_chance" (fmt.IsInteger e.triggerChance.toInt)

def TrapEntry.SpelledBy (e : TrapEntry) : V → Prop :=
  fmt.IsTable (e.Fields fmt)

structure NpcEntry.Fields (e : NpcEntry) (entries : List (String × V)) : Prop where
  name : Has entries "name" (fmt.IsText e.name)
  behaviour : Has entries "behaviour" (fmt.IsText e.behaviour)
  kind : Has entries "type" (fmt.IsText e.kind)
  health : Has entries "health" (fmt.IsInteger e.health.toInt)

def NpcEntry.SpelledBy (e : NpcEntry) : V → Prop :=
  fmt.IsTable (e.Fields fmt)

structure RoomEntry.Fields (e : RoomEntry) (entries : List (String × V)) : Prop where
  name : Has entries "name" (fmt.IsText e.name)
  size : Has entries "size" (fmt.IsText e.size)
  kind : Has entries "type" (fmt.IsText e.kind)
  floorId : HasUnless (e.floorId = none) entries "floor_id" fun v =>
    ∃ floor, e.floorId = some floor ∧ fmt.IsText floor v
  connections : HasUnless (e.connections = []) entries "connections"
    (fmt.IsList fmt.IsText e.connections)
  traps : HasUnless (e.traps = []) entries "traps" (fmt.IsList (TrapEntry.SpelledBy fmt) e.traps)
  npcs : HasUnless (e.npcs = []) entries "npcs" (fmt.IsList (NpcEntry.SpelledBy fmt) e.npcs)

def RoomEntry.SpelledBy (e : RoomEntry) : V → Prop :=
  fmt.IsTable (e.Fields fmt)

structure FloorEntry.Fields (e : FloorEntry) (entries : List (String × V)) : Prop where
  name : Has entries "name" (fmt.IsText e.name)
  rooms : HasUnless (e.rooms = []) entries "rooms" (fmt.IsList (RoomEntry.SpelledBy fmt) e.rooms)

def FloorEntry.SpelledBy (e : FloorEntry) : V → Prop :=
  fmt.IsTable (e.Fields fmt)

structure DungeonEntry.Fields (e : DungeonEntry) (entries : List (String × V)) : Prop where
  name : Has entries "name" (fmt.IsText e.name)
  theme : HasUnless (e.theme = "") entries "theme" (fmt.IsText e.theme)
  level : Has entries "level" (fmt.IsInteger e.level.toNat)
  floors : HasUnless (e.floors = []) entries "floors"
    (fmt.IsList (FloorEntry.SpelledBy fmt) e.floors)

def DungeonEntry.SpelledBy (e : DungeonEntry) : V → Prop :=
  fmt.IsTable (e.Fields fmt)

/-- The table of a whole manifest has no other entries than the dungeon. -/
def Manifest.SpelledBy (m : Manifest) (v : V) : Prop :=
  ∃ w, fmt.shape v = .table [("dungeon", w)] ∧ m.dungeon.SpelledBy fmt w

/-- A tree that spells some manifest of the dungeon. -/
def Dungeon.SpelledBy (d : Dungeon) (v : V) : Prop :=
  ∃ m : Manifest, m.Describes d ∧ m.SpelledBy fmt v

section Read

variable {fmt} (faithful : fmt.Faithful)

include faithful

theorem TrapEntry.read_of_spelledBy (e : TrapEntry) (v : V) (spelled : e.SpelledBy fmt v) :
    TrapEntry.read fmt v = .ok e := by
  obtain ⟨entries, table, distinct, fields⟩ := spelled
  have name := fmt.slot_of_has ⟨"TrapEntry", 4⟩ 0 distinct fields.name (faithful.text e.name)
  have trigger := fmt.slot_of_has ⟨"TrapEntry", 4⟩ 1 distinct fields.trigger
    (faithful.text e.trigger)
  have disarmable := fmt.slot_of_hasUnless ⟨"TrapEntry", 4⟩ 2 distinct fields.disarmable
    (faithful.flag e.disarmable) Eq.symm
  have chance := fmt.slot_of_has ⟨"TrapEntry", 4⟩ 3 distinct fields.triggerChance
    (faithful.signed32 e.triggerChance)
  refine bind_eq_ok_iff.2 ⟨_, Format.record_of_table table, ?_⟩
  refine bind_eq_ok_iff.2 ⟨(), Record.settle_eq_ok ?_, ?_⟩
  · simp only [List.forall_mem_cons]
    exact ⟨name.1, trigger.1, disarmable.1, chance.1, List.forall_mem_nil _⟩
  refine bind_eq_ok_iff.2 ⟨_, name.2, bind_eq_ok_iff.2 ⟨_, trigger.2, ?_⟩⟩
  exact bind_eq_ok_iff.2 ⟨_, disarmable.2, bind_eq_ok_iff.2 ⟨_, chance.2, rfl⟩⟩

theorem NpcEntry.read_of_spelledBy (e : NpcEntry) (v : V) (spelled : e.SpelledBy fmt v) :
    NpcEntry.read fmt v = .ok e := by
  obtain ⟨entries, table, distinct, fields⟩ := spelled
  have name := fmt.slot_of_has ⟨"NpcEntry", 4⟩ 0 distinct fields.name (faithful.text e.name)
  have behaviour := fmt.slot_of_has ⟨"NpcEntry", 4⟩ 1 distinct fields.behaviour
    (faithful.text e.behaviour)
  have kind := fmt.slot_of_has ⟨"NpcEntry", 4⟩ 2 distinct fields.kind (faithful.text e.kind)
  have health := fmt.slot_of_has ⟨"NpcEntry", 4⟩ 3 distinct fields.health
    (faithful.signed32 e.health)
  refine bind_eq_ok_iff.2 ⟨_, Format.record_of_table table, ?_⟩
  refine bind_eq_ok_iff.2 ⟨(), Record.settle_eq_ok ?_, ?_⟩
  · simp only [List.forall_mem_cons]
    exact ⟨name.1, behaviour.1, kind.1, health.1, List.forall_mem_nil _⟩
  refine bind_eq_ok_iff.2 ⟨_, name.2, bind_eq_ok_iff.2 ⟨_, behaviour.2, ?_⟩⟩
  exact bind_eq_ok_iff.2 ⟨_, kind.2, bind_eq_ok_iff.2 ⟨_, health.2, rfl⟩⟩

theorem RoomEntry.read_of_spelledBy (e : RoomEntry) (v : V) (spelled : e.SpelledBy fmt v) :
    RoomEntry.read fmt v = .ok e := by
  obtain ⟨entries, table, distinct, fields⟩ := spelled
  have floor : ∀ v, (∃ floor, e.floorId = some floor ∧ fmt.IsText floor v) →
      fmt.optional fmt.text v = .ok e.floorId := by
    rintro v ⟨floor, given, text⟩
    rw [given, faithful.optional_text text]
  have name := fmt.slot_of_has ⟨"RoomEntry", 7⟩ 0 distinct fields.name (faithful.text e.name)
  have size := fmt.slot_of_has ⟨"RoomEntry", 7⟩ 1 distinct fields.size (faithful.text e.size)
  have kind := fmt.slot_of_has ⟨"RoomEntry", 7⟩ 2 distinct fields.kind (faithful.text e.kind)
  have floorId := fmt.slot_of_hasUnless ⟨"RoomEntry", 7⟩ 3 distinct fields.floorId floor Eq.symm
  have connections := fmt.slot_of_hasUnless ⟨"RoomEntry", 7⟩ 4 distinct fields.connections
    (fun _ => Format.list_of_isList faithful.text) Eq.symm
  have traps := fmt.slot_of_hasUnless ⟨"RoomEntry", 7⟩ 5 distinct fields.traps
    (fun _ => Format.list_of_isList (TrapEntry.read_of_spelledBy faithful)) Eq.symm
  have npcs := fmt.slot_of_hasUnless ⟨"RoomEntry", 7⟩ 6 distinct fields.npcs
    (fun _ => Format.list_of_isList (NpcEntry.read_of_spelledBy faithful)) Eq.symm
  refine bind_eq_ok_iff.2 ⟨_, Format.record_of_table table, ?_⟩
  refine bind_eq_ok_iff.2 ⟨(), Record.settle_eq_ok ?_, ?_⟩
  · simp only [List.forall_mem_cons]
    exact ⟨name.1, size.1, kind.1, floorId.1, connections.1, traps.1, npcs.1, List.forall_mem_nil _⟩
  refine bind_eq_ok_iff.2 ⟨_, name.2, bind_eq_ok_iff.2 ⟨_, size.2, ?_⟩⟩
  refine bind_eq_ok_iff.2 ⟨_, kind.2, bind_eq_ok_iff.2 ⟨_, floorId.2, ?_⟩⟩
  refine bind_eq_ok_iff.2 ⟨_, connections.2, bind_eq_ok_iff.2 ⟨_, traps.2, ?_⟩⟩
  exact bind_eq_ok_iff.2 ⟨_, npcs.2, rfl⟩

theorem FloorEntry.read_of_spelledBy (e : FloorEntry) (v : V) (spelled : e.SpelledBy fmt v) :
    FloorEntry.read fmt v = .ok e := by
  obtain ⟨entries, table, distinct, fields⟩ := spelled
  have name := fmt.slot_of_has ⟨"FloorEntry", 2⟩ 0 distinct fields.name (faithful.text e.name)
  have rooms := fmt.slot_of_hasUnless ⟨"FloorEntry", 2⟩ 1 distinct fields.rooms
    (fun _ => Format.list_of_isList (RoomEntry.read_of_spelledBy faithful)) Eq.symm
  refine bind_eq_ok_iff.2 ⟨_, Format.record_of_table table, ?_⟩
  refine bind_eq_ok_iff.2 ⟨(), Record.settle_eq_ok ?_, ?_⟩
  · simp only [List.forall_mem_cons]
    exact ⟨name.1, rooms.1, List.forall_mem_nil _⟩
  exact bind_eq_ok_iff.2 ⟨_, name.2, bind_eq_ok_iff.2 ⟨_, rooms.2, rfl⟩⟩

theorem DungeonEntry.read_of_spelledBy (e : DungeonEntry) (v : V) (spelled : e.SpelledBy fmt v) :
    DungeonEntry.read fmt v = .ok e := by
  obtain ⟨entries, table, distinct, fields⟩ := spelled
  have name := fmt.slot_of_has ⟨"DungeonEntry", 4⟩ 0 distinct fields.name (faithful.text e.name)
  have theme := fmt.slot_of_hasUnless ⟨"DungeonEntry", 4⟩ 1 distinct fields.theme
    (faithful.text e.theme) Eq.symm
  have level := fmt.slot_of_has ⟨"DungeonEntry", 4⟩ 2 distinct fields.level
    (faithful.unsigned32 e.level)
  have floors := fmt.slot_of_hasUnless ⟨"DungeonEntry", 4⟩ 3 distinct fields.floors
    (fun _ => Format.list_of_isList (FloorEntry.read_of_spelledBy faithful)) Eq.symm
  refine bind_eq_ok_iff.2 ⟨_, Format.record_of_table table, ?_⟩
  refine bind_eq_ok_iff.2 ⟨(), Record.settle_eq_ok ?_, ?_⟩
  · simp only [List.forall_mem_cons]
    exact ⟨name.1, theme.1, level.1, floors.1, List.forall_mem_nil _⟩
  refine bind_eq_ok_iff.2 ⟨_, name.2, bind_eq_ok_iff.2 ⟨_, theme.2, ?_⟩⟩
  exact bind_eq_ok_iff.2 ⟨_, level.2, bind_eq_ok_iff.2 ⟨_, floors.2, rfl⟩⟩

theorem Manifest.read_of_spelledBy (m : Manifest) (v : V) (spelled : m.SpelledBy fmt v) :
    Manifest.read fmt v = .ok m := by
  obtain ⟨w, table, spelled⟩ := spelled
  have has : Has [("dungeon", w)] "dungeon" (m.dungeon.SpelledBy fmt) :=
    ⟨w, List.mem_cons_self, spelled⟩
  have distinct : ([("dungeon", w)].map Prod.fst).Nodup := List.nodup_singleton _
  have dungeon := fmt.slot_of_has ⟨"Manifest", 1⟩ 0 distinct has
    (DungeonEntry.read_of_spelledBy faithful m.dungeon)
  refine bind_eq_ok_iff.2 ⟨_, Format.record_of_table table, ?_⟩
  refine bind_eq_ok_iff.2 ⟨(), Record.settle_eq_ok (List.forall_mem_singleton.2 dungeon.1), ?_⟩
  exact bind_eq_ok_iff.2 ⟨_, dungeon.2, rfl⟩

theorem Dungeon.exists_manifest_of_spelledBy {d : Dungeon} (named : d.WellNamed) {v : V}
    (spelled : d.SpelledBy fmt v) : ∃ m, Manifest.read fmt v = .ok m ∧ m.build = .ok d := by
  obtain ⟨m, same, spelled⟩ := spelled
  exact ⟨m, m.read_of_spelledBy faithful v spelled, same.build named⟩

end Read

theorem Json.strict_faithful : Json.strict.Faithful where
  text s v text := by
    have shape : v.shape = .other (.text s) := text
    cases v with
    | string _ =>
      cases shape
      rfl
    | integer _ =>
      simp only [Json.Value.shape] at shape
      split at shape <;> cases shape
    | _ => cases shape
  flag b v flag := by
    have shape : v.shape = .other (.boolean b) := flag
    cases v with
    | boolean _ =>
      cases shape
      rfl
    | integer _ =>
      simp only [Json.Value.shape] at shape
      split at shape <;> cases shape
    | _ => cases shape
  unsigned32 n v integer := by
    have found : v.found = .integer n.toNat := congrArg Shape.found integer
    have inRange : 0 ≤ (n.toNat : Int) ∧ (n.toNat : Int) < UInt32.size :=
      ⟨Int.natCast_nonneg _, Int.ofNat_lt.2 n.toNat_lt⟩
    change v.asUnsigned32 = .ok n
    simp only [Json.Value.asUnsigned32, found, if_pos inRange, Int.toNat_natCast, UInt32.ofNat_toNat]
  signed32 n v integer := by
    have found : v.found = .integer n.toInt := congrArg Shape.found integer
    have inRange := And.intro n.minValue_le_toInt n.toInt_le
    change v.asSigned32 = .ok n
    simp only [Json.Value.asSigned32, found, if_pos inRange, Int32.ofInt_toInt]

theorem Config.Node.exists_scalar_of_shape {n : Config.Node} {f : Found}
    (shape : n.shape = .other f) : ∃ origin s, n = .scalar origin s ∧ s.found = f := by
  cases n with
  | scalar origin s =>
    cases shape
    exact ⟨origin, s, rfl, rfl⟩
  | list _ _ => cases shape
  | table _ _ => cases shape

theorem Config.lenient_faithful : Config.lenient.Faithful where
  text s v text := by
    obtain ⟨origin, scalar, rfl, found⟩ := Config.Node.exists_scalar_of_shape text
    cases scalar <;> cases found
    rfl
  flag b v flag := by
    obtain ⟨origin, scalar, rfl, found⟩ := Config.Node.exists_scalar_of_shape flag
    cases scalar <;> cases found
    rfl
  unsigned32 n v integer := by
    obtain ⟨origin, scalar, rfl, found⟩ := Config.Node.exists_scalar_of_shape integer
    cases scalar <;> cases found
    have natural : (Config.Node.scalar origin (.integer n.toNat)).asNatural = .ok n.toNat := by
      simp [Config.Node.asNatural]
    refine bind_eq_ok_iff.2 ⟨_, natural, ?_⟩
    rw [if_pos n.toNat_lt, UInt32.ofNat_toNat]
    rfl
  signed32 n v integer := by
    obtain ⟨origin, scalar, rfl, found⟩ := Config.Node.exists_scalar_of_shape integer
    cases scalar <;> cases found
    refine bind_eq_ok_iff.2 ⟨n.toInt, rfl, ?_⟩
    rw [if_pos ⟨n.minValue_le_toInt, n.toInt_le⟩, Int32.ofInt_toInt]
    rfl

section Sources

open Config

theorem DungeonEntry.SpelledBy.overlay {e : DungeonEntry} {n : Node}
    (spelled : e.SpelledBy lenient n) : e.SpelledBy lenient (n.overlay .nothing) := by
  obtain ⟨entries, table, distinct, fields⟩ := spelled
  obtain ⟨origin, rfl⟩ : ∃ origin, n = .table origin entries := by
    cases n with
    | table origin _ =>
      cases table
      exact ⟨origin, rfl⟩
    | _ => cases table
  have scalar {f : Found} (v : Node) (is : v.shape = .other f) :
      (v.overlay .nothing).shape = .other f := by
    rwa [Node.overlay_of_no_table is nofun]
  have list (v : Node) (is : lenient.IsList (FloorEntry.SpelledBy lenient) e.floors v) :
      lenient.IsList (FloorEntry.SpelledBy lenient) e.floors (v.overlay .nothing) := by
    obtain ⟨items, shape, -⟩ := id is
    rwa [Node.overlay_of_no_table shape nofun]
  rw [Node.overlay_table distinct]
  refine ⟨_, rfl, by rwa [map_fst_map_change], ?_⟩
  exact {
    name := fields.name.map scalar
    theme := fields.theme.map scalar
    level := fields.level.map scalar
    floors := fields.floors.map list }

theorem Dungeon.SpelledBy.ofSources {d : Dungeon} {origin : Option String}
    {es : List (String × Node)} (spelled : d.SpelledBy lenient (.table origin es)) :
    d.SpelledBy lenient (.ofSources [es]) := by
  obtain ⟨m, same, w, table, spelled⟩ := spelled
  cases table
  rw [Node.ofSources_singleton (by decide)]
  exact ⟨m, same, _, rfl, spelled.overlay⟩

end Sources

/-- Every manifest tree of a well-named dungeon is read and built into this dungeon: from strict
JSON, and from a configuration tree as it is, laid over an empty one, or coming from a file. -/
theorem Dungeon.build_spelled (d : Dungeon) (named : d.WellNamed) :
    (∀ v, d.SpelledBy Json.strict v → ∃ m, Manifest.ofJson v = .ok m ∧ m.build = .ok d) ∧
    ∀ origin es, d.SpelledBy Config.lenient (.table origin es) →
      (∃ m, Manifest.read Config.lenient (.table origin es) = .ok m ∧ m.build = .ok d) ∧
      (∃ m, Manifest.read Config.lenient (.ofSources [es]) = .ok m ∧ m.build = .ok d) ∧
      ∀ f : Config.SourceFile, f.entries = .ok es →
        ∃ m, Manifest.ofFile f = .ok m ∧ m.build = .ok d := by
  refine ⟨fun v => exists_manifest_of_spelledBy Json.strict_faithful named, ?_⟩
  intro origin es spelled
  have merged := exists_manifest_of_spelledBy Config.lenient_faithful named spelled.ofSources
  refine ⟨exists_manifest_of_spelledBy Config.lenient_faithful named spelled, merged, ?_⟩
  intro f entries
  obtain ⟨m, read, built⟩ := merged
  exact ⟨m, bind_eq_ok_iff.2 ⟨es, entries, mapError_eq_ok_iff.2 read⟩, built⟩

def shopKeep : Dungeon :=
  ⟨"K", "", 3, [⟨"F", [⟨"R", .large, .shop, "F", [],
    [⟨"T", .stepOn, false, -5⟩, ⟨"U", .openDoor, false, -5⟩], []⟩]⟩]⟩

def shopManifest : Manifest :=
  ⟨⟨"K", "", 3, [⟨"F", [⟨"R", "LARGE", "SHOP", none, [],
    [⟨"T", "STEP_ON", false, -5⟩, ⟨"U", "openDoor", false, -5⟩], []⟩]⟩]⟩⟩

section Shop

variable (text : String → V) (integer : Int → V) (list : List V → V)
  (table : List (String × V) → V)

def shopTrap (name trigger : String) : V :=
  table [("trigger", text trigger), ("name", text name), ("trigger_chance", integer (-5))]

def shopRoom : V :=
  table [("type", text "SHOP"), ("size", text "LARGE"), ("name", text "R"),
    ("traps", list [shopTrap text integer table "T" "STEP_ON",
      shopTrap text integer table "U" "openDoor"])]

def shopTree : List (String × V) :=
  [("dungeon", table [("level", integer 3), ("dim", list []), ("name", text "K"),
    ("floors", list [table [("name", text "F"),
      ("rooms", list [shopRoom text integer list table])]])])]

variable {text integer list table}

theorem shopKeep_spelledBy (texts : ∀ s, fmt.IsText s (text s)) (level : fmt.IsInteger 3 (integer 3))
    (chance : fmt.IsInteger (-5) (integer (-5))) (lists : ∀ vs, fmt.shape (list vs) = .list vs)
    (tables : ∀ es, fmt.shape (table es) = .table es) :
    shopKeep.SpelledBy fmt (table (shopTree text integer list table)) := by
  have trap : ∀ name trigger, TrapEntry.SpelledBy fmt ⟨name, trigger, false, -5⟩
      (shopTrap text integer table name trigger) := fun name trigger =>
    ⟨_, tables _, by simp, {
      name := ⟨text name, by simp, texts name⟩
      trigger := ⟨text trigger, by simp, texts trigger⟩
      disarmable := .inr ⟨rfl, by simp⟩
      triggerChance := ⟨integer (-5), by simp, chance⟩ }⟩
  have room : RoomEntry.SpelledBy fmt
      ⟨"R", "LARGE", "SHOP", none, [],
        [⟨"T", "STEP_ON", false, -5⟩, ⟨"U", "openDoor", false, -5⟩], []⟩
      (shopRoom text integer list table) :=
    ⟨_, tables _, by simp, {
      name := ⟨text "R", by simp, texts "R"⟩
      size := ⟨text "LARGE", by simp, texts "LARGE"⟩
      kind := ⟨text "SHOP", by simp, texts "SHOP"⟩
      floorId := .inr ⟨rfl, by simp⟩
      connections := .inr ⟨rfl, by simp⟩
      traps := .inl ⟨list _, by simp, _, lists _, .cons (trap _ _) (.cons (trap _ _) .nil)⟩
      npcs := .inr ⟨rfl, by simp⟩ }⟩
  have floor : FloorEntry.SpelledBy fmt
      ⟨"F", [⟨"R", "LARGE", "SHOP", none, [],
        [⟨"T", "STEP_ON", false, -5⟩, ⟨"U", "openDoor", false, -5⟩], []⟩]⟩
      (table [("name", text "F"), ("rooms", list [shopRoom text integer list table])]) :=
    ⟨_, tables _, by simp, {
      name := ⟨text "F", by simp, texts "F"⟩
      rooms := .inl ⟨list _, by simp, _, lists _, .cons room .nil⟩ }⟩
  have same : shopManifest.Describes shopKeep := by
    refine ⟨rfl, rfl, rfl, .cons ⟨rfl, .cons ?_ .nil⟩ .nil⟩
    exact ⟨rfl, rfl, rfl, rfl, rfl,
      .cons ⟨rfl, .inr rfl, rfl, rfl⟩ (.cons ⟨rfl, .inl rfl, rfl, rfl⟩ .nil), .nil⟩
  refine ⟨shopManifest, same, _, tables _, _, tables _, by simp, ?_⟩
  exact {
    name := ⟨text "K", by simp, texts "K"⟩
    theme := .inr ⟨rfl, by simp⟩
    level := ⟨integer 3, by simp, level⟩
    floors := .inl ⟨list _, by simp, _, lists _, .cons floor .nil⟩ }

end Shop

def shopJson : Json.Value :=
  .object (shopTree .string .integer .array .object)

def shopFile : Config.SourceFile where
  name := "m"
  text := "dungeon=\x7blevel=3,dim=[],name='K',floors=[\x7bname='F',rooms=[\x7btype='SHOP',"
    ++ "size='LARGE',name='R',traps=[\x7btrigger='STEP_ON',name='T',trigger_chance=-5\x7d,"
    ++ "\x7btrigger='openDoor',name='U',trigger_chance=-5\x7d]\x7d]\x7d]\x7d"

def shopEntries : List (String × Config.Node) :=
  shopTree (fun s => .scalar (some "m") (.text s)) (fun n => .scalar (some "m") (.integer n))
    (.list (some "m")) (.table (some "m"))

theorem Dungeon.build_spelled_shopKeep :
    shopKeep.WellNamed ∧
    (∃ m, Manifest.ofJson shopJson = .ok m ∧ m.build = .ok shopKeep) ∧
    (∃ m, Manifest.read Config.lenient (.table (some "m") shopEntries) = .ok m ∧
      m.build = .ok shopKeep) ∧
    (∃ m, Manifest.read Config.lenient (.ofSources [shopEntries]) = .ok m ∧
      m.build = .ok shopKeep) ∧
    ∃ m, Manifest.ofFile shopFile = .ok m ∧ m.build = .ok shopKeep := by
  have named : shopKeep.WellNamed := ⟨by decide, by decide, by decide, by decide⟩
  have json : shopKeep.SpelledBy Json.strict shopJson :=
    shopKeep_spelledBy Json.strict (fun _ => rfl) rfl rfl (fun _ => rfl) fun _ => rfl
  have node : shopKeep.SpelledBy Config.lenient (.table (some "m") shopEntries) :=
    shopKeep_spelledBy Config.lenient (fun _ => rfl) rfl rfl (fun _ => rfl) fun _ => rfl
  have file : shopFile.entries = .ok shopEntries := by cbv
  obtain ⟨strict, lenient⟩ := shopKeep.build_spelled named
  obtain ⟨asIs, merged, loaded⟩ := lenient (some "m") shopEntries node
  exact ⟨named, strict shopJson json, asIs, merged, loaded shopFile file⟩

end DungeonForge
