import DungeonForge.Proofs.Manifest.Build

/-!
What is wrong with a manifest, listed entry by entry: blank names, level zero and texts that are no
tags. Building stops at the first defect of the list and succeeds if there is none. Both facts are
carried from an entry to the entries around it by one relation, since steps done one after the
other have the defects of the first before those of the second.
-/

namespace DungeonForge

inductive Defect
  | blankDungeon
  | levelZero
  | blankFloor
  | blankRoom (floor : String)
  | unknownTag (room : String) (kind : TagKind) (text : String)
deriving DecidableEq, Repr

namespace Defect

def error : Defect → BuildError
  | .blankDungeon => .refused (.blankName .dungeon)
  | .levelZero => .refused .levelZero
  | .blankFloor => .refused (.blankName .floor)
  | .blankRoom floor => .refusedOnFloor floor (.blankName .room)
  | .unknownTag room kind text => .unknownTag room kind text

def report : Defect → List String
  | .blankDungeon => ["invalid dungeon name: name must not be empty"]
  | .levelZero => ["invalid dungeon level: must be at least 1, got 0"]
  | .blankFloor => ["invalid floor name: name must not be empty"]
  | .blankRoom floor =>
    ["on floor '" ++ floor ++ "'", "invalid room name: name must not be empty"]
  | .unknownTag room kind text =>
    ["room '" ++ room ++ "': unknown " ++ kind.words ++ " '" ++ text ++ "'"]

theorem chain_error (defect : Defect) : defect.error.chain = defect.report := by
  cases defect <;> rfl

end Defect

def TagKind.accepted : TagKind → List String
  | .size => ["LARGE", "MEDIUM", "SMALL"]
  | .roomKind => ["COMBAT", "TREASURE", "BOSS", "PUZZLE", "SHOP"]
  | .trigger => ["stepOn", "STEP_ON", "openDoor", "OPEN_DOOR"]
  | .behaviour => ["AGGRESSIVE", "NEUTRAL"]
  | .npcKind => ["MERCHANT", "ENEMY", "NORMAL"]

def tagDefects (room : String) (kind : TagKind) (text : String) : List Defect :=
  if text ∈ kind.accepted then [] else [.unknownTag room kind text]

def nameDefects (name : String) (blank : Defect) : List Defect :=
  if Text.isBlank name then [blank] else []

def TrapEntry.defects (room : String) (e : TrapEntry) : List Defect :=
  tagDefects room .trigger e.trigger

def NpcEntry.defects (room : String) (e : NpcEntry) : List Defect :=
  tagDefects room .behaviour e.behaviour ++ tagDefects room .npcKind e.kind

def RoomEntry.defects (floor : String) (e : RoomEntry) : List Defect :=
  tagDefects e.name .size e.size ++ tagDefects e.name .roomKind e.kind ++
    nameDefects e.name (.blankRoom floor) ++ e.traps.flatMap (TrapEntry.defects e.name) ++
    e.npcs.flatMap (NpcEntry.defects e.name)

def FloorEntry.defects (e : FloorEntry) : List Defect :=
  nameDefects e.name .blankFloor ++ e.rooms.flatMap (RoomEntry.defects e.name)

/-- All defects of a manifest, floors and rooms in order. -/
def Manifest.defects (m : Manifest) : List Defect :=
  nameDefects m.dungeon.name .blankDungeon ++ (if m.dungeon.level = 0 then [.levelZero] else []) ++
    m.dungeon.floors.flatMap FloorEntry.defects

/-- A building stops at the first of the defects, and succeeds if there are none. -/
def FailsFirst {α : Type} (x : Except BuildError α) : List Defect → Prop
  | [] => ∃ a, x = .ok a
  | defect :: _ => x = .error defect.error

namespace FailsFirst

variable {α β : Type}

theorem bind {x : Except BuildError α} {f : α → Except BuildError β} {early late : List Defect}
    (first : FailsFirst x early) (next : ∀ a, x = .ok a → FailsFirst (f a) late) :
    FailsFirst (x >>= f) (early ++ late) := by
  cases early with
  | nil =>
    obtain ⟨a, done⟩ := first
    have rest := next a done
    rwa [done]
  | cons defect _ =>
    have failed : x = .error defect.error := first
    rw [failed]
    rfl

theorem bind_ok {x : Except BuildError α} {f : α → β} {defects : List Defect}
    (first : FailsFirst x defects) : FailsFirst (x >>= fun a => .ok (f a)) defects := by
  rw [← List.append_nil defects]
  exact first.bind fun a _ => ⟨f a, rfl⟩

theorem mapM {f : α → Except BuildError β} {g : α → List Defect}
    (each : ∀ a, FailsFirst (f a) (g a)) (as : List α) : FailsFirst (as.mapM f) (as.flatMap g) := by
  induction as with
  | nil => exact ⟨[], rfl⟩
  | cons a as ih =>
    rw [List.mapM_cons, List.flatMap_cons]
    exact (each a).bind fun b _ => ih.bind_ok

end FailsFirst

theorem failsFirst_readTag {α : Type} [Tagged α] {kind : TagKind}
    (table : (Tagged.variants : List α).flatMap Tagged.spellings = kind.accepted)
    (room text : String) :
    FailsFirst (readTag room kind text : Except BuildError α) (tagDefects room kind text) := by
  have spelled : text ∈ kind.accepted ↔ (Tagged.ofText? text : Option α).isSome := by
    rw [← table, List.mem_flatMap, Tagged.ofText?, List.find?_isSome]
    simp only [List.contains_iff_mem]
  unfold tagDefects readTag
  cases found : (Tagged.ofText? text : Option α) with
  | some a =>
    rw [if_pos (spelled.2 (by rw [found]; rfl))]
    exact ⟨a, rfl⟩
  | none =>
    rw [if_neg fun accepted => by simpa [found] using spelled.1 accepted]
    rfl

theorem failsFirst_freshRoom (name floor floorId : String) (size : Size) (kind : RoomKind)
    (connections : List String) :
    FailsFirst ((Room.fresh name size kind floorId connections).mapError (.refusedOnFloor floor))
      (nameDefects name (.blankRoom floor)) := by
  unfold nameDefects Room.fresh requireName
  split
  · rfl
  · exact ⟨_, rfl⟩

theorem failsFirst_freshFloor (name : String) :
    FailsFirst ((Floor.fresh name).mapError .refused) (nameDefects name .blankFloor) := by
  unfold nameDefects Floor.fresh requireName
  split
  · rfl
  · exact ⟨_, rfl⟩

theorem failsFirst_freshDungeon (name theme : String) (level : UInt32) :
    FailsFirst ((Dungeon.fresh name theme level).mapError .refused)
      (nameDefects name .blankDungeon ++ if level = 0 then [.levelZero] else []) := by
  unfold nameDefects Dungeon.fresh requireName
  split
  · rfl
  · by_cases zero : level = 0
    · simp only [if_pos zero]
      rfl
    · simp only [if_neg zero]
      exact ⟨_, rfl⟩

theorem TrapEntry.failsFirst_build (room : String) (e : TrapEntry) :
    FailsFirst (e.build room) (e.defects room) :=
  (failsFirst_readTag rfl room e.trigger).bind_ok

theorem NpcEntry.failsFirst_build (room : String) (e : NpcEntry) :
    FailsFirst (e.build room) (e.defects room) :=
  (failsFirst_readTag rfl room e.behaviour).bind fun _ _ =>
    (failsFirst_readTag rfl room e.kind).bind_ok

theorem RoomEntry.failsFirst_build (floor : String) (e : RoomEntry) :
    FailsFirst (e.build floor) (e.defects floor) := by
  simp only [RoomEntry.defects, List.append_assoc]
  refine (failsFirst_readTag rfl e.name e.size).bind fun size _ => ?_
  refine (failsFirst_readTag rfl e.name e.kind).bind fun kind _ => ?_
  refine (failsFirst_freshRoom e.name floor _ size kind e.connections).bind fun room _ => ?_
  refine (FailsFirst.mapM (TrapEntry.failsFirst_build e.name) e.traps).bind fun traps _ => ?_
  exact (FailsFirst.mapM (NpcEntry.failsFirst_build e.name) e.npcs).bind_ok

theorem FloorEntry.failsFirst_build (e : FloorEntry) : FailsFirst e.build e.defects :=
  (failsFirst_freshFloor e.name).bind fun _ _ =>
    (FailsFirst.mapM (RoomEntry.failsFirst_build e.name) e.rooms).bind_ok

theorem Manifest.failsFirst_build (m : Manifest) : FailsFirst m.build m.defects :=
  (failsFirst_freshDungeon m.dungeon.name m.dungeon.theme m.dungeon.level).bind fun _ _ =>
    (FailsFirst.mapM FloorEntry.failsFirst_build m.dungeon.floors).bind_ok

/-- A manifest without defects is built into a dungeon that has its nodes one for one; of a manifest
with defects the first one is reported. -/
theorem Manifest.build_eq_first_defect (m : Manifest) :
    ((∃ d, m.build = .ok d) ↔ m.defects = []) ∧
    (∀ d, m.build = .ok d → m.Describes d) ∧
    ∀ defect later, m.defects = defect :: later →
      m.build = .error defect.error ∧ defect.error.chain = defect.report := by
  have building := m.failsFirst_build
  refine ⟨?_, fun d built => (describes_of_build built).1, ?_⟩
  · cases listed : m.defects with
    | nil =>
      rw [listed] at building
      exact iff_of_true building rfl
    | cons defect later =>
      rw [listed] at building
      have failed : m.build = .error defect.error := building
      rw [failed]
      exact iff_of_false (by rintro ⟨d, built⟩; cases built) (List.cons_ne_nil _ _)
  · intro defect later listed
    rw [listed] at building
    exact ⟨building, defect.chain_error⟩

def namelessManifest : Manifest :=
  ⟨⟨"K", "", 1, [⟨"F", [⟨" ", "large", "SHOP", none, [], [⟨"T", "step_on", false, 5⟩], []⟩]⟩,
    ⟨"", []⟩]⟩⟩

def plainManifest : Manifest :=
  ⟨⟨"K", "", 1, [⟨"F", [⟨"R", "LARGE", "SHOP", none, ["R"], [⟨"T", "STEP_ON", false, 5⟩], []⟩]⟩]⟩⟩

theorem Manifest.build_eq_first_defect_manifests :
    (namelessManifest.build = .error (.unknownTag " " .size "large") ∧
      (Defect.unknownTag " " .size "large").error.chain = ["room ' ': unknown size 'large'"]) ∧
    ∃ d, plainManifest.build = .ok d ∧ plainManifest.Describes d := by
  have listed : namelessManifest.defects = [.unknownTag " " .size "large", .blankRoom "F",
      .unknownTag " " .trigger "step_on", .blankFloor] := by decide
  have stopped := (build_eq_first_defect namelessManifest).2.2 _ _ listed
  obtain ⟨succeeds, describes, -⟩ := build_eq_first_defect plainManifest
  obtain ⟨d, built⟩ := succeeds.2 (by decide)
  exact ⟨⟨stopped.1, stopped.2⟩, d, built, describes d built⟩

end DungeonForge
