import DungeonForge.Proofs.Document.Decode
import DungeonForge.Proofs.Document.Violation
import DungeonForge.Proofs.Manifest.Build
import DungeonForge.Proofs.Run.Ending
import DungeonForge.Proofs.Run.Settings
import Mathlib

/-!
A run that succeeds has written a document that can be trusted: what is read back from it is a
consistent dungeon, and it is the dungeon of the manifest.
-/

namespace DungeonForge

def Text.Visible (s : String) : Prop :=
  ∃ c ∈ s.toList, Text.isWhiteSpace c = false

structure Dungeon.Consistent (d : Dungeon) : Prop where
  level : 1 ≤ d.level.toNat
  name : Text.Visible d.name
  floors : ∀ f ∈ d.floors, Text.Visible f.name
  rooms : ∀ r ∈ d.allRooms, Text.Visible r.name
  connections : ∀ r ∈ d.allRooms, ∀ target ∈ r.connections, ∃ q ∈ d.allRooms, q.name = target
  chances : ∀ r ∈ d.allRooms, ∀ t ∈ r.traps,
    0 ≤ t.triggerChance.toInt ∧ t.triggerChance.toInt ≤ 100
  health : ∀ r ∈ d.allRooms, ∀ n ∈ r.npcs, 0 ≤ n.health.toInt

theorem Dungeon.consistent_of_valid {d : Dungeon} (named : d.WellNamed)
    (valid : d.firstViolation? = none) : d.Consistent := by
  have sound := firstViolation?_eq_none_iff.1 valid
  have positive : d.level.toNat ≠ 0 := fun zero => named.level (UInt32.toNat_inj.1 zero)
  exact {
    level := by omega
    name := Text.isBlank_eq_false_iff.1 named.name
    floors := fun f floor => Text.isBlank_eq_false_iff.1 (named.floors f floor)
    rooms := by
      intro r room
      obtain ⟨f, floor, inFloor⟩ := List.mem_flatMap.1 room
      exact Text.isBlank_eq_false_iff.1 (named.rooms f floor r inFloor)
    connections := fun r room target linked =>
      List.mem_map.1 ((sound r room).connections target linked)
    chances := fun r room => (sound r room).chances
    health := fun r room => (sound r room).health }

theorem Dungeon.Consistent.wellNamed {d : Dungeon} (consistent : d.Consistent) : d.WellNamed where
  name := Text.isBlank_eq_false_iff.2 consistent.name
  level := by
    intro zero
    have positive := consistent.level
    rw [zero] at positive
    exact absurd positive (by decide)
  floors := fun f floor => Text.isBlank_eq_false_iff.2 (consistent.floors f floor)
  rooms := fun f floor r room => Text.isBlank_eq_false_iff.2
    (consistent.rooms r (List.mem_flatMap_of_mem floor room))

namespace World

/-- The last write has put the text into the file of the path. -/
structure Wrote (w : World) (path text : String) : Prop where
  written : ∃ (before : Files) (l : Location), w.disk.target before path = .ok l ∧
    w.disk.tree = before.put l text
  readBack : w.disk.ReadsBack → w.disk.read? path = some text

/-- Where the text of a run's document stands: in the output file, or else on the console. -/
def Shows (w : World) : Option String → String → Prop
  | none, text => w.shown.received = Text.bytes text
  | some path, text => w.Wrote path text

theorem shows_of_ends {disk : Disk} {a : Arguments} {environment : Environment} {console : Console}
    {after : Scene} (ends : disk.Ends a environment console (.ok ()) after)
    (logged : List LogRecord) :
    after.disk = { disk with tree := after.disk.tree } ∧
      ∃ s d text, disk.Ready a environment s d text ∧ Shows (after.world logged) s.output text := by
  cases ends with
  | @printed s d text shown ready output wrote =>
    refine ⟨disk.reported_eq_tree a environment, s, d, text, ready, ?_⟩
    rw [output]
    exact (Dungeon.received_of_writeTo ready.document wrote).2 rfl
  | @filed s d text path l ready output leads =>
    refine ⟨rfl, s, d, text, ready, ?_⟩
    rw [output]
    exact ⟨⟨_, l, leads, rfl⟩, fun plain => plain.read? leads rfl⟩

theorem exists_manifest_of_dungeon {disk : Disk} {path : String} {d : Dungeon}
    (loaded : disk.dungeon path = .ok d) :
    ∃ m, disk.manifest path = .ok m ∧ m.build = .ok d := by
  obtain ⟨m, read, built⟩ := bind_eq_ok_iff.1 loaded
  exact ⟨m, read, mapError_eq_ok_iff.1 built⟩

/-- What a successful run emits is read back as a consistent dungeon, the one that the manifest
describes node by node. -/
theorem run_faithful {disk : Disk} {console : Console} {words : List String}
    {environment : Environment} {a : Arguments} {outcome : Outcome} {w : World}
    (parsed : Arguments.parse words = .ok a)
    (ran : (World.before disk console).run words environment = (outcome, w))
    (succeeded : outcome.exitStatus = 0) :
    w.disk = { disk with tree := w.disk.tree } ∧
      ∃ (s : Settings) (m : Manifest) (text : String) (v : Json.Value) (d : Dungeon),
        disk.settings a environment = .ok s ∧ disk.manifest a.manifest = .ok m ∧
          w.Shows s.output text ∧
          Json.read? text.toList = some v ∧ Dungeon.ofDocument? v = some d ∧
          d.Consistent ∧ m.Describes d := by
  obtain ⟨logged, run⟩ := run_before disk console environment parsed
  rw [run] at ran
  have ends := disk.course_ends console a environment
  generalize disk.course console a environment = course at ran ends
  obtain ⟨result, after⟩ := course
  cases result with
  | error e =>
    cases ran
    cases succeeded
  | ok =>
    cases ran
    obtain ⟨kept, s, d, text, ready, shows⟩ := shows_of_ends ends logged
    obtain ⟨m, manifest, built⟩ := exists_manifest_of_dungeon ready.dungeon
    obtain ⟨describes, named⟩ := Manifest.describes_of_build built
    obtain ⟨valid, rfl⟩ := Dungeon.document?_eq_ok_iff.1 ready.document
    refine ⟨kept, s, m, _, d.documentValue, d, ready.settings, manifest, shows, ?_,
      Dungeon.exact_document.read d, Dungeon.consistent_of_valid named valid, describes⟩
    rw [String.toList_ofList, Dungeon.read?_render]

def keepText : String :=
  "dungeon = [\"Keep\", \"\", 1, [[\"Top\", [[\"Gate\", \"SMALL\", \"COMBAT\", \"\", " ++
    "[\"Gate\"], [[\"Pit\", \"STEP_ON\", false, 9]], []]]]]]"

def keepDisk : Disk :=
  .ofFiles [(["k"], keepText)]

def keepManifest : Manifest where
  dungeon := ⟨"Keep", "", 1, [⟨"Top", [⟨"Gate", "SMALL", "COMBAT", some "", ["Gate"],
    [⟨"Pit", "STEP_ON", false, 9⟩], []⟩]⟩]⟩

def keepDungeon : Dungeon :=
  ⟨"Keep", "", 1, [⟨"Top", [⟨"Gate", .small, .combat, "", ["Gate"],
    [⟨"Pit", .stepOn, false, 9⟩], []⟩]⟩]⟩

def keepArguments : Arguments :=
  ⟨"/d/k", none, some "j", false, none, false, none, false, 0⟩

theorem manifest_of_file {disk : Disk} {path : String} {f : Config.SourceFile} {m : Manifest}
    (opened : disk.open? path = some f) (read : (Manifest.ofFile f).toOption = some m) :
    disk.manifest path = .ok m := by
  simp only [Disk.manifest, Disk.locate?, opened, Option.some_or]
  cases file : Manifest.ofFile f with
  | error e =>
    rw [file] at read
    cases read
  | ok m' =>
    rw [file] at read
    cases read
    rfl

theorem dungeon_of_manifest {disk : Disk} {path : String} {m : Manifest} {d : Dungeon}
    (loaded : disk.manifest path = .ok m) (built : m.build = .ok d) :
    disk.dungeon path = .ok d := by
  unfold Disk.dungeon
  rw [loaded]
  simp only [bind, Except.bind, built]
  rfl

theorem manifest_keepDisk {path : String} (opened : keepDisk.open? path = some ⟨"k", keepText⟩) :
    keepDisk.manifest path = .ok keepManifest :=
  manifest_of_file opened (by decide +kernel)

theorem build_keepManifest : keepManifest.build = .ok keepDungeon := by
  cbv

theorem dungeon_keepDisk {path : String} (opened : keepDisk.open? path = some ⟨"k", keepText⟩) :
    keepDisk.dungeon path = .ok keepDungeon :=
  dungeon_of_manifest (manifest_keepDisk opened) build_keepManifest

theorem open?_keepDisk : keepDisk.open? "/d/k" = some ⟨"k", keepText⟩ ∧
    keepDisk.open? "k" = some ⟨"k", keepText⟩ := by
  constructor <;> cbv

theorem target_keepDisk : keepDisk.target keepDisk.tree "j" = .ok ["d", "j"] := by
  cbv

theorem settings_of_load (disk : Disk) {a : Arguments} {environment : Environment} {s : Settings}
    (alone : a.config = none) (loaded : Settings.load none environment = .ok s) :
    disk.settings a environment = .ok (s.withArguments a) := by
  unfold Disk.settings
  rw [alone]
  simp only [Disk.settingsFile, bind, Except.bind]
  rw [loaded]
  rfl

theorem settings_of_no_config (disk : Disk) {a : Arguments} (alone : a.config = none) :
    disk.settings a [] = .ok (Settings.default.withArguments a) :=
  settings_of_load disk alone (Settings.load_none (List.forall_mem_nil _))

theorem ready_keepDisk : keepDisk.Ready keepArguments [] ⟨some "j", false, 2, false, false⟩
    keepDungeon (.ofList (keepDungeon.render .compact)) where
  settings := settings_of_no_config keepDisk rfl
  dungeon := dungeon_keepDisk open?_keepDisk.1
  passed := .inr ⟨nofun, nofun⟩
  document := Dungeon.document?_eq_ok_iff.2 ⟨by decide, rfl⟩

theorem course_keepDisk (console : Console) :
    (keepDisk.course console keepArguments []).1 = .ok () := by
  have unreported : keepDisk.reported keepArguments [] = keepDisk :=
    Disk.reported_eq_of_not_reports fun ⟨d, l, due⟩ => by
      obtain ⟨path, asked, -⟩ := due.asked
      cases asked
  refine ready_keepDisk.done console (fun path output => ?_) nofun
  cases output
  rw [unreported]
  exact ⟨_, target_keepDisk⟩

/-- A run that finds its manifest at an absolute path. -/
theorem run_faithful_keepDisk :
    ∃ w, Arguments.parse ["/d/k", "-o", "j"] = .ok keepArguments ∧
      (World.before keepDisk .steady).run ["/d/k", "-o", "j"] [] = (.done, w) ∧
        w.disk = { keepDisk with tree := w.disk.tree } ∧
          ∃ (s : Settings) (text : String) (v : Json.Value),
            keepDisk.settings keepArguments [] = .ok s ∧ s.output = some "j" ∧
              keepDisk.manifest "/d/k" = .ok keepManifest ∧ w.Shows (some "j") text ∧
              w.disk.read? "j" = some text ∧
              Json.read? text.toList = some v ∧ Dungeon.ofDocument? v = some keepDungeon ∧
              keepDungeon.Consistent ∧ keepManifest.Describes keepDungeon := by
  have parsed : Arguments.parse ["/d/k", "-o", "j"] = .ok keepArguments := rfl
  have manifest := manifest_keepDisk open?_keepDisk.1
  obtain ⟨logged, ran⟩ := run_before keepDisk .steady [] parsed
  rw [course_keepDisk] at ran
  obtain ⟨kept, s, m, text, v, d, settings, loaded, shows, read, decoded, consistent, describes⟩ :=
    run_faithful parsed ran rfl
  cases settings.symm.trans (settings_of_no_config keepDisk rfl)
  cases manifest.symm.trans loaded
  have built : keepManifest.build = .ok d := describes.build consistent.wellNamed
  cases built.symm.trans build_keepManifest
  have plain : keepDisk.ReadsBack := Disk.readsBack_ofFiles _
  have readBack := shows.readBack (by rw [kept]; exact plain)
  exact ⟨_, parsed, ran, kept, _, text, v, settings, rfl, manifest, shows, readBack, read,
    decoded, consistent, describes⟩

end World

end DungeonForge
