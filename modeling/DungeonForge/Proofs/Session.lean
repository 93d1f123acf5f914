import DungeonForge.Proofs.Manifest.Build
import DungeonForge.Session

/-!
What every history of a session keeps. Nodes enter a dungeon through their constructors or as copies
of nodes that are there, so no history without assignments to the guarded fields makes a name blank
or the level zero. A step that fails changes nothing, and one that adds a node puts it last in the
node around it and leaves all others where they were.
-/

namespace DungeonForge

/-- One element of a list gives way to another; those before and after it stay. -/
def ReplacedAt {α : Type} (i : Nat) (x y : α) (xs ys : List α) : Prop :=
  ∃ before after, before.length = i ∧ xs = before ++ x :: after ∧ ys = before ++ y :: after

section ReplacedAt

variable {α : Type} {i : Nat} {x y : α} {xs ys : List α}

theorem replacedAt_iff : ReplacedAt i x y xs ys ↔ xs[i]? = some x ∧ ys = xs.set i y := by
  constructor
  · rintro ⟨before, after, rfl, rfl, rfl⟩
    simp
  · rintro ⟨there, rfl⟩
    obtain ⟨bound, rfl⟩ := List.getElem?_eq_some_iff.1 there
    refine ⟨xs.take i, xs.drop (i + 1), List.length_take_of_le (Nat.le_of_lt bound), ?_, ?_⟩
    · rw [List.getElem_cons_drop, List.take_append_drop]
    · rw [List.set_eq_take_append_cons_drop, if_pos bound]

theorem ReplacedAt.mem (replaced : ReplacedAt i x y xs ys) : x ∈ xs := by
  obtain ⟨before, after, -, rfl, -⟩ := replaced
  exact List.mem_append_right before List.mem_cons_self

theorem ReplacedAt.forall_mem {p : α → Prop} (replaced : ReplacedAt i x y xs ys)
    (all : ∀ a ∈ xs, p a) (new : p y) : ∀ b ∈ ys, p b := by
  obtain ⟨before, after, -, rfl, rfl⟩ := replaced
  rw [List.forall_mem_append, List.forall_mem_cons] at all ⊢
  exact ⟨all.1, new, all.2.2⟩

theorem pick_eq_ok_iff {key : IndexKey} {index : Option Nat} :
    pick key xs index = .ok (i, x) ↔ index = some i ∧ xs[i]? = some x := by
  cases index with
  | none => simp [pick]
  | some j =>
    cases there : xs[j]? with
    | none =>
      simp only [pick, there, reduceCtorEq, Option.some.injEq, false_iff, not_and]
      rintro rfl
      simp [there]
    | some z =>
      simp only [pick, there, Except.ok.injEq, Prod.mk.injEq, Option.some.injEq]
      refine and_congr_right ?_
      rintro rfl
      simp [there]

theorem editAt_eq_ok_iff {key : IndexKey} {index : Option Nat} {edit : Edit α} {answer : Answer} :
    editAt key index edit xs = .ok (ys, answer) ↔
      ∃ i x y, index = some i ∧ ReplacedAt i x y xs ys ∧ edit x = .ok (y, answer) := by
  unfold editAt
  simp only [bind_eq_ok_iff, Prod.exists, pick_eq_ok_iff, replacedAt_iff]
  constructor
  · rintro ⟨i, x, ⟨given, there⟩, y, a, edited, same⟩
    cases same
    exact ⟨i, x, y, given, ⟨there, rfl⟩, edited⟩
  · rintro ⟨i, x, y, given, ⟨there, rfl⟩, edited⟩
    exact ⟨i, x, ⟨given, there⟩, y, answer, edited, rfl⟩

theorem mem_of_removeAt {key : IndexKey} {index : Option Nat} {of : α → Answer} {answer : Answer}
    (removed : removeAt key index of xs = .ok (ys, answer)) : ∀ y ∈ ys, y ∈ xs := by
  unfold removeAt at removed
  obtain ⟨⟨i, x⟩, -, same⟩ := bind_eq_ok_iff.1 removed
  cases same
  exact fun y mem => List.mem_of_mem_eraseIdx mem

end ReplacedAt

namespace Dungeon

def FloorReplaced (d : Dungeon) (i : Nat) (f g : Floor) (d' : Dungeon) : Prop :=
  ∃ floors, ReplacedAt i f g d.floors floors ∧ d' = { d with floors }

def RoomReplaced (d : Dungeon) (i j : Nat) (r s : Room) (d' : Dungeon) : Prop :=
  ∃ f rooms, ReplacedAt j r s f.rooms rooms ∧ d.FloorReplaced i f { f with rooms } d'

variable {d d' : Dungeon} {answer : Answer}

theorem editFloor_eq_ok_iff {floor : Option Nat} {edit : Edit Floor} :
    d.editFloor floor edit = .ok (d', answer) ↔
      ∃ i f g, floor = some i ∧ d.FloorReplaced i f g d' ∧ edit f = .ok (g, answer) := by
  unfold editFloor
  simp only [bind_eq_ok_iff, Prod.exists, editAt_eq_ok_iff]
  constructor
  · rintro ⟨floors, a, ⟨i, f, g, given, replaced, edited⟩, same⟩
    cases same
    exact ⟨i, f, g, given, ⟨floors, replaced, rfl⟩, edited⟩
  · rintro ⟨i, f, g, given, ⟨floors, replaced, rfl⟩, edited⟩
    exact ⟨floors, answer, ⟨i, f, g, given, replaced, edited⟩, rfl⟩

theorem editRoom_eq_ok_iff {floor room : Option Nat} {edit : Edit Room} :
    d.editRoom floor room edit = .ok (d', answer) ↔
      ∃ i j r s, floor = some i ∧ room = some j ∧ d.RoomReplaced i j r s d' ∧
        edit r = .ok (s, answer) := by
  unfold editRoom
  simp only [editFloor_eq_ok_iff, bind_eq_ok_iff, Prod.exists, editAt_eq_ok_iff]
  constructor
  · rintro ⟨i, f, g, onFloor, around, rooms, a, ⟨j, r, s, inRoom, replaced, edited⟩, same⟩
    cases same
    exact ⟨i, j, r, s, onFloor, inRoom, ⟨f, rooms, replaced, around⟩, edited⟩
  · rintro ⟨i, j, r, s, onFloor, inRoom, ⟨f, rooms, replaced, around⟩, edited⟩
    exact ⟨i, f, _, onFloor, around, rooms, answer, ⟨j, r, s, inRoom, replaced, edited⟩, rfl⟩

theorem copyRoom_eq_ok_iff {floor room destination : Option Nat} :
    d.copyRoom floor room destination = .ok (d', answer) ↔
      ∃ i j k f g r, floor = some i ∧ room = some j ∧ destination = some k ∧
        d.floors[i]? = some f ∧ f.rooms[j]? = some r ∧
        d.FloorReplaced k g { g with rooms := g.rooms ++ [r] } d' ∧ answer = .room r := by
  unfold Dungeon.copyRoom
  simp only [bind_eq_ok_iff, Prod.exists, pick_eq_ok_iff, editAt_eq_ok_iff]
  constructor
  · rintro ⟨i, f, ⟨onFloor, source⟩, j, r, ⟨inRoom, there⟩, floors, a,
      ⟨k, g, g', target, replaced, added⟩, same⟩
    cases same
    cases added
    exact ⟨i, j, k, f, g, r, onFloor, inRoom, target, source, there, ⟨floors, replaced, rfl⟩, rfl⟩
  · rintro ⟨i, j, k, f, g, r, onFloor, inRoom, target, source, there, ⟨floors, replaced, rfl⟩, rfl⟩
    exact ⟨i, f, ⟨onFloor, source⟩, j, r, ⟨inRoom, there⟩, floors, _,
      ⟨k, g, _, target, replaced, rfl⟩, rfl⟩

end Dungeon

def Floor.WellNamed (f : Floor) : Prop :=
  Text.isBlank f.name = false ∧ ∀ r ∈ f.rooms, Text.isBlank r.name = false

theorem Floor.WellNamed.addRoom {f : Floor} {r : Room} (named : f.WellNamed)
    (visible : Text.isBlank r.name = false) : WellNamed { f with rooms := f.rooms ++ [r] } :=
  ⟨named.1, List.forall_mem_append.2 ⟨named.2, List.forall_mem_singleton.2 visible⟩⟩

namespace Dungeon

variable {d d' : Dungeon} {answer : Answer}

theorem wellNamed_of_fresh {name theme : String} {level : UInt32}
    (fresh : Dungeon.fresh name theme level = .ok d) : d.WellNamed := by
  obtain ⟨visible, positive, rfl⟩ := fresh_eq_ok_iff.1 fresh
  exact ⟨positive, visible, List.forall_mem_nil _, List.forall_mem_nil _⟩

theorem WellNamed.floor {f : Floor} (named : d.WellNamed) (mem : f ∈ d.floors) : f.WellNamed :=
  ⟨named.floors f mem, named.rooms f mem⟩

theorem WellNamed.withFloors {floors : List Floor} (named : d.WellNamed)
    (each : ∀ f ∈ floors, f.WellNamed) : WellNamed { d with floors } where
  level := named.level
  name := named.name
  floors f mem := (each f mem).1
  rooms f mem := (each f mem).2

theorem FloorReplaced.wellNamed {i : Nat} {f g : Floor} (replaced : d.FloorReplaced i f g d')
    (named : d.WellNamed) (keeps : f.WellNamed → g.WellNamed) : d'.WellNamed := by
  obtain ⟨floors, replaced, rfl⟩ := replaced
  exact named.withFloors (replaced.forall_mem (fun _ mem => named.floor mem)
    (keeps (named.floor replaced.mem)))

theorem RoomReplaced.wellNamed {i j : Nat} {r s : Room} (replaced : d.RoomReplaced i j r s d')
    (named : d.WellNamed) (keeps : Text.isBlank r.name = false → Text.isBlank s.name = false) :
    d'.WellNamed := by
  obtain ⟨f, rooms, replaced, around⟩ := replaced
  refine around.wellNamed named fun named => ⟨named.1, ?_⟩
  exact replaced.forall_mem named.2 (keeps (named.2 r replaced.mem))

theorem WellNamed.editFloor {floor : Option Nat} {edit : Edit Floor} (named : d.WellNamed)
    (edited : d.editFloor floor edit = .ok (d', answer))
    (keeps : ∀ {f g a}, edit f = .ok (g, a) → f.WellNamed → g.WellNamed) : d'.WellNamed := by
  obtain ⟨i, f, g, -, replaced, edited⟩ := editFloor_eq_ok_iff.1 edited
  exact replaced.wellNamed named (keeps edited)

theorem WellNamed.editRoom {floor room : Option Nat} {edit : Edit Room} (named : d.WellNamed)
    (edited : d.editRoom floor room edit = .ok (d', answer))
    (keeps : ∀ {r s a}, edit r = .ok (s, a) → s.name = r.name) : d'.WellNamed := by
  obtain ⟨i, j, r, s, -, -, replaced, edited⟩ := editRoom_eq_ok_iff.1 edited
  exact replaced.wellNamed named fun visible => keeps edited ▸ visible

end Dungeon

/-- Steps that write a name which must not be blank, or the level, into a node that is there. -/
def Step.assigns : Step → Bool
  | .setDungeon (.name _) | .setDungeon (.level _) | .setFloorName _ _
  | .setRoom _ _ (.name _) => true
  | _ => false

def Step.adds : Step → Bool
  | .addFloor _ | .addRoom _ _ | .addTrap _ _ _ | .addNpc _ _ _ | .copyRoom _ _ _ => true
  | _ => false

theorem Room.name_set {r s : Room} {field : RoomField} (done : r.set field = .ok s)
    (other : ∀ name, field ≠ .name name) : s.name = r.name := by
  cases field with
  | name name => exact absurd rfl (other name)
  | size tag =>
    obtain ⟨size, -, same⟩ := bind_eq_ok_iff.1 done
    cases same
    rfl
  | kind tag =>
    obtain ⟨kind, -, same⟩ := bind_eq_ok_iff.1 done
    cases same
    rfl
  | floorId floor =>
    cases done
    rfl
  | connections targets =>
    cases done
    rfl

theorem built_eq_ok_iff {α : Type} (shown : α → Answer) {x : Except BuildError α} {a : α}
    {answer : Answer} : built shown x = .ok (a, answer) ↔ x = .ok a ∧ answer = shown a := by
  cases x with
  | error e => simp [built]
  | ok b =>
    simp only [built, Except.ok.injEq, Prod.mk.injEq]
    refine and_congr_right ?_
    rintro rfl
    exact eq_comm

theorem add_built_eq_ok_iff {α β : Type} (shown : α → Answer) (add : α → β)
    {x : Except BuildError α} {b : β} {answer : Answer} :
    (do let (a, answer) ← built shown x; return (add a, answer)) = Except.ok (b, answer) ↔
      ∃ a, x = .ok a ∧ b = add a ∧ answer = shown a := by
  simp only [bind_eq_ok_iff, Prod.exists, built_eq_ok_iff]
  constructor
  · rintro ⟨a, shownAs, ⟨made, rfl⟩, same⟩
    cases same
    exact ⟨a, made, rfl, rfl⟩
  · rintro ⟨a, made, rfl, rfl⟩
    exact ⟨a, _, ⟨made, rfl⟩, rfl⟩

namespace Dungeon

/-- A step adds a node: the node is last in the node around it, it is the one that the step
describes, and everything else stays. -/
inductive Appends (d : Dungeon) : Step → Answer → Dungeon → Prop
  | floor {name : String} : Text.isBlank name = false →
      Appends d (.addFloor name) (.floor ⟨name, []⟩) { d with floors := d.floors ++ [⟨name, []⟩] }
  | room {i : Nat} {e : RoomEntry} {f : Floor} {r : Room} {d' : Dungeon} :
      d.FloorReplaced i f { f with rooms := f.rooms ++ [r] } d' →
      e.Describes f.name r → Text.isBlank r.name = false →
      Appends d (.addRoom (some i) e) (.room r) d'
  | trap {i j : Nat} {e : TrapEntry} {r : Room} {t : Trap} {d' : Dungeon} :
      d.RoomReplaced i j r { r with traps := r.traps ++ [t] } d' → e.Describes t →
      Appends d (.addTrap (some i) (some j) e) (.trap t) d'
  | npc {i j : Nat} {e : NpcEntry} {r : Room} {n : Npc} {d' : Dungeon} :
      d.RoomReplaced i j r { r with npcs := r.npcs ++ [n] } d' → e.Describes n →
      Appends d (.addNpc (some i) (some j) e) (.npc n) d'
  | copy {i j k : Nat} {f g : Floor} {r : Room} {d' : Dungeon} :
      d.floors[i]? = some f → f.rooms[j]? = some r →
      d.FloorReplaced k g { g with rooms := g.rooms ++ [r] } d' →
      Appends d (.copyRoom (some i) (some j) (some k)) (.room r) d'

theorem Appends.wellNamed {d d' : Dungeon} {st : Step} {answer : Answer}
    (appended : d.Appends st answer d') (named : d.WellNamed) : d'.WellNamed := by
  cases appended with
  | floor visible =>
    refine named.withFloors (List.forall_mem_append.2 ⟨fun f mem => named.floor mem, ?_⟩)
    exact List.forall_mem_singleton.2 ⟨visible, List.forall_mem_nil _⟩
  | room replaced _ visible => exact replaced.wellNamed named fun around => around.addRoom visible
  | trap replaced | npc replaced => exact replaced.wellNamed named id
  | copy source there replaced =>
    have visible := (named.floor (List.mem_of_getElem? source)).2 _ (List.mem_of_getElem? there)
    exact replaced.wellNamed named fun around => around.addRoom visible

end Dungeon

namespace Session

theorem edit_eq_ok_iff_appends (copy : Option Dungeon) {d d' : Dungeon} {st : Step}
    {answer : Answer} (adds : st.adds = true) :
    edit copy st d = .ok (d', answer) ↔ d.Appends st answer d' := by
  constructor
  · intro done
    cases st with
    | addFloor name =>
      obtain ⟨f, fresh, same⟩ := bind_eq_ok_iff.1 done
      obtain ⟨visible, rfl⟩ := Floor.fresh_eq_ok_iff.1 (mapError_eq_ok_iff.1 fresh)
      cases same
      exact .floor visible
    | addRoom floor e =>
      obtain ⟨i, f, g, rfl, replaced, edited⟩ := Dungeon.editFloor_eq_ok_iff.1 done
      obtain ⟨r, made, rfl, rfl⟩ := (add_built_eq_ok_iff .room f.addRoom).1 edited
      obtain ⟨describes, visible⟩ := RoomEntry.describes_of_build made
      exact .room replaced describes visible
    | addTrap floor room e =>
      obtain ⟨i, j, r, s, rfl, rfl, replaced, edited⟩ := Dungeon.editRoom_eq_ok_iff.1 done
      obtain ⟨t, made, rfl, rfl⟩ := (add_built_eq_ok_iff .trap r.addTrap).1 edited
      exact .trap replaced (TrapEntry.describes_of_build made)
    | addNpc floor room e =>
      obtain ⟨i, j, r, s, rfl, rfl, replaced, edited⟩ := Dungeon.editRoom_eq_ok_iff.1 done
      obtain ⟨n, made, rfl, rfl⟩ := (add_built_eq_ok_iff .npc r.addNpc).1 edited
      exact .npc replaced (NpcEntry.describes_of_build made)
    | copyRoom floor room destination =>
      obtain ⟨i, j, k, f, g, r, rfl, rfl, rfl, source, there, replaced, rfl⟩ :=
        Dungeon.copyRoom_eq_ok_iff.1 done
      exact .copy source there replaced
    | _ => cases adds
  · intro appended
    cases appended with
    | floor visible =>
      have fresh := Floor.fresh_eq_ok_iff.2 ⟨visible, rfl⟩
      exact bind_eq_ok_iff.2 ⟨_, mapError_eq_ok_iff.2 fresh, rfl⟩
    | room replaced describes visible =>
      refine Dungeon.editFloor_eq_ok_iff.2 ⟨_, _, _, rfl, replaced, ?_⟩
      exact (add_built_eq_ok_iff .room _).2 ⟨_, describes.build visible, rfl, rfl⟩
    | trap replaced describes =>
      refine Dungeon.editRoom_eq_ok_iff.2 ⟨_, _, _, _, rfl, rfl, replaced, ?_⟩
      exact (add_built_eq_ok_iff .trap _).2 ⟨_, describes.build, rfl, rfl⟩
    | npc replaced describes =>
      refine Dungeon.editRoom_eq_ok_iff.2 ⟨_, _, _, _, rfl, rfl, replaced, ?_⟩
      exact (add_built_eq_ok_iff .npc _).2 ⟨_, describes.build, rfl, rfl⟩
    | copy source there replaced =>
      exact Dungeon.copyRoom_eq_ok_iff.2
        ⟨_, _, _, _, _, _, rfl, rfl, rfl, source, there, replaced, rfl⟩

/-- Success of a step other than an assignment keeps what the constructors demand. -/
theorem wellNamed_edit {copy : Option Dungeon} {d d' : Dungeon} {st : Step} {answer : Answer}
    (copies : ∀ c ∈ copy, c.WellNamed) (given : st.assigns = false) (named : d.WellNamed)
    (done : edit copy st d = .ok (d', answer)) : d'.WellNamed := by
  cases st with
  | new name theme level =>
    obtain ⟨made, fresh, same⟩ := bind_eq_ok_iff.1 done
    cases same
    exact Dungeon.wellNamed_of_fresh (mapError_eq_ok_iff.1 fresh)
  | addFloor _ | addRoom _ _ | addTrap _ _ _ | addNpc _ _ _ | copyRoom _ _ _ =>
    exact ((edit_eq_ok_iff_appends copy rfl).1 done).wellNamed named
  | setDungeon field =>
    cases field with
    | theme theme =>
      cases done
      exact ⟨named.level, named.name, named.floors, named.rooms⟩
    | name name => cases given
    | level level => cases given
  | setFloorName floor name => cases given
  | setRoom floor room field =>
    refine named.editRoom done fun edited => ?_
    refine Room.name_set ((built_eq_ok_iff .room).1 edited).1 ?_
    rintro name rfl
    cases given
  | removeFloor floor =>
    obtain ⟨⟨floors, a⟩, removed, same⟩ := bind_eq_ok_iff.1 done
    cases same
    exact named.withFloors fun f mem => named.floor (mem_of_removeAt removed f mem)
  | removeRoom floor room =>
    refine named.editFloor done fun edited named => ?_
    obtain ⟨⟨rooms, a⟩, removed, same⟩ := bind_eq_ok_iff.1 edited
    cases same
    exact ⟨named.1, fun r mem => named.2 r (mem_of_removeAt removed r mem)⟩
  | disconnect _ _ _ | setTrap _ _ _ _ | setNpc _ _ _ _ | removeTrap _ _ _ | removeNpc _ _ _ =>
    refine named.editRoom done fun edited => ?_
    obtain ⟨⟨nodes, b⟩, -, same⟩ := bind_eq_ok_iff.1 edited
    cases same
    rfl
  | reverseFloors =>
    cases done
    exact named.withFloors fun f mem => named.floor (List.mem_reverse.1 mem)
  | reverseRooms floor =>
    refine named.editFloor done fun edited named => ?_
    cases edited
    exact ⟨named.1, fun r mem => named.2 r (List.mem_reverse.1 mem)⟩
  | connect _ _ _ | connectsTo _ _ _ =>
    refine named.editRoom done fun edited => ?_
    cases edited
    rfl
  | validate | document layout =>
    simp only [edit] at done
    split at done <;> cases done
    exact named
  | restore =>
    cases done
    cases copy with
    | none => exact named
    | some c => exact copies c rfl
  | roomNames | find name | inspect | save | same =>
    cases done
    exact named

def after (s : Session) : List Step → Session
  | [] => s
  | st :: rest => (s.step st).1.after rest

theorem run_append (s : Session) (steps later : List Step) :
    s.run (steps ++ later) = s.run steps ++ (s.after steps).run later := by
  induction steps generalizing s with
  | nil => rfl
  | cons st rest ih => rw [List.cons_append, run, ih, run, after, List.cons_append]

structure WellNamed (s : Session) : Prop where
  current : ∀ d ∈ s.current, d.WellNamed
  copy : ∀ c ∈ s.copy, c.WellNamed

variable {s s' : Session} {d : Dungeon} {st : Step} {answer : Answer}

/-- A step fails and changes nothing, makes the first dungeon, or edits the one that is there. -/
theorem step_cases (s : Session) (st : Step) :
    (∃ e, s.step st = (s, .error e)) ∨
    (∃ name theme level d, s.current = none ∧ st = .new name theme level ∧
      Dungeon.fresh name theme level = .ok d ∧
      s.step st = (⟨some d, s.copy⟩, .ok (.dungeon d))) ∨
    ∃ d d' answer, s.current = some d ∧ edit s.copy st d = .ok (d', answer) ∧
      s.step st = (⟨some d', if st = .save then some d else s.copy⟩, .ok answer) := by
  obtain ⟨current, copy⟩ := s
  cases current with
  | some d =>
    cases done : edit copy st d with
    | error e => exact .inl ⟨e, by simp only [step, done]⟩
    | ok made =>
      obtain ⟨d', answer⟩ := made
      exact .inr (.inr ⟨d, d', answer, rfl, done, by simp only [step, done]⟩)
  | none =>
    cases st with
    | new name theme level =>
      cases fresh : Dungeon.fresh name theme level with
      | error e => exact .inl ⟨_, by simp only [step, fresh]; rfl⟩
      | ok d =>
        exact .inr (.inl ⟨name, theme, level, d, rfl, rfl, fresh, by simp only [step, fresh]⟩)
    | _ => exact .inl ⟨.noDungeon, rfl⟩

theorem step_of_error {e : SessionError} (failed : (s.step st).2 = .error e) :
    (s.step st).1 = s := by
  obtain ⟨_, same⟩ | ⟨_, _, _, _, -, -, -, done⟩ | ⟨_, _, _, -, -, done⟩ := s.step_cases st
  · rw [same]
  · rw [done] at failed
    cases failed
  · rw [done] at failed
    cases failed

theorem exists_current_step (there : ∃ d, s.current = some d) :
    ∃ d, (s.step st).1.current = some d := by
  obtain ⟨_, same⟩ | ⟨_, _, _, d, -, -, -, done⟩ | ⟨_, d', _, -, -, done⟩ := s.step_cases st
  · rwa [same]
  · exact ⟨d, by rw [done]⟩
  · exact ⟨d', by rw [done]⟩

theorem step_eq_ok_iff_appends (there : s.current = some d) (adds : st.adds = true) :
    s.step st = (s', .ok answer) ↔ ∃ d', s' = ⟨some d', s.copy⟩ ∧ d.Appends st answer d' := by
  have other : st ≠ .save := by
    rintro rfl
    cases adds
  constructor
  · intro done
    obtain ⟨_, same⟩ | ⟨_, _, _, _, nothing, -⟩ | ⟨_, d', _, there', edited, same⟩ :=
      s.step_cases st
    · rw [same] at done
      cases done
    · rw [there] at nothing
      cases nothing
    · rw [there] at there'
      cases there'
      rw [same, if_neg other] at done
      cases done
      exact ⟨d', rfl, (edit_eq_ok_iff_appends s.copy adds).1 edited⟩
  · rintro ⟨d', rfl, appended⟩
    have edited := (edit_eq_ok_iff_appends s.copy adds).2 appended
    obtain ⟨current, copy⟩ := s
    cases there
    simp only [step, edited, if_neg other]

theorem WellNamed.step (named : s.WellNamed) (given : st.assigns = false) :
    (s.step st).1.WellNamed := by
  obtain ⟨_, same⟩ | ⟨_, _, _, d, -, -, fresh, done⟩ | ⟨d, d', _, there, edited, done⟩ :=
    s.step_cases st
  · rwa [same]
  · rw [done]
    refine ⟨?_, named.copy⟩
    rintro _ ⟨⟩
    exact Dungeon.wellNamed_of_fresh fresh
  · have current := named.current d there
    rw [done]
    constructor
    · rintro _ ⟨⟩
      exact wellNamed_edit named.copy given current edited
    · intro c copied
      dsimp only at copied
      split_ifs at copied
      · cases copied
        exact current
      · exact named.copy c copied

theorem WellNamed.after {steps : List Step} (named : s.WellNamed)
    (given : ∀ st ∈ steps, st.assigns = false) : (s.after steps).WellNamed := by
  induction steps generalizing s with
  | nil => exact named
  | cons st rest ih =>
    obtain ⟨first, given⟩ := List.forall_mem_cons.1 given
    exact ih (named.step first) given

theorem exists_current_after {steps : List Step} (there : ∃ d, s.current = some d) :
    ∃ d, (s.after steps).current = some d := by
  induction steps generalizing s with
  | nil => exact there
  | cons st rest ih => exact ih (exists_current_step there)

/-- After every history that begins with a new dungeon and assigns no guarded field there is a
dungeon from which all later answers are given; its level is at least one and its names are not
blank, as are those of the copy. From there a step that fails changes nothing, and one that adds a
node only appends it. -/
theorem wellNamed_after_new {name theme : String} {level : UInt32} {made : Dungeon}
    (fresh : Dungeon.fresh name theme level = .ok made) {steps : List Step}
    (given : ∀ st ∈ steps, st.assigns = false) :
    ∃ d copy, start.after (.new name theme level :: steps) = ⟨some d, copy⟩ ∧
      (∀ later, start.run (.new name theme level :: steps ++ later) =
        start.run (.new name theme level :: steps) ++ run ⟨some d, copy⟩ later) ∧
      d.WellNamed ∧ (∀ c ∈ copy, c.WellNamed) ∧
      (∀ st e, (step ⟨some d, copy⟩ st).2 = .error e →
        (step ⟨some d, copy⟩ st).1 = ⟨some d, copy⟩) ∧
      ∀ st s' answer, st.adds = true → (step ⟨some d, copy⟩ st = (s', .ok answer) ↔
        ∃ d', s' = ⟨some d', copy⟩ ∧ d.Appends st answer d') := by
  have first : start.step (.new name theme level) = (⟨some made, none⟩, .ok (.dungeon made)) := by
    simp only [start, step, fresh]
  have named : start.WellNamed := ⟨fun _ => nofun, fun _ => nofun⟩
  have all := named.after (List.forall_mem_cons.2 ⟨rfl, given⟩ :
    ∀ st ∈ Step.new name theme level :: steps, st.assigns = false)
  have there : ∃ d, (start.after (.new name theme level :: steps)).current = some d := by
    rw [after, first]
    exact exists_current_after ⟨made, rfl⟩
  have answers := run_append start (.new name theme level :: steps)
  generalize start.after (.new name theme level :: steps) = s at all there answers
  obtain ⟨current, copy⟩ := s
  obtain ⟨d, rfl⟩ := there
  refine ⟨d, copy, rfl, answers, all.current d rfl, all.copy, ?_, ?_⟩
  · exact fun st e => step_of_error
  · exact fun st s' answer => step_eq_ok_iff_appends rfl

def cellHistory : List Step :=
  [.addFloor "Hall", .addFloor "\u2003", .addRoom (some 0) cell,
    .copyRoom (some 0) (some 0) (some 0), .addRoom (some 0) { cell with name := " " }, .save,
    .connect (some 0) (some 1) "", .removeRoom (some 0) (some 0), .removeRoom (some 0) (some 1),
    .addFloor "Attic", .reverseFloors]
where
  cell : RoomEntry := ⟨"Cell", "SMALL", "PUZZLE", none, [], [], []⟩

def cellKeep : Dungeon where
  name := "Keep"
  theme := ""
  level := 1
  floors := [⟨"Attic", []⟩, ⟨"Hall", [⟨"Cell", .small, .puzzle, "Hall", [""], [], []⟩]⟩]

theorem wellNamed_after_new_cellKeep :
    ∃ copy, start.after (.new "Keep" "" 1 :: cellHistory) = ⟨some cellKeep, copy⟩ ∧
      cellKeep.WellNamed ∧ (∀ c ∈ copy, c.WellNamed) ∧
      (step ⟨some cellKeep, copy⟩ (.addFloor " ")).1 = ⟨some cellKeep, copy⟩ ∧
      ∃ d, cellKeep.Appends (.addTrap (some 1) (some 0) ⟨"Pit", "STEP_ON", true, 5⟩)
        (.trap ⟨"Pit", .stepOn, true, 5⟩) d := by
  have fresh : Dungeon.fresh "Keep" "" 1 = .ok ⟨"Keep", "", 1, []⟩ := by decide
  have given : ∀ st ∈ cellHistory, st.assigns = false := by decide
  obtain ⟨d, copy, history, -, named, copies, failed, added⟩ := wellNamed_after_new fresh given
  have last : (start.after (.new "Keep" "" 1 :: cellHistory)).current = some cellKeep := by decide
  rw [history] at last
  cases last
  refine ⟨copy, history, named, copies, failed (.addFloor " ") _ rfl, ?_⟩
  obtain ⟨d, -, appended⟩ := (added (.addTrap (some 1) (some 0) ⟨"Pit", "STEP_ON", true, 5⟩) _
    (.trap ⟨"Pit", .stepOn, true, 5⟩) rfl).1 rfl
  exact ⟨d, appended⟩

end Session

end DungeonForge
