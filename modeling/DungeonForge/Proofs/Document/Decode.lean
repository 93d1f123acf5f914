import DungeonForge.Document.Render
import DungeonForge.Proofs.Json.RoundTrip

/-!
Decoding the value of a document. A decoder asks for the members of an object in the order of
declaration and for tags in their written spelling, so it is exact: it reads a tree from just one
value, the one that is written for the tree.
-/

namespace DungeonForge

open Json (Value)

namespace Json

/-- A decoder that reads `a` from the value written for `a` and from no other. -/
def Exact {α : Type} (read : Value → Option α) (write : α → Value) : Prop :=
  ∀ v a, read v = some a ↔ v = write a

theorem Exact.read {α : Type} {read : Value → Option α} {write : α → Value}
    (exact : Exact read write) (a : α) : read (write a) = some a :=
  (exact _ _).2 rfl

namespace Value

def fields? (keys : List String) : Value → Option (List Value)
  | .object members =>
    if members.map Prod.fst = keys then some (members.map Prod.snd) else none
  | _ => none

def text? : Value → Option String
  | .string s => some s
  | _ => none

def flag? : Value → Option Bool
  | .boolean b => some b
  | _ => none

def unsigned32? : Value → Option UInt32
  | .integer n => if 0 ≤ n ∧ n < UInt32.size then some (UInt32.ofNat n.toNat) else none
  | _ => none

def signed32? : Value → Option Int32
  | .integer n =>
    if Int32.minValue.toInt ≤ n ∧ n ≤ Int32.maxValue.toInt then some (Int32.ofInt n) else none
  | _ => none

def tag? {α : Type} [Tagged α] : Value → Option α
  | .string s => Tagged.variants.find? fun a => Tagged.tag a == s
  | _ => none

def list? {α : Type} (read : Value → Option α) : Value → Option (List α)
  | .array items => items.mapM read
  | _ => none

theorem fields?_eq_some_iff {keys : List String} {v : Value} {vs : List Value} :
    v.fields? keys = some vs ↔ keys.length = vs.length ∧ v = .object (keys.zip vs) := by
  constructor
  · intro h
    unfold fields? at h
    split at h
    · next members =>
      split at h
      · next same =>
        cases h
        subst same
        refine ⟨by simp, ?_⟩
        rw [List.zip_map']
        simp
      · cases h
    · cases h
  · rintro ⟨length, rfl⟩
    simp [fields?, List.map_fst_zip (Nat.le_of_eq length),
      List.map_snd_zip (Nat.le_of_eq length.symm)]

end Value

theorem exact_text : Exact Value.text? Value.string := by
  intro v s
  cases v <;> simp [Value.text?]

theorem exact_flag : Exact Value.flag? Value.boolean := by
  intro v b
  cases v <;> simp [Value.flag?]

theorem exact_unsigned32 : Exact Value.unsigned32? fun n => .integer n.toNat := by
  intro v n
  cases v with
  | integer k =>
    simp only [Value.unsigned32?, Value.integer.injEq]
    have bound := n.toNat_lt
    constructor
    · intro h
      split at h
      · next range =>
        cases h
        rw [UInt32.toNat_ofNat_of_lt' (by omega)]
        omega
      · cases h
    · rintro rfl
      have inRange : (0 : Int) ≤ n.toNat ∧ (n.toNat : Int) < UInt32.size := by
        simp only [UInt32.size]
        omega
      rw [if_pos inRange]
      simp
  | _ => simp [Value.unsigned32?]

theorem exact_signed32 : Exact Value.signed32? fun n => .integer n.toInt := by
  intro v n
  cases v with
  | integer k =>
    simp only [Value.signed32?, Value.integer.injEq]
    constructor
    · intro h
      split at h
      · next range =>
        cases h
        rw [Int32.toInt_ofInt_of_le range.1 (Int.lt_of_le_of_lt range.2 (by decide))]
      · cases h
    · rintro rfl
      rw [if_pos ⟨Int32.minValue_le_toInt n, Int32.toInt_le n⟩, Int32.ofInt_toInt]
  | _ => simp [Value.signed32?]

theorem exact_list {α : Type} {read : Value → Option α} {write : α → Value}
    (exact : Exact read write) : Exact (Value.list? read) fun as => .array (as.map write) := by
  intro v as
  cases v with
  | array items =>
    simp only [Value.list?, Value.array.injEq]
    induction items generalizing as with
    | nil => cases as <;> simp
    | cons v items ih =>
      cases as with
      | nil => simp [Option.bind_eq_some_iff]
      | cons a as => simp [Option.bind_eq_some_iff, exact v, ih]
  | _ => simp [Value.list?]

end Json

class LawfulTagged (α : Type) [Tagged α] : Prop where
  mem_variants : ∀ a : α, a ∈ Tagged.variants
  tag_inj : ∀ a b : α, Tagged.tag a = Tagged.tag b → a = b

instance : LawfulTagged Size where
  mem_variants a := by cases a <;> decide
  tag_inj a b := by cases a <;> cases b <;> decide

instance : LawfulTagged RoomKind where
  mem_variants a := by cases a <;> decide
  tag_inj a b := by cases a <;> cases b <;> decide

instance : LawfulTagged Trigger where
  mem_variants a := by cases a <;> decide
  tag_inj a b := by cases a <;> cases b <;> decide

instance : LawfulTagged Behaviour where
  mem_variants a := by cases a <;> decide
  tag_inj a b := by cases a <;> cases b <;> decide

instance : LawfulTagged NpcKind where
  mem_variants a := by cases a <;> decide
  tag_inj a b := by cases a <;> cases b <;> decide

theorem Json.exact_tag {α : Type} [Tagged α] [LawfulTagged α] :
    Json.Exact (Value.tag? (α := α)) fun a => .string (Tagged.tag a) := by
  intro v a
  cases v with
  | string s =>
    simp only [Value.tag?, Value.string.injEq]
    constructor
    · intro h
      have same := List.find?_some h
      exact (beq_iff_eq.1 same).symm
    · rintro rfl
      have some_found : (Tagged.variants.find? fun b : α => Tagged.tag b == Tagged.tag a).isSome :=
        List.find?_isSome.2 ⟨a, LawfulTagged.mem_variants a, beq_self_eq_true _⟩
      obtain ⟨b, found⟩ := Option.isSome_iff_exists.1 some_found
      have same := List.find?_some found
      rw [found, LawfulTagged.tag_inj b a (beq_iff_eq.1 same)]
  | _ => simp [Value.tag?]

def Trap.ofJson? (v : Value) : Option Trap :=
  match v.fields? ["name", "trigger", "disarmable", "triggerChance"] with
  | some [name, trigger, disarmable, triggerChance] => do
    return ⟨← name.text?, ← trigger.tag?, ← disarmable.flag?, ← triggerChance.signed32?⟩
  | _ => none

def Npc.ofJson? (v : Value) : Option Npc :=
  match v.fields? ["name", "behaviour", "type", "health"] with
  | some [name, behaviour, kind, health] => do
    return ⟨← name.text?, ← behaviour.tag?, ← kind.tag?, ← health.signed32?⟩
  | _ => none

def Room.ofJson? (v : Value) : Option Room :=
  match v.fields? ["name", "size", "type", "floorId", "connections", "traps", "npcs"] with
  | some [name, size, kind, floorId, connections, traps, npcs] => do
    return ⟨← name.text?, ← size.tag?, ← kind.tag?, ← floorId.text?,
      ← connections.list? Value.text?, ← traps.list? Trap.ofJson?, ← npcs.list? Npc.ofJson?⟩
  | _ => none

def Floor.ofJson? (v : Value) : Option Floor :=
  match v.fields? ["name", "rooms"] with
  | some [name, rooms] => do
    return ⟨← name.text?, ← rooms.list? Room.ofJson?⟩
  | _ => none

def Dungeon.ofJson? (v : Value) : Option Dungeon :=
  match v.fields? ["name", "theme", "level", "floors"] with
  | some [name, theme, level, floors] => do
    return ⟨← name.text?, ← theme.text?, ← level.unsigned32?, ← floors.list? Floor.ofJson?⟩
  | _ => none

/-- The dungeon of the value of a whole document. -/
def Dungeon.ofDocument? (v : Value) : Option Dungeon :=
  match v.fields? ["dungeon"] with
  | some [dungeon] => ofJson? dungeon
  | _ => none

theorem Trap.exact : Json.Exact Trap.ofJson? Trap.toJson := by
  intro v t
  unfold ofJson?
  constructor
  · intro h
    split at h
    · next fields =>
      obtain ⟨-, rfl⟩ := Value.fields?_eq_some_iff.1 fields
      simp only [Option.bind_eq_bind, Option.bind_eq_some_iff, Json.exact_text _ _,
        Json.exact_tag _ _, Json.exact_flag _ _, Json.exact_signed32 _ _] at h
      obtain ⟨name, rfl, trigger, rfl, disarmable, rfl, triggerChance, rfl, same⟩ := h
      cases same
      rfl
    · cases h
  · rintro rfl
    have trigger : (Value.string t.trigger.tag).tag? = some t.trigger :=
      Json.exact_tag.read t.trigger
    simp [toJson, Value.fields?, Json.exact_text.read, trigger, Json.exact_flag.read,
      Json.exact_signed32.read]

theorem Npc.exact : Json.Exact Npc.ofJson? Npc.toJson := by
  intro v n
  unfold ofJson?
  constructor
  · intro h
    split at h
    · next fields =>
      obtain ⟨-, rfl⟩ := Value.fields?_eq_some_iff.1 fields
      simp only [Option.bind_eq_bind, Option.bind_eq_some_iff, Json.exact_text _ _,
        Json.exact_tag _ _, Json.exact_signed32 _ _] at h
      obtain ⟨name, rfl, behaviour, rfl, kind, rfl, health, rfl, same⟩ := h
      cases same
      rfl
    · cases h
  · rintro rfl
    have behaviour : (Value.string n.behaviour.tag).tag? = some n.behaviour :=
      Json.exact_tag.read n.behaviour
    have kind : (Value.string n.kind.tag).tag? = some n.kind := Json.exact_tag.read n.kind
    simp [toJson, Value.fields?, Json.exact_text.read, behaviour, kind, Json.exact_signed32.read]

theorem Room.exact : Json.Exact Room.ofJson? Room.toJson := by
  intro v r
  unfold ofJson?
  constructor
  · intro h
    split at h
    · next fields =>
      obtain ⟨-, rfl⟩ := Value.fields?_eq_some_iff.1 fields
      simp only [Option.bind_eq_bind, Option.bind_eq_some_iff, Json.exact_text _ _,
        Json.exact_tag _ _, Json.exact_list Json.exact_text _ _, Json.exact_list Trap.exact _ _,
        Json.exact_list Npc.exact _ _] at h
      obtain ⟨name, rfl, size, rfl, kind, rfl, floorId, rfl, connections, rfl, traps, rfl,
        npcs, rfl, same⟩ := h
      cases same
      rfl
    · cases h
  · rintro rfl
    have size : (Value.string r.size.tag).tag? = some r.size := Json.exact_tag.read r.size
    have kind : (Value.string r.kind.tag).tag? = some r.kind := Json.exact_tag.read r.kind
    simp [toJson, Value.fields?, Json.exact_text.read, size, kind,
      (Json.exact_list Json.exact_text).read, (Json.exact_list Trap.exact).read, (Json.exact_list Npc.exact).read]

theorem Floor.exact : Json.Exact Floor.ofJson? Floor.toJson := by
  intro v f
  unfold ofJson?
  constructor
  · intro h
    split at h
    · next fields =>
      obtain ⟨-, rfl⟩ := Value.fields?_eq_some_iff.1 fields
      simp only [Option.bind_eq_bind, Option.bind_eq_some_iff, Json.exact_text _ _,
        Json.exact_list Room.exact _ _] at h
      obtain ⟨name, rfl, rooms, rfl, same⟩ := h
      cases same
      rfl
    · cases h
  · rintro rfl
    simp [toJson, Value.fields?, Json.exact_text.read, (Json.exact_list Room.exact).read]

theorem Dungeon.exact : Json.Exact Dungeon.ofJson? Dungeon.toJson := by
  intro v d
  unfold ofJson?
  constructor
  · intro h
    split at h
    · next fields =>
      obtain ⟨-, rfl⟩ := Value.fields?_eq_some_iff.1 fields
      simp only [Option.bind_eq_bind, Option.bind_eq_some_iff, Json.exact_text _ _,
        Json.exact_unsigned32 _ _, Json.exact_list Floor.exact _ _] at h
      obtain ⟨name, rfl, theme, rfl, level, rfl, floors, rfl, same⟩ := h
      cases same
      rfl
    · cases h
  · rintro rfl
    simp [toJson, Value.fields?, Json.exact_text.read, Json.exact_unsigned32.read,
      (Json.exact_list Floor.exact).read]

theorem Dungeon.exact_document : Json.Exact Dungeon.ofDocument? Dungeon.documentValue := by
  intro v d
  unfold ofDocument?
  constructor
  · intro h
    split at h
    · next fields =>
      obtain ⟨-, rfl⟩ := Value.fields?_eq_some_iff.1 fields
      rw [(Dungeon.exact _ _).1 h]
      rfl
    · cases h
  · rintro rfl
    simp [documentValue, Value.fields?, Dungeon.exact.read]

namespace Dungeon

theorem read?_render (d : Dungeon) (layout : Json.Layout) :
    Json.read? (d.render layout) = some d.documentValue := by
  cases layout with
  | compact =>
    have read := Json.read?_write .compact d.documentValue [] (by simp)
    rwa [List.append_nil] at read
  | pretty indent =>
    exact Json.read?_write (.pretty indent) d.documentValue ['\n'] (by simp [Json.State.isSpace])

theorem document?_eq_ok_iff {d : Dungeon} {layout : Json.Layout} {text : String} :
    d.document? layout = .ok text ↔
      d.firstViolation? = none ∧ String.ofList (d.render layout) = text := by
  unfold document?
  cases d.firstViolation? <;> simp

def ofText? (text : String) : Option Dungeon :=
  (Json.read? text.toList).bind ofDocument?

theorem ofText?_document {d : Dungeon} {layout : Json.Layout} {text : String}
    (written : d.document? layout = .ok text) : ofText? text = some d := by
  obtain ⟨-, rfl⟩ := document?_eq_ok_iff.1 written
  rw [ofText?, String.toList_ofList, read?_render, Option.bind_some]
  exact exact_document.read d

/-- A dungeon without a violation has a document in every layout. The document is a complete text
whose value holds the tree node by node, and it is the document of no other dungeon. -/
theorem document?_faithful (d : Dungeon) (layout : Json.Layout)
    (valid : d.firstViolation? = none) :
    ∃ text, d.document? layout = .ok text ∧
      Json.read? text.toList = some d.documentValue ∧
      ofText? text = some d ∧
      ∀ (e : Dungeon) (other : Json.Layout), e.document? other = .ok text → e = d := by
  have written : d.document? layout = .ok (String.ofList (d.render layout)) :=
    document?_eq_ok_iff.2 ⟨valid, rfl⟩
  refine ⟨_, written, ?_, ofText?_document written, ?_⟩
  · rw [String.toList_ofList, read?_render]
  · intro e other same
    have ofE := ofText?_document same
    rw [ofText?_document written] at ofE
    exact (Option.some.inj ofE).symm

def escapedKeep : Dungeon where
  name := "The \"Keep\" \\"
  theme := ""
  level := 4294967295
  floors := [
    ⟨"Top", [⟨"Gate\n", .medium, .combat, "Top", ["Cellar\\\"", "Gate\n"],
      [⟨"Pit", .stepOn, false, 100⟩], [⟨"Rat", .aggressive, .enemy, 0⟩]⟩]⟩,
    ⟨"Bottom", [⟨"Cellar\\\"", .small, .treasure, "", ["Gate\n"], [], []⟩]⟩,
    ⟨"Void", []⟩]

theorem document?_faithful_escapedKeep :
    escapedKeep.firstViolation? = none ∧
      ∃ text, escapedKeep.document? (.pretty 0) = .ok text ∧
        Json.read? text.toList = some escapedKeep.documentValue ∧
        ofText? text = some escapedKeep ∧
        ∀ (e : Dungeon) (other : Json.Layout), e.document? other = .ok text → e = escapedKeep := by
  have valid : escapedKeep.firstViolation? = none := by decide
  exact ⟨valid, document?_faithful escapedKeep (.pretty 0) valid⟩

end Dungeon

end DungeonForge
