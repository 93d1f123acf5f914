import DungeonForge.Proofs.Config.Merge
import DungeonForge.Proofs.Manifest.Build
import DungeonForge.Run.Settings

/-!
Settings that can be read. Each setting has a key, a type and a conversion, and a configuration tree
is read setting by setting: a setting with no value in the tree is left as it is unset. Strictness
comes from the environment, or else from the file.
-/

namespace DungeonForge

inductive Setting
  | output
  | pretty
  | indent
  | strict
  | skipRules
deriving DecidableEq, Repr

namespace Setting

/-- The key of a setting in a file, and what stands behind the marker in the name of its variable. -/
def key : Setting → String
  | .output => "output"
  | .pretty => "pretty"
  | .indent => "indent"
  | .strict => "strict"
  | .skipRules => "skip_rules"

abbrev Value : Setting → Type
  | .output => Option String
  | .indent => UInt8
  | .pretty | .strict | .skipRules => Bool

def unset : (x : Setting) → x.Value
  | .output => none
  | .indent => 2
  | .pretty | .strict | .skipRules => false

def convert : (x : Setting) → Config.Node → Except Config.Error x.Value
  | .output => Config.lenient.optional Config.Node.asText
  | .indent => Config.Node.asUnsigned8
  | .pretty | .strict | .skipRules => Config.Node.asFlag

/-- What a setting is if this is its value, or if it has none. -/
def ofRaw (x : Setting) : Option Config.Node → Except Config.Error x.Value
  | none => .ok x.unset
  | some v => x.convert v

def get (s : Settings) : (x : Setting) → x.Value
  | .output => s.output
  | .pretty => s.pretty
  | .indent => s.indent
  | .strict => s.strict
  | .skipRules => s.skipRules

def place : Setting → Nat
  | .output => 0
  | .pretty => 1
  | .indent => 2
  | .strict => 3
  | .skipRules => 4

def slot (x : Setting) (es : List (String × Config.Node)) : Slot Config.Error x.Value :=
  Config.lenient.slot (.keyed ⟨"Settings", 5⟩ es) x.place x.key x.convert

theorem getD_slot_eq_ok (x : Setting) {origin : Option String} {es : List (String × Config.Node)}
    {a : x.Value} :
    (x.slot es).getD x.unset = .ok a ↔
      x.ofRaw ((Config.Node.table origin es).field? x.key) = .ok a := by
  rw [slot, Format.getD_slot_keyed]
  change _ ↔ x.ofRaw ((es.reverse.find? fun e => e.1 == x.key).map Prod.snd) = .ok a
  cases (es.reverse.find? fun e => e.1 == x.key).map Prod.snd with
  | none => simp [ofRaw]
  | some v => rfl

end Setting

namespace Settings

theorem read_eq_ok_iff {n : Config.Node} {s : Settings}
    (table : ∃ origin es, n = .table origin es) :
    read n = .ok s ↔ ∀ x : Setting, x.ofRaw (n.field? x.key) = .ok (x.get s) := by
  obtain ⟨origin, es, rfl⟩ := table
  simp only [← Setting.getD_slot_eq_ok]
  constructor
  · intro loaded
    obtain ⟨r, record, loaded⟩ := bind_eq_ok_iff.1 loaded
    cases record
    obtain ⟨_, -, loaded⟩ := bind_eq_ok_iff.1 loaded
    obtain ⟨output, output_read, loaded⟩ := bind_eq_ok_iff.1 loaded
    obtain ⟨pretty, pretty_read, loaded⟩ := bind_eq_ok_iff.1 loaded
    obtain ⟨indent, indent_read, loaded⟩ := bind_eq_ok_iff.1 loaded
    obtain ⟨strict, strict_read, loaded⟩ := bind_eq_ok_iff.1 loaded
    obtain ⟨skipRules, skipRules_read, loaded⟩ := bind_eq_ok_iff.1 loaded
    cases loaded
    intro x
    cases x with
    | output => exact output_read
    | pretty => exact pretty_read
    | indent => exact indent_read
    | strict => exact strict_read
    | skipRules => exact skipRules_read
  · intro values
    have checked : ∀ x : Setting, (x.slot es).check.2 = .ok () := fun x =>
      Slot.check_of_getD (values x)
    have settled : (Record.keyed ⟨"Settings", 5⟩ es).settle
        [(Setting.output.slot es).check, (Setting.pretty.slot es).check,
          (Setting.indent.slot es).check, (Setting.strict.slot es).check,
          (Setting.skipRules.slot es).check] = .ok () :=
      Record.settle_eq_ok (by simp [checked])
    exact bind_eq_ok_iff.2 ⟨_, rfl, bind_eq_ok_iff.2 ⟨_, settled,
      bind_eq_ok_iff.2 ⟨_, values .output, bind_eq_ok_iff.2 ⟨_, values .pretty,
      bind_eq_ok_iff.2 ⟨_, values .indent, bind_eq_ok_iff.2 ⟨_, values .strict,
      bind_eq_ok_iff.2 ⟨_, values .skipRules, rfl⟩⟩⟩⟩⟩⟩⟩

theorem load_none {environment : Environment}
    (unmarked : ∀ v ∈ environment, Config.keyOfVariable? v.1 = none) :
    load none environment = .ok default := by
  have empty : Config.ofEnvironment environment = [] := by
    unfold Config.ofEnvironment
    refine List.filterMap_eq_nil_iff.2 fun v mem => ?_
    rw [unmarked v mem]
    rfl
  unfold load
  rw [empty]
  refine mapError_eq_ok_iff.2 ((read_eq_ok_iff ⟨none, [], rfl⟩).2 fun x => ?_)
  cases x <;> rfl

theorem strict_of_read {n : Config.Node} {s : Settings} (table : ∃ origin es, n = .table origin es)
    (loaded : read n = .ok s) : s.strict = true ↔ n.HasFlag "strict" true := by
  have read : Setting.strict.ofRaw (n.field? "strict") = .ok s.strict :=
    (read_eq_ok_iff table).1 loaded .strict
  unfold Config.Node.HasFlag
  cases found : n.field? "strict" with
  | none =>
    rw [found] at read
    simp [← Except.ok.inj read, Setting.unset]
  | some v =>
    rw [found] at read
    have read : v.asFlag = .ok s.strict := read
    simp [read]

theorem isScalar_ofEnvironment (environment : Environment) :
    ∀ e ∈ Config.ofEnvironment environment, e.2.isScalar = true := by
  intro e mem
  obtain ⟨v, -, entry⟩ := List.mem_filterMap.1 mem
  obtain ⟨key, -, rfl⟩ := Option.map_eq_some_iff.1 entry
  rfl

/-- Strictness comes from the environment, or from the file if the environment leaves it open. -/
theorem strict_of_load {file : Option Config.SourceFile} {environment : Environment} {s : Settings}
    (loaded : load file environment = .ok s) :
    s.strict = true ↔
      (Config.Node.ofSources [Config.ofEnvironment environment]).HasFlag "strict" true ∨
      (Config.Node.ofSources [Config.ofEnvironment environment]).field? "strict" = none ∧
        ∃ f es, file = some f ∧ f.entries = .ok es ∧
          (Config.Node.ofSources [es]).HasFlag "strict" true := by
  have sources : ∀ es, read (Config.Node.ofSources [es, Config.ofEnvironment environment]) = .ok s →
      (s.strict = true ↔
        (Config.Node.ofSources [Config.ofEnvironment environment]).HasFlag "strict" true ∨
        (Config.Node.ofSources [Config.ofEnvironment environment]).field? "strict" = none ∧
          (Config.Node.ofSources [es]).HasFlag "strict" true) := by
    intro es read
    rw [strict_of_read (Config.Node.exists_table_ofSources _) read]
    exact Config.Node.hasFlag_ofSources es (isScalar_ofEnvironment environment) "strict" true
  unfold load at loaded
  cases file with
  | none =>
    have empty : ¬ (Config.Node.ofSources [[]]).HasFlag "strict" true := by
      rintro ⟨v, found, -⟩
      cases found
    rw [sources [] (mapError_eq_ok_iff.1 loaded)]
    simp [empty]
  | some f =>
    obtain ⟨es, entries, loaded⟩ := bind_eq_ok_iff.1 loaded
    rw [sources es (mapError_eq_ok_iff.1 loaded)]
    simp [entries]

theorem skipRules_withArguments {s : Settings} {a : Arguments}
    (strict : (s.withArguments a).strict = true) : (s.withArguments a).skipRules = false := by
  simp only [withArguments] at strict ⊢
  rw [strict, Bool.not_true, Bool.and_false]

end Settings

end DungeonForge
