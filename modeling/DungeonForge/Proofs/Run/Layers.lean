import DungeonForge.Proofs.Run.Settings
import DungeonForge.Proofs.Toml.Distinct
import Mathlib

/-!
The three layers of the settings. A file and the environment are laid over each other before any
value is converted, so only the value that wins has to be of the type of its setting; the command
line comes after the conversion.
-/

namespace DungeonForge

namespace Config

def markedKeys (environment : Environment) : List String :=
  environment.filterMap fun v => keyOfVariable? v.1

def entriesOf : Option SourceFile → Except LoadError (List (String × Node))
  | none => .ok []
  | some f => f.entries

theorem distinct_of_entriesOf {file : Option SourceFile} {fromFile : List (String × Node)}
    (read : entriesOf file = .ok fromFile) : (fromFile.map Prod.fst).Nodup := by
  cases file with
  | none =>
    cases read
    exact List.nodup_nil
  | some f => exact f.distinct_of_entries read

theorem map_fst_ofEnvironment (environment : Environment) :
    (ofEnvironment environment).map Prod.fst = markedKeys environment := by
  unfold ofEnvironment markedKeys
  rw [List.map_filterMap]
  refine congrArg (List.filterMap · environment) (funext fun v => ?_)
  cases keyOfVariable? v.1 <;> rfl

end Config

namespace Setting

def inEnvironment? (x : Setting) (environment : Environment) : Option Config.Node :=
  (environment.find? fun v => Config.keyOfVariable? v.1 == some x.key).map fun v =>
    .scalar (some Config.environmentName) (Config.scalarOfText v.2)

def inFile? (x : Setting) (fromFile : List (String × Config.Node)) : Option Config.Node :=
  (fromFile.find? fun e => e.1 == x.key).map Prod.snd

/-- The value of a setting before its conversion. -/
def raw? (x : Setting) (fromFile : List (String × Config.Node)) (environment : Environment) :
    Option Config.Node :=
  (x.inEnvironment? environment).or (x.inFile? fromFile)

theorem isPlain_key (x : Setting) : Config.IsPlain x.key := by
  cases x <;> decide

theorem isScalar_of_convert {x : Setting} {v : Config.Node} {a : x.Value}
    (converted : x.convert v = .ok a) : v.isScalar = true := by
  cases v with
  | scalar origin s => rfl
  | list origin items => cases x <;> cases converted
  | table origin es => cases x <;> cases converted

theorem ofRaw_overlay (x : Setting) (v : Option Config.Node) (a : x.Value) :
    x.ofRaw (v.map fun v => v.overlay .nothing) = .ok a ↔ x.ofRaw v = .ok a := by
  cases v with
  | none => rfl
  | some v =>
    change x.convert (v.overlay .nothing) = .ok a ↔ x.convert v = .ok a
    by_cases scalar : v.isScalar = true
    · rw [Config.Node.overlay_of_isScalar scalar]
    · refine iff_of_false (fun converted => scalar ?_) fun converted =>
        scalar (isScalar_of_convert converted)
      rw [← Config.Node.isScalar_overlay_nothing]
      exact isScalar_of_convert converted

theorem find?_ofEnvironment (x : Setting) (environment : Environment) :
    ((Config.ofEnvironment environment).find? fun e => e.1 == x.key).map Prod.snd =
      x.inEnvironment? environment := by
  have sameTest : (fun v : String × String =>
      ((Config.keyOfVariable? v.1).map fun key =>
        (key, Config.Node.scalar (some Config.environmentName) (Config.scalarOfText v.2))).any
          fun e => e.1 == x.key) = fun v => Config.keyOfVariable? v.1 == some x.key := by
    funext v
    cases Config.keyOfVariable? v.1 <;> simp
  unfold Config.ofEnvironment inEnvironment?
  rw [List.find?_filterMap, sameTest]
  cases found : environment.find? fun v => Config.keyOfVariable? v.1 == some x.key with
  | none => rfl
  | some v =>
    have key : Config.keyOfVariable? v.1 = some x.key := by simpa using List.find?_some found
    simp [key]

/-- In the tree of both sources a setting has the value that the environment gives it, or else that
of the file. -/
theorem field?_ofSources (x : Setting) {fromFile : List (String × Config.Node)}
    {environment : Environment} (plain : ∀ e ∈ fromFile, Config.IsPlain e.1)
    (distinct : (fromFile.map Prod.fst).Nodup) (once : (Config.markedKeys environment).Nodup)
    (known : ∀ key ∈ Config.markedKeys environment, ∃ x : Setting, x.key = key) :
    (Config.Node.ofSources [fromFile, Config.ofEnvironment environment]).field? x.key =
      (x.inEnvironment? environment).or
        ((x.inFile? fromFile).map fun v => v.overlay .nothing) := by
  have plainVariables : ∀ e ∈ Config.ofEnvironment environment, Config.IsPlain e.1 := by
    intro e mem
    have marked : e.1 ∈ Config.markedKeys environment := by
      rw [← Config.map_fst_ofEnvironment]
      exact List.mem_map_of_mem mem
    obtain ⟨x, key⟩ := known e.1 marked
    exact key ▸ x.isPlain_key
  have first : (Config.Node.emptyTable.merge fromFile).field? x.key =
      (x.inFile? fromFile).map fun v => v.overlay .nothing := by
    rw [Config.Node.field?_merge_of_plain plain distinct, inFile?]
    cases fromFile.find? fun e => e.1 == x.key <;> rfl
  change ((Config.Node.emptyTable.merge fromFile).merge
    (Config.ofEnvironment environment)).field? x.key = _
  rw [← Config.map_fst_ofEnvironment] at once
  rw [Config.Node.field?_merge_of_plain plainVariables once, first, ← x.find?_ofEnvironment]
  cases found : (Config.ofEnvironment environment).find? fun e => e.1 == x.key with
  | none => rfl
  | some e =>
    have scalar := Settings.isScalar_ofEnvironment environment e (List.mem_of_find?_eq_some found)
    exact congrArg some (Config.Node.overlay_of_isScalar scalar _)

end Setting

namespace Settings

theorem load_of_entries {file : Option Config.SourceFile} {environment : Environment}
    {fromFile : List (String × Config.Node)} (read : Config.entriesOf file = .ok fromFile) :
    load file environment = (Settings.read (Config.Node.ofSources
      [fromFile, Config.ofEnvironment environment])).mapError Config.LoadError.tree := by
  cases file with
  | none =>
    cases read
    rfl
  | some f =>
    have read : f.entries = .ok fromFile := read
    simp only [load, read]
    rfl

theorem load_eq_ok_iff {file : Option Config.SourceFile} {environment : Environment}
    {fromFile : List (String × Config.Node)} (read : Config.entriesOf file = .ok fromFile)
    (plain : ∀ e ∈ fromFile, Config.IsPlain e.1) (once : (Config.markedKeys environment).Nodup)
    (known : ∀ key ∈ Config.markedKeys environment, ∃ x : Setting, x.key = key) {s : Settings} :
    load file environment = .ok s ↔
      ∀ x : Setting, x.ofRaw (x.raw? fromFile environment) = .ok (x.get s) := by
  rw [load_of_entries read, mapError_eq_ok_iff, read_eq_ok_iff (Config.Node.exists_table_ofSources _)]
  refine forall_congr' fun x => ?_
  rw [x.field?_ofSources plain (Config.distinct_of_entriesOf read) once known, Setting.raw?]
  cases x.inEnvironment? environment with
  | none => exact x.ofRaw_overlay (x.inFile? fromFile) (x.get s)
  | some v => rfl

theorem withArguments_withArguments (s : Settings) (a : Arguments) :
    (s.withArguments a).withArguments a = s.withArguments a := by
  simp only [withArguments, Settings.mk.injEq]
  refine ⟨?_, ?_, ?_, ?_, ?_⟩
  · cases a.output <;> rfl
  · cases s.pretty <;> cases a.pretty <;> cases a.indent <;> rfl
  · cases a.indent <;> rfl
  · cases s.strict <;> cases a.strict <;> rfl
  · cases s.skipRules <;> cases a.skipRules <;> cases s.strict <;> cases a.strict <;> rfl

/-- The effective settings in terms of those that were loaded. -/
structure Effective (s : Settings) (a : Arguments) (t : Settings) : Prop where
  output : t.output = a.output.or s.output
  indent : t.indent = a.indent.getD s.indent
  pretty : t.pretty = true ↔ s.pretty = true ∨ a.pretty = true ∨ a.indent.isSome = true
  strict : t.strict = true ↔ s.strict = true ∨ a.strict = true
  skipRules : t.skipRules = true ↔
    (s.skipRules = true ∨ a.skipRules = true) ∧ ¬ t.strict = true
  settled : t.withArguments a = t

theorem effective_withArguments (s : Settings) (a : Arguments) :
    s.Effective a (s.withArguments a) := by
  refine ⟨rfl, rfl, ?_, ?_, ?_, withArguments_withArguments s a⟩
  · simp [withArguments, or_assoc]
  · simp [withArguments]
  · simp [withArguments]

def ofValues (values : ∀ x : Setting, x.Value) : Settings :=
  ⟨values .output, values .pretty, values .indent, values .strict, values .skipRules⟩

theorem get_ofValues (values : ∀ x : Setting, x.Value) (x : Setting) :
    x.get (ofValues values) = values x := by
  cases x <;> rfl

/-- Loading fails if a value that wins cannot be converted, and for no other reason. If it succeeds,
the settings are those values, and the command line has the last word. -/
theorem load_by_layers {file : Option Config.SourceFile} {environment : Environment}
    {fromFile : List (String × Config.Node)} (read : Config.entriesOf file = .ok fromFile)
    (plain : ∀ e ∈ fromFile, Config.IsPlain e.1) (once : (Config.markedKeys environment).Nodup)
    (known : ∀ key ∈ Config.markedKeys environment, ∃ x : Setting, x.key = key) :
    ((∃ e, load file environment = .error e) ↔
      ∃ (x : Setting) (v : Config.Node), x.raw? fromFile environment = some v ∧
        ∃ e, x.convert v = .error e) ∧
    ∀ s, load file environment = .ok s →
      (∀ x : Setting, x.ofRaw (x.raw? fromFile environment) = .ok (x.get s)) ∧
      ∀ a : Arguments, s.Effective a (s.withArguments a) := by
  have values := @load_eq_ok_iff file environment fromFile read plain once known
  refine ⟨⟨?_, ?_⟩, fun s loaded => ⟨values.1 loaded, effective_withArguments s⟩⟩
  · rintro ⟨e, failed⟩
    by_contra fine
    have converted : ∀ x : Setting, ∃ a, x.ofRaw (x.raw? fromFile environment) = .ok a := by
      intro x
      cases raw : x.raw? fromFile environment with
      | none => exact ⟨x.unset, rfl⟩
      | some v =>
        cases result : x.convert v with
        | ok a => exact ⟨a, result⟩
        | error e => exact absurd ⟨x, v, raw, e, result⟩ fine
    choose found given using converted
    have loaded : load file environment = .ok (ofValues found) :=
      values.2 fun x => (given x).trans (congrArg Except.ok (get_ofValues found x).symm)
    cases failed.symm.trans loaded
  · rintro ⟨x, v, raw, e, failed⟩
    cases result : load file environment with
    | error e => exact ⟨e, rfl⟩
    | ok s =>
      have converted := values.1 result x
      rw [raw] at converted
      cases failed.symm.trans converted

def indentFile : Config.SourceFile where
  name := "s"
  text := "output='a'\nindent='many'\nskip_rules=true\n"

def indentEnvironment : Environment :=
  [("DUNGEON_GEN_INDENT", "3"), ("DUNGEON_GEN_STRICT", "on")]

def indentArguments : Arguments :=
  ⟨"k", none, none, false, some 5, false, none, false, 0⟩

theorem load_by_layers_indentFile :
    (∃ s, load (some indentFile) indentEnvironment = .ok s ∧
      s.Effective indentArguments ⟨some "a", true, 5, true, false⟩) ∧
    ∃ e, load (some indentFile) [] = .error e := by
  have read : Config.entriesOf (some indentFile) = .ok
      [("output", .scalar (some "s") (.text "a")), ("indent", .scalar (some "s") (.text "many")),
        ("skip_rules", .scalar (some "s") (.boolean true))] := by
    cbv
  have plain : ∀ e ∈ [("output", Config.Node.scalar (some "s") (.text "a")),
      ("indent", .scalar (some "s") (.text "many")),
      ("skip_rules", .scalar (some "s") (.boolean true))], Config.IsPlain e.1 := by
    simp only [List.forall_mem_cons]
    exact ⟨by decide, by decide, by decide, List.forall_mem_nil _⟩
  have keys : Config.markedKeys indentEnvironment = ["indent", "strict"] := by cbv
  have once : (Config.markedKeys indentEnvironment).Nodup := by
    rw [keys]
    decide
  have known : ∀ key ∈ Config.markedKeys indentEnvironment, ∃ x : Setting, x.key = key := by
    rw [keys]
    simp only [List.forall_mem_cons]
    exact ⟨⟨.indent, rfl⟩, ⟨.strict, rfl⟩, List.forall_mem_nil _⟩
  have loaded : load (some indentFile) indentEnvironment = .ok ⟨some "a", false, 3, true, true⟩ :=
    (load_eq_ok_iff read plain once known).2 fun x => by cases x <;> rfl
  refine ⟨⟨_, loaded, ?_⟩, ?_⟩
  · exact ((load_by_layers read plain once known).2 _ loaded).2 indentArguments
  · have none : (Config.markedKeys []).Nodup := List.nodup_nil
    exact (load_by_layers read plain none (List.forall_mem_nil _)).1.2 ⟨.indent, _, rfl, _, rfl⟩

end Settings

end DungeonForge
