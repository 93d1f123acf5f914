import DungeonForge.Proofs.Config.Environment
import DungeonForge.Proofs.Run.Layers

/-!
The output path in the environment. What the variable holds is read as a flag, an integer or a real
where it is spelled like one, and what has been read is spelled out again as the path. So a value
that is no text by itself may come back as another path, and two values as one; a path on the
command line or in a file is taken as it stands.
-/

namespace DungeonForge

namespace Config

/-- The path for which the value of a variable stands. -/
def pathOfVariable (value : String) : String :=
  match scalarOfText value with
  | .nothing => ""
  | .boolean b => toString b
  | .integer n => String.ofList (integerText n)
  | .real x => x.text .plain
  | .text s => s

theorem pathOfVariable_of_text {value : String} (text : scalarOfText value = .text value) :
    pathOfVariable value = value := by
  rw [pathOfVariable, text]

theorem ofEnvironment_of_only {environment : Environment} {name value key : String}
    (given : (name, value) ∈ environment) (names : keyOfVariable? name = some key)
    (only : markedKeys environment = [key]) :
    ofEnvironment environment =
      [(key, .scalar (some environmentName) (scalarOfText value))] := by
  have mem : (key, Node.scalar (some environmentName) (scalarOfText value)) ∈
      ofEnvironment environment :=
    List.mem_filterMap.2 ⟨_, given, by rw [names]; rfl⟩
  have single : (ofEnvironment environment).length = 1 := by
    rw [← List.length_map Prod.fst, map_fst_ofEnvironment, only]
    rfl
  obtain ⟨e, same⟩ := List.length_eq_one_iff.1 single
  rw [same] at mem ⊢
  rw [List.mem_singleton.1 mem]

end Config

namespace Setting

theorem convert_output_variable (origin : Option String) (value : String) :
    Setting.output.convert (.scalar origin (Config.scalarOfText value)) =
      .ok (some (Config.pathOfVariable value)) := by
  unfold Config.pathOfVariable
  cases read : Config.scalarOfText value with
  | nothing => exact absurd read (Config.scalarOfText_ne_nothing value)
  | boolean b => rfl
  | integer n => rfl
  | real x => rfl
  | text s => rfl

end Setting

namespace Settings

variable {file : Option Config.SourceFile} {environment : Environment} {name value : String}
  {s : Settings}

theorem entriesOf_of_load (loaded : load file environment = .ok s) :
    ∃ fromFile, Config.entriesOf file = .ok fromFile := by
  cases file with
  | none => exact ⟨[], rfl⟩
  | some f =>
    obtain ⟨fromFile, read, -⟩ := bind_eq_ok_iff.1 loaded
    exact ⟨fromFile, read⟩

theorem field?_output_variable (fromFile : List (String × Config.Node)) (origin : Option String)
    (v : Config.Scalar) (x : Setting) :
    (Config.Node.ofSources [fromFile, [("output", .scalar origin v)]]).field? x.key =
      if x = .output then some (.scalar origin v)
      else (Config.Node.ofSources [fromFile]).field? x.key := by
  have root : Config.Path.ofText "output" = ⟨"output", []⟩ :=
    Config.Path.ofText_of_isPlain (Setting.isPlain_key .output)
  have last := Config.Node.field?_merge_concat (Config.Node.ofSources [fromFile]) []
    ("output", .scalar origin v) x.key
  rw [root] at last
  refine last.trans ?_
  cases x <;> rfl

theorem load_output_variable (given : (name, value) ∈ environment)
    (names : Config.keyOfVariable? name = some "output")
    (only : Config.markedKeys environment = ["output"]) :
    load file environment = .ok s ↔
      s.output = some (Config.pathOfVariable value) ∧
      ∃ fromFile, Config.entriesOf file = .ok fromFile ∧ ∀ x : Setting, x ≠ .output →
        x.ofRaw ((Config.Node.ofSources [fromFile]).field? x.key) = .ok (x.get s) := by
  have values : ∀ fromFile, Config.entriesOf file = .ok fromFile →
      (load file environment = .ok s ↔ s.output = some (Config.pathOfVariable value) ∧
        ∀ x : Setting, x ≠ .output →
          x.ofRaw ((Config.Node.ofSources [fromFile]).field? x.key) = .ok (x.get s)) := by
    intro fromFile read
    rw [load_of_entries read, mapError_eq_ok_iff,
      read_eq_ok_iff (Config.Node.exists_table_ofSources _),
      Config.ofEnvironment_of_only given names only]
    simp only [field?_output_variable]
    constructor
    · intro each
      refine ⟨?_, fun x other => ?_⟩
      · have path := (Setting.convert_output_variable _ value).symm.trans (each .output)
        exact (Except.ok.inj path).symm
      · have kept := each x
        rwa [if_neg other] at kept
    · rintro ⟨path, others⟩ x
      split
      · next output =>
        subst output
        exact (Setting.convert_output_variable _ value).trans (congrArg Except.ok path.symm)
      · next other => exact others x other
  constructor
  · intro loaded
    obtain ⟨fromFile, read⟩ := entriesOf_of_load loaded
    obtain ⟨path, others⟩ := (values fromFile read).1 loaded
    exact ⟨path, fromFile, read, others⟩
  · rintro ⟨path, fromFile, read, others⟩
    exact (values fromFile read).2 ⟨path, others⟩

/-- A path is taken as it stands on the command line and in a file. The value of its variable is
taken so if it reads as a text, which it does if it has a character such as a slash; otherwise the
path is the text of the flag or number that was read. -/
theorem output_by_source (file : Option Config.SourceFile) (a : Arguments)
    (given : (name, value) ∈ environment) (names : Config.keyOfVariable? name = some "output")
    (only : Config.markedKeys environment = ["output"]) :
    (∀ s, load file [] = .ok s →
      load file environment = .ok { s with output := some (Config.pathOfVariable value) }) ∧
    (∀ s, load file environment = .ok s → a.output = none →
      (s.withArguments a).output = some (Config.pathOfVariable value)) ∧
    (Config.scalarOfText value = .text value → Config.pathOfVariable value = value) ∧
    (∀ c ∈ value.toList, c.toNat < 0x80 → Config.isSpelling c = false →
      Config.scalarOfText value = .text value) ∧
    (∀ s : Settings, a.output = some value → (s.withArguments a).output = some value) ∧
    (∀ fromFile origin s, Config.entriesOf file = .ok fromFile →
      (∀ e ∈ fromFile, Config.IsPlain e.1) →
      Setting.output.inFile? fromFile = some (.scalar origin (.text value)) →
      load file [] = .ok s → s.output = some value) := by
  refine ⟨?_, ?_, Config.pathOfVariable_of_text, ?_, ?_, ?_⟩
  · intro s loaded
    obtain ⟨fromFile, read⟩ := entriesOf_of_load loaded
    rw [load_of_entries read, mapError_eq_ok_iff,
      read_eq_ok_iff (Config.Node.exists_table_ofSources _)] at loaded
    refine (load_output_variable given names only).2 ⟨rfl, fromFile, read, fun x other => ?_⟩
    cases x with
    | output => exact absurd rfl other
    | pretty => exact loaded .pretty
    | indent => exact loaded .indent
    | strict => exact loaded .strict
    | skipRules => exact loaded .skipRules
  · intro s loaded unset
    obtain ⟨path, -⟩ := (load_output_variable given names only).1 loaded
    rw [withArguments, unset, path]
    rfl
  · exact fun c mem => Config.scalarOfText_of_not_spells mem
  · intro s set
    rw [withArguments, set]
    rfl
  · intro fromFile origin s read plain entry loaded
    have none : (Config.markedKeys []).Nodup := List.nodup_nil
    have path := (load_eq_ok_iff read plain none (List.forall_mem_nil _)).1 loaded .output
    rw [Setting.raw?, entry] at path
    exact (Except.ok.inj path).symm

theorem load_paddedOutput :
    load none [("DUNGEON_GEN_OUTPUT", "007")] = .ok ⟨some "7", false, 2, false, false⟩ ∧
    load none [("DUNGEON_GEN_OUTPUT", "7")] = .ok ⟨some "7", false, 2, false, false⟩ := by
  constructor
  · refine mapError_eq_ok_iff.2
      ((read_eq_ok_iff (Config.Node.exists_table_ofSources _)).2 fun x => ?_)
    cases x <;> rfl
  · refine mapError_eq_ok_iff.2
      ((read_eq_ok_iff (Config.Node.exists_table_ofSources _)).2 fun x => ?_)
    cases x <;> rfl

theorem output_by_source_padded :
    load none [("DUNGEON_GEN_OUTPUT", "007")] = .ok { default with output := some "7" } := by
  have given : ("DUNGEON_GEN_OUTPUT", "007") ∈ [("DUNGEON_GEN_OUTPUT", "007")] :=
    List.mem_cons_self
  have names : Config.keyOfVariable? "DUNGEON_GEN_OUTPUT" = some "output" := by cbv
  have only : Config.markedKeys [("DUNGEON_GEN_OUTPUT", "007")] = ["output"] := by cbv
  have path : Config.pathOfVariable "007" = "7" := by cbv
  have unset : load none [] = .ok default := load_none (List.forall_mem_nil _)
  have padded := (output_by_source none ⟨"k", none, none, false, none, false, none, false, 0⟩
    given names only).1 default unset
  rwa [path] at padded

end Settings

end DungeonForge
