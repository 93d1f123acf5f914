import DungeonForge.Proofs.Rules.Blocking
import DungeonForge.Proofs.Run.Arguments
import DungeonForge.Proofs.Run.Atomic
import DungeonForge.Proofs.Run.Log

/-!
Strictness. Wherever it is asked for, the rules are run, even if they are to be skipped, and there
is no document for a dungeon with an error; but a dungeon without errors has a document, so only a
file or the console can stop such a run. Where neither strictness nor skipping is in force and no
report is asked for, it makes no difference, but for the log, whether the rules are run.
-/

namespace DungeonForge

namespace Disk

/-- Strictness is asked for on the command line, or else in the environment, or else in the settings
file if the environment leaves it open. -/
inductive AsksStrict (disk : Disk) (a : Arguments) (environment : Environment) : Prop
  | argument (given : a.strict = true)
  | environment
    (given : (Config.Node.ofSources [Config.ofEnvironment environment]).HasFlag "strict" true)
  | file {f : Config.SourceFile} {es : List (String × Config.Node)}
    (silent : (Config.Node.ofSources [Config.ofEnvironment environment]).field? "strict" = none)
    (found : disk.settingsFile a.config = .ok (some f)) (entries : f.entries = .ok es)
    (given : (Config.Node.ofSources [es]).HasFlag "strict" true)

structure Lenient (disk : Disk) (a : Arguments) (environment : Environment) : Prop where
  strict : a.strict = false
  skipRules : a.skipRules = false
  settings : ∀ s, disk.settings a environment = .ok s → s.strict = false ∧ s.skipRules = false

/-- The second run is the first one with the rules skipped, wherever it asks for that. -/
structure Skips (disk : Disk) (a a' : Arguments) (environment environment' : Environment) :
    Prop where
  manifest : a'.manifest = a.manifest
  settings : disk.settings a' environment' =
    (disk.settings a environment).map fun s => { s with skipRules := true }

variable {disk : Disk} {a : Arguments} {environment : Environment}

theorem strict_iff_asksStrict {s : Settings} (settings : disk.settings a environment = .ok s) :
    s.strict = true ↔ disk.AsksStrict a environment := by
  obtain ⟨file, found, settings⟩ := bind_eq_ok_iff.1 settings
  obtain ⟨loaded, read, same⟩ := bind_eq_ok_iff.1 settings
  cases same
  have strict : (loaded.withArguments a).strict = true ↔ loaded.strict = true ∨ a.strict = true :=
    Bool.or_eq_true_iff
  rw [strict, Settings.strict_of_load (mapError_eq_ok_iff.1 read)]
  constructor
  · rintro ((given | ⟨silent, f, es, rfl, entries, given⟩) | given)
    · exact .environment given
    · exact .file silent found entries given
    · exact .argument given
  · intro asks
    cases asks with
    | argument given => exact .inr given
    | environment given => exact .inl (.inl given)
    | file silent found' entries given =>
      cases found.symm.trans found'
      exact .inl (.inr ⟨silent, _, _, rfl, entries, given⟩)

theorem AsksStrict.judged (asks : disk.AsksStrict a environment) {s : Settings}
    (settings : disk.settings a environment = .ok s) : s.strict = true ∧ s.skipRules = false := by
  have strict := (strict_iff_asksStrict settings).2 asks
  obtain ⟨file, -, settings⟩ := bind_eq_ok_iff.1 settings
  obtain ⟨loaded, -, same⟩ := bind_eq_ok_iff.1 settings
  cases same
  exact ⟨strict, Settings.skipRules_withArguments strict⟩

theorem Ready.clean {s : Settings} {d : Dungeon} {text : String}
    (ready : disk.Ready a environment s d text) (asks : disk.AsksStrict a environment) :
    d.inspect.hasErrors = false := by
  obtain ⟨strict, judged⟩ := asks.judged ready.settings
  obtain skipped | ⟨-, clean⟩ := ready.passed
  · cases judged.symm.trans skipped
  · exact clean strict

theorem Lenient.skips (lenient : disk.Lenient a environment) :
    disk.Skips a { a with skipRules := true } environment environment := by
  refine ⟨rfl, ?_⟩
  have settings := lenient.settings
  unfold Disk.settings at settings ⊢
  cases found : disk.settingsFile a.config with
  | error e => rfl
  | ok file =>
    cases read : (Settings.load file environment).mapError RunError.settings with
    | error e =>
      simp only [bind, Except.bind, read]
      rfl
    | ok loaded =>
      simp only [found, bind, Except.bind, read, pure, Except.pure, Except.map] at settings ⊢
      obtain ⟨strict, -⟩ := settings _ rfl
      simp only [Settings.withArguments] at strict ⊢
      simp [strict]

theorem course_eq_of_skips (console : Console) {a' : Arguments} {environment' : Environment}
    (lenient : disk.Lenient a environment) (unreported : a.report = none)
    (skips : disk.Skips a a' environment environment') :
    disk.course console a' environment' = disk.course console a environment := by
  unfold course
  rw [skips.settings, skips.manifest, unreported]
  cases settings : disk.settings a environment with
  | error e => rfl
  | ok s =>
    obtain ⟨strict, skipRules⟩ := lenient.settings s settings
    simp only [Except.map, if_true, strict, skipRules, Bool.false_eq_true, if_false]
    cases disk.dungeon a.manifest with
    | error e => rfl
    | ok d => rfl

end Disk

theorem Dungeon.exists_document {d : Dungeon} (clean : d.inspect.hasErrors = false)
    (layout : Json.Layout) : ∃ text, d.document? layout = .ok text := by
  have none : d.firstViolation? = none := by
    have first := d.blocker?_inspect
    change d.blockers.head? = _ at first
    rw [blockers_eq_nil clean, List.head?_nil] at first
    exact Option.map_eq_none_iff.1 first.symm
  exact ⟨_, document?_eq_ok_iff.2 ⟨none, rfl⟩⟩

theorem Disk.StopsEarly.report_refused {disk : Disk} {a : Arguments} {environment : Environment}
    {s : Settings} {d : Dungeon} {e : RunError} (early : disk.StopsEarly a environment e)
    (settings : disk.settings a environment = .ok s) (dungeon : disk.dungeon a.manifest = .ok d)
    (clean : d.inspect.hasErrors = false) :
    ∃ path fault, e = .write path fault ∧ a.report = some path := by
  cases early with
  | settings failed => cases settings.symm.trans failed
  | dungeon _ failed => cases dungeon.symm.trans failed
  | report _ _ _ asked _ => exact ⟨_, _, rfl, asked⟩
  | rules _ dungeon' _ _ _ failed =>
    cases dungeon.symm.trans dungeon'
    cases clean.symm.trans failed
  | @violation s' _ _ _ dungeon' _ failed =>
    cases dungeon.symm.trans dungeon'
    obtain ⟨text, document⟩ := Dungeon.exists_document clean s'.layout
    cases document.symm.trans failed

namespace World

/-- What strictness promises of a run. -/
structure Guarded (disk : Disk) (a : Arguments) (environment : Environment) (outcome : Outcome)
    (w : World) : Prop where
  judged : ∀ s, disk.settings a environment = .ok s → s.strict = true ∧ s.skipRules = false
  logged : ∀ s d, disk.settings a environment = .ok s → disk.dungeon a.manifest = .ok d →
    (d.inspect.findings.map Finding.record).filter
      (LogFilter.choose (environment.lookup Program.logVariable) a.verbosity).shows <:+: w.logged
  clean : outcome.exitStatus = 0 ∨ w.shown ≠ .empty ∨ w.disk ≠ disk.reported a environment →
    ∃ d, disk.dungeon a.manifest = .ok d ∧ d.inspect.hasErrors = false
  passes : ∀ s d, disk.settings a environment = .ok s → disk.dungeon a.manifest = .ok d →
    d.inspect.hasErrors = false → (∃ text, d.document? s.layout = .ok text) ∧
      (outcome = .done ∨
        (∃ path fault, outcome = .failed (.write path fault) ∧
          (a.report = some path ∨ s.output = some path)) ∨
        ∃ detail, outcome = .failed (.print detail) ∧ s.output = none)

/-- The runs differ at most in what they log. -/
structure Alike (first second : Outcome × World) : Prop where
  outcome : first.1 = second.1
  disk : first.2.disk = second.2.disk
  shown : first.2.shown = second.2.shown

theorem logged_run (disk : Disk) (console : Console) (environment : Environment)
    {words : List String} {a : Arguments} (parsed : Arguments.parse words = .ok a) :
    ((World.before disk console).run words environment).2.logged =
      ((Program.runWith World.host
        (LogFilter.choose (environment.lookup Program.logVariable) a.verbosity) a environment).run
        (World.before disk console)).2.logged := by
  unfold World.run Program.run
  rw [parsed]
  simp only [bind, StateT.bind]
  cases ran : (Program.runWith World.host
      (LogFilter.choose (environment.lookup Program.logVariable) a.verbosity) a environment).run
      (World.before disk console) with
  | mk result w =>
    cases result <;> rfl

variable {disk : Disk} {console : Console} {a : Arguments} {environment : Environment}

theorem alike_of_course {words words' : List String} {a' : Arguments} {environment' : Environment}
    (parsed : Arguments.parse words = .ok a) (parsed' : Arguments.parse words' = .ok a')
    (same : disk.course console a' environment' = disk.course console a environment) :
    Alike ((World.before disk console).run words' environment')
      ((World.before disk console).run words environment) := by
  obtain ⟨logged, run⟩ := run_before disk console environment parsed
  obtain ⟨logged', run'⟩ := run_before disk console environment' parsed'
  rw [run, run', same]
  exact ⟨rfl, rfl, rfl⟩

theorem guarded_of_asksStrict {words : List String} {outcome : Outcome} {w : World}
    (parsed : Arguments.parse words = .ok a)
    (ran : (World.before disk console).run words environment = (outcome, w))
    (asks : disk.AsksStrict a environment) : Guarded disk a environment outcome w := by
  have logs := logged_run disk console environment parsed
  rw [ran] at logs
  obtain ⟨logged, run⟩ := run_before disk console environment parsed
  rw [ran] at run
  have ends := disk.course_ends console a environment
  generalize disk.course console a environment = course at run ends
  obtain ⟨result, after⟩ := course
  have log : ∀ s d, disk.settings a environment = .ok s → disk.dungeon a.manifest = .ok d →
      (d.inspect.findings.map Finding.record).filter
        (LogFilter.choose (environment.lookup Program.logVariable) a.verbosity).shows <:+:
          w.logged := by
    intro s d settings dungeon
    rw [logs]
    exact Stage.logs_runWith _ settings dungeon (asks.judged settings).2
  have document : ∀ (s : Settings) (d : Dungeon), d.inspect.hasErrors = false →
      ∃ text, d.document? s.layout = .ok text :=
    fun s d clean => Dungeon.exists_document clean s.layout
  have judged : ∀ s, disk.settings a environment = .ok s → s.strict = true ∧ s.skipRules = false :=
    fun s settings => asks.judged settings
  cases ends with
  | stopped early =>
    cases run
    refine ⟨judged, log, ?_, fun s d settings dungeon clean => ?_⟩
    · rintro (done | shown | changed)
      · cases done
      · exact absurd rfl shown
      · exact absurd rfl changed
    · obtain ⟨path, fault, rfl, asked⟩ := early.report_refused settings dungeon clean
      exact ⟨document s d clean, .inr (.inl ⟨path, fault, rfl, .inl asked⟩)⟩
  | refused ready output failed =>
    cases run
    refine ⟨judged, log, fun _ => ⟨_, ready.dungeon, ready.clean asks⟩,
      fun s d settings dungeon clean => ?_⟩
    cases ready.settings.symm.trans settings
    exact ⟨document _ d clean, .inr (.inl ⟨_, _, rfl, .inr output⟩)⟩
  | cut ready output wrote =>
    cases run
    refine ⟨judged, log, fun _ => ⟨_, ready.dungeon, ready.clean asks⟩,
      fun s d settings dungeon clean => ?_⟩
    cases ready.settings.symm.trans settings
    exact ⟨document _ d clean, .inr (.inr ⟨_, rfl, output⟩)⟩
  | printed ready output wrote =>
    cases run
    exact ⟨judged, log, fun _ => ⟨_, ready.dungeon, ready.clean asks⟩,
      fun s d _ _ clean => ⟨document s d clean, .inl rfl⟩⟩
  | filed ready output leads =>
    cases run
    exact ⟨judged, log, fun _ => ⟨_, ready.dungeon, ready.clean asks⟩,
      fun s d _ _ clean => ⟨document s d clean, .inl rfl⟩⟩

/-- A strict run is guarded; a lenient one without a report comes to the same with the rules
skipped, and it can be asked to skip them. -/
theorem run_strictness {words : List String} {outcome : Outcome} {w : World}
    (parsed : Arguments.parse words = .ok a)
    (ran : (World.before disk console).run words environment = (outcome, w)) :
    (disk.AsksStrict a environment → Guarded disk a environment outcome w) ∧
    (disk.Lenient a environment → a.report = none →
      (∀ words' environment' a', Arguments.parse words' = .ok a' →
        disk.Skips a a' environment environment' →
        Alike ((World.before disk console).run words' environment') (outcome, w)) ∧
      ∃ a', Arguments.parse ("--skip-rules" :: words) = .ok a' ∧
        disk.Skips a a' environment environment) := by
  refine ⟨guarded_of_asksStrict parsed ran, fun lenient unreported => ⟨?_, ?_⟩⟩
  · intro words' environment' a' parsed' skips
    rw [← ran]
    exact alike_of_course parsed parsed' (Disk.course_eq_of_skips console lenient unreported skips)
  · exact ⟨_, Arguments.parse_skipping parsed lenient.strict unreported lenient.skipRules,
      lenient.skips⟩

def tidyText : String :=
  "dungeon = [\"Keep\", \"\", 1, [[\"Top\", [[\"Gate\", \"SMALL\", \"COMBAT\", " ++
    "\"\", [], [], []]]]]]"

def tidyDisk : Disk :=
  .ofFiles [(["k"], tidyText)]

def tidyDungeon : Dungeon :=
  ⟨"Keep", "", 1, [⟨"Top", [⟨"Gate", .small, .combat, "", [], [], []⟩]⟩]⟩

def strictEnvironment : Environment :=
  [("DUNGEON_GEN_STRICT", "true"), ("DUNGEON_GEN_SKIP_RULES", "on")]

theorem load_strictEnvironment :
    Settings.load none strictEnvironment = .ok ⟨none, false, 2, true, true⟩ := by
  have tree : Config.Node.ofSources [[], Config.ofEnvironment strictEnvironment] = .table none
      [("strict", .scalar (some "the environment") (.boolean true)),
        ("skip_rules", .scalar (some "the environment") (.text "on"))] := rfl
  refine mapError_eq_ok_iff.2 ((Settings.read_eq_ok_iff ⟨none, _, tree⟩).2 fun x => ?_)
  rw [tree]
  cases x <;> rfl

theorem settings_strictEnvironment (disk : Disk) :
    disk.settings plainArguments strictEnvironment = .ok ⟨none, false, 2, true, false⟩ :=
  settings_of_load disk rfl load_strictEnvironment

theorem dungeon_tidyDisk : tidyDisk.dungeon "k" = .ok tidyDungeon := by
  have opened : tidyDisk.open? "k" = some ⟨"k", tidyText⟩ := by cbv
  have read : (Manifest.ofFile ⟨"k", tidyText⟩).toOption = some ⟨⟨"Keep", "", 1,
      [⟨"Top", [⟨"Gate", "SMALL", "COMBAT", some "", [], [], []⟩]⟩]⟩⟩ := by
    decide +kernel
  have built : Manifest.build ⟨⟨"Keep", "", 1,
      [⟨"Top", [⟨"Gate", "SMALL", "COMBAT", some "", [], [], []⟩]⟩]⟩⟩ = .ok tidyDungeon := by
    cbv
  exact dungeon_of_manifest (manifest_of_file opened read) built

theorem writeTo_steady {d : Dungeon} {layout : Json.Layout} {text : String}
    (written : d.document? layout = .ok text) :
    (d.writeTo layout Console.steady.sink).1 = .ok () := by
  obtain ⟨replies, -, wrote⟩ := Dungeon.writeTo_eq written (s := Console.steady.sink)
  have whole : Console.steady.sink.room 0 (Text.bytes text).length = (Text.bytes text).length := rfl
  rw [wrote, if_pos whole]
  rfl

theorem course_tidyDisk :
    (tidyDisk.course .steady plainArguments strictEnvironment).1 = .ok () := by
  have clean : tidyDungeon.inspect.hasErrors = false := by decide
  have ready : tidyDisk.Ready plainArguments strictEnvironment ⟨none, false, 2, true, false⟩
      tidyDungeon (.ofList (tidyDungeon.render .compact)) := {
    settings := settings_strictEnvironment tidyDisk
    dungeon := dungeon_tidyDisk
    passed := .inr ⟨nofun, fun _ => clean⟩
    document := Dungeon.document?_eq_ok_iff.2 ⟨by decide, rfl⟩ }
  exact ready.done .steady nofun fun _ => writeTo_steady ready.document

theorem stopsEarly_strictEnvironment :
    keepDisk.StopsEarly plainArguments strictEnvironment (.rules 1 "Keep") :=
  .rules (settings_strictEnvironment keepDisk) (dungeon_keepDisk open?_keepDisk.2) rfl nofun rfl
    (by decide)

theorem lenient_plainArguments : keepDisk.Lenient plainArguments [] := by
  refine ⟨rfl, rfl, fun s settings => ?_⟩
  cases (settings_of_no_config keepDisk rfl).symm.trans settings
  exact ⟨rfl, rfl⟩

/-- A strict run that the rules stop, one that they let pass, and a lenient run whose console fails
before the document is printed whole. -/
theorem run_strictness_keeps :
    (∃ w, (World.before keepDisk .steady).run ["k"] strictEnvironment =
        (.failed (.rules 1 "Keep"), w) ∧
      Guarded keepDisk plainArguments strictEnvironment (.failed (.rules 1 "Keep")) w) ∧
    (∃ w, (World.before tidyDisk .steady).run ["k"] strictEnvironment = (.done, w) ∧
      Guarded tidyDisk plainArguments strictEnvironment .done w) ∧
    Alike ((World.before keepDisk narrowConsole).run ["--skip-rules", "k"] [])
      ((World.before keepDisk narrowConsole).run ["k"] []) := by
  have parsed : Arguments.parse ["k"] = .ok plainArguments := rfl
  have asks : ∀ disk : Disk, disk.AsksStrict plainArguments strictEnvironment := fun disk =>
    (Disk.strict_iff_asksStrict (settings_strictEnvironment disk)).1 rfl
  refine ⟨?_, ?_, ?_⟩
  · obtain ⟨logged, ran⟩ := run_before keepDisk .steady strictEnvironment parsed
    rw [stopsEarly_strictEnvironment.course] at ran
    exact ⟨_, ran, (run_strictness parsed ran).1 (asks keepDisk)⟩
  · obtain ⟨logged, ran⟩ := run_before tidyDisk .steady strictEnvironment parsed
    rw [course_tidyDisk] at ran
    exact ⟨_, ran, (run_strictness parsed ran).1 (asks tidyDisk)⟩
  · have lenient := lenient_plainArguments
    have parsed' : Arguments.parse ["--skip-rules", "k"] =
        .ok { plainArguments with skipRules := true } := rfl
    have alike := (run_strictness parsed
      (Prod.eta ((World.before keepDisk narrowConsole).run ["k"] [])).symm).2 lenient rfl
    exact alike.1 ["--skip-rules", "k"] [] _ parsed' lenient.skips

end World

end DungeonForge
