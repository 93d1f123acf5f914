import DungeonForge.Proofs.Document.Sink
import DungeonForge.Proofs.Run.Disk
import DungeonForge.Run.Simulation

/-!
The course of a run: which settings and which dungeon are loaded, whether the rules stop the run,
and what is written where. A stage logs as well, but no stage reads the log, so what it comes to
depends on the files and the output alone.
-/

namespace DungeonForge

structure Scene where
  disk : Disk
  console : Console
  shown : Transcript

def Scene.world (s : Scene) (logged : List LogRecord) : World :=
  ⟨s.disk, s.console, s.shown, logged⟩

abbrev Stage (α : Type) := ExceptT RunError (StateM World) α

/-- Whatever has been logged, the stage comes to the result and leaves the second scene. -/
def Stage.Leads {α : Type} (x : Stage α) (s : Scene) (r : Except RunError α) (s' : Scene) : Prop :=
  ∀ logged, ∃ logged', x.run (s.world logged) = (r, s'.world logged')

def Dungeon.verdict (d : Dungeon) (strict : Bool) : Except RunError Unit :=
  if strict && d.inspect.hasErrors then .error (.rules d.inspect.errors.length d.name) else .ok ()

def Console.failure (console : Console) : WriteError → RunError
  | .violation v => .violation v
  | .sink e => .print (console.words e)

namespace Disk

def locate? (disk : Disk) (path : String) : Option Config.SourceFile :=
  (disk.open? path).or ((Path.withSuffix? path).bind disk.open?)

def settingsFile (disk : Disk) : Option String → Except RunError (Option Config.SourceFile)
  | none => .ok none
  | some path =>
    match disk.locate? path with
    | none => .error (.settings (.notFound path))
    | some f => .ok (some f)

/-- The settings in force for a command line and an environment. -/
def settings (disk : Disk) (a : Arguments) (environment : Environment) :
    Except RunError Settings := do
  let file ← disk.settingsFile a.config
  return (← (Settings.load file environment).mapError .settings).withArguments a

def manifest (disk : Disk) (path : String) : Except RunError Manifest :=
  match disk.locate? path with
  | none => .error (.manifest path (.notFound path))
  | some f => (Manifest.ofFile f).mapError (.manifest path)

def dungeon (disk : Disk) (path : String) : Except RunError Dungeon := do
  (← disk.manifest path).build.mapError .build

/-- What the rules come to, and the disk with the report, which does not wait for the verdict. -/
def review (disk : Disk) (d : Dungeon) (strict : Bool) :
    Option String → Except RunError Unit × Disk
  | none => (d.verdict strict, disk)
  | some path =>
    match disk.write path (Program.reportText d.inspect) with
    | .error fault => (.error (.write path fault), disk)
    | .ok written => (d.verdict strict, written)

def emit (disk : Disk) (console : Console) (d : Dungeon) (s : Settings) :
    Except RunError Unit × Scene :=
  match s.output with
  | none =>
    let (result, shown) := d.writeTo s.layout console.sink
    (result.mapError console.failure, ⟨disk, console, shown⟩)
  | some path =>
    match d.document? s.layout with
    | .error v => (.error (.violation v), ⟨disk, console, .empty⟩)
    | .ok text =>
      match disk.write path text with
      | .error fault => (.error (.write path fault), ⟨disk, console, .empty⟩)
      | .ok written => (.ok (), ⟨written, console, .empty⟩)

theorem emit_violation (disk : Disk) (console : Console) {d : Dungeon} {s : Settings}
    {v : Violation} (violated : d.document? s.layout = .error v) :
    disk.emit console d s = (.error (.violation v), ⟨disk, console, .empty⟩) := by
  unfold emit
  cases s.output with
  | none =>
    simp only [Dungeon.writeTo_violation violated]
    rfl
  | some path => simp only [violated]

/-- What a run with a command line comes to, and the scene after it. -/
def course (disk : Disk) (console : Console) (a : Arguments) (environment : Environment) :
    Except RunError Unit × Scene :=
  match disk.settings a environment with
  | .error e => (.error e, ⟨disk, console, .empty⟩)
  | .ok s =>
    match disk.dungeon a.manifest with
    | .error e => (.error e, ⟨disk, console, .empty⟩)
    | .ok d =>
      match if s.skipRules then (.ok (), disk) else disk.review d s.strict a.report with
      | (.error e, after) => (.error e, ⟨after, console, .empty⟩)
      | (.ok (), after) => after.emit console d s

end Disk

namespace Stage

variable {α β : Type} {x : Stage α} {f : α → Stage β} {s s' s'' : Scene}

theorem leads_pure (a : α) : Leads (pure a : Stage α) s (.ok a) s := by
  intro logged
  exact ⟨logged, rfl⟩

theorem leads_throw (e : RunError) : Leads (throw e : Stage α) s (.error e) s := by
  intro logged
  exact ⟨logged, rfl⟩

theorem run_bind_ok {a : α} {w w' : World} (first : x.run w = (.ok a, w')) :
    (x >>= f).run w = (f a).run w' := by
  rw [ExceptT.run_bind]
  simp only [Bind.bind, StateT.bind, first]

theorem run_bind_error {e : RunError} {w w' : World} (first : x.run w = (.error e, w')) :
    (x >>= f).run w = (.error e, w') := by
  rw [ExceptT.run_bind]
  simp only [Bind.bind, StateT.bind, first]
  rfl

theorem run_lift (x : StateM World α) (w : World) :
    (ExceptT.lift x : Stage α).run w = (.ok (x.run w).1, (x.run w).2) := by
  rw [ExceptT.run_lift]
  exact StateT.run_map Except.ok x w

theorem Leads.bind {a : α} {r : Except RunError β} (first : x.Leads s (.ok a) s')
    (next : (f a).Leads s' r s'') : (x >>= f).Leads s r s'' := by
  intro logged
  obtain ⟨between, ranFirst⟩ := first logged
  obtain ⟨after, ranNext⟩ := next between
  exact ⟨after, (run_bind_ok ranFirst).trans ranNext⟩

theorem Leads.bind_error {e : RunError} (first : x.Leads s (.error e) s') :
    (x >>= f).Leads s (.error e) s' := by
  intro logged
  obtain ⟨after, ran⟩ := first logged
  exact ⟨after, run_bind_error ran⟩

theorem leads_log (filter : LogFilter) (level : LogLevel) (target message : String) :
    Leads (Program.log World.host filter level target message) s (.ok ()) s := by
  intro logged
  unfold Program.log
  split
  · exact ⟨_, rfl⟩
  · exact ⟨logged, rfl⟩

theorem leads_logFindings (filter : LogFilter) (fs : List Finding) :
    Leads (fs.forM (Program.logFinding World.host filter)) s (.ok ()) s := by
  induction fs with
  | nil => exact leads_pure ()
  | cons f fs ih => exact (leads_log filter _ _ _).bind ih

theorem leads_lift {x : StateM World α} {a : α}
    (ran : ∀ logged, ∃ logged', x.run (s.world logged) = (a, s'.world logged')) :
    Leads (ExceptT.lift x) s (.ok a) s' := by
  intro logged
  obtain ⟨after, run⟩ := ran logged
  refine ⟨after, ?_⟩
  rw [run_lift, run]

theorem locate?_run (path : String) (w : World) :
    (Program.locate? World.host path).run w = (w.disk.locate? path, w) := by
  unfold Program.locate? Disk.locate?
  have opened : (World.host.open? path).run w = (w.disk.open? path, w) := rfl
  rw [StateT.run_bind, opened]
  cases w.disk.open? path with
  | some f => rfl
  | none => cases Path.withSuffix? path <;> rfl

theorem leads_locate? (path : String) :
    Leads (ExceptT.lift (Program.locate? World.host path)) s (.ok (s.disk.locate? path)) s :=
  leads_lift fun logged => ⟨logged, locate?_run path _⟩

theorem leads_load (a : Arguments) (file : Option Config.SourceFile) (environment : Environment) :
    Leads (match Settings.load file environment with
      | .error e => throw (.settings e)
      | .ok s => return s.withArguments a) s
      ((Settings.load file environment).mapError .settings >>= fun s => .ok (s.withArguments a))
      s := by
  cases Settings.load file environment with
  | error e => exact leads_throw (.settings e)
  | ok loaded => exact leads_pure (loaded.withArguments a)

theorem leads_loadSettings (a : Arguments) (environment : Environment) :
    Leads (Program.loadSettings World.host a environment) s (s.disk.settings a environment) s := by
  unfold Program.loadSettings Disk.settings
  cases a.config with
  | none => exact leads_load a none environment
  | some path =>
    refine (leads_locate? path).bind ?_
    cases found : s.disk.locate? path with
    | none =>
      have missing : s.disk.settingsFile (some path) = .error (.settings (.notFound path)) := by
        simp only [Disk.settingsFile, found]
      rw [missing]
      exact (leads_throw _).bind_error
    | some f =>
      have there : s.disk.settingsFile (some path) = .ok (some f) := by
        simp only [Disk.settingsFile, found]
      rw [there]
      exact leads_load a (some f) environment

theorem leads_loadDungeon (filter : LogFilter) (path : String) :
    Leads (Program.loadDungeon World.host filter path) s (s.disk.dungeon path) s := by
  unfold Program.loadDungeon Disk.dungeon Disk.manifest
  refine (leads_locate? path).bind ?_
  cases s.disk.locate? path with
  | none => exact leads_throw (.manifest path (.notFound path))
  | some f =>
    cases read : Manifest.ofFile f with
    | error e =>
      simp only [read]
      exact leads_throw (.manifest path e)
    | ok m =>
      simp only [read]
      change Leads _ s (m.build.mapError .build) s
      cases m.build with
      | error e => exact leads_throw (.build e)
      | ok d => exact (leads_log _ _ _ _).bind (leads_pure d)

theorem leads_makeDocument (filter : LogFilter) (d : Dungeon) (layout : Json.Layout) :
    Leads (Program.makeDocument World.host filter d layout) s
      ((d.document? layout).mapError .violation) s := by
  unfold Program.makeDocument
  refine (leads_log _ _ _ _).bind ?_
  cases d.document? layout with
  | error v => exact leads_throw (.violation v)
  | ok text =>
    refine (leads_log _ _ _ _).bind ?_
    exact (leads_log _ _ _ _).bind (leads_pure text)

theorem leads_writeFile {path text : String} {disk : Disk}
    (written : s.disk.write path text = .ok disk) :
    Leads (Program.writeFile World.host path text) s (.ok ()) { s with disk } := by
  unfold Program.writeFile
  have ran : Leads (ExceptT.lift (World.host.writeFile path text)) s (.ok (.ok ()))
      { s with disk } := by
    refine leads_lift fun logged => ⟨logged, ?_⟩
    simp only [World.host, StateT.run, Scene.world, written]
  exact ran.bind (leads_pure ())

theorem leads_writeFile_error {path text : String} {fault : FileFault}
    (refused : s.disk.write path text = .error fault) :
    Leads (Program.writeFile World.host path text) s (.error (.write path fault)) s := by
  unfold Program.writeFile
  have ran : Leads (ExceptT.lift (World.host.writeFile path text)) s (.ok (.error fault)) s := by
    refine leads_lift fun logged => ⟨logged, ?_⟩
    simp only [World.host, StateT.run, Scene.world, refused]
  exact ran.bind (leads_throw (.write path fault))

theorem leads_print (text : String) :
    Leads (Program.print World.host text) s
      ((s.console.sink.send text s.shown).1.mapError fun e => .print (s.console.words e))
      { s with shown := (s.console.sink.send text s.shown).2 } := by
  unfold Program.print
  have ran : Leads (ExceptT.lift (World.host.print text)) s
      (.ok ((s.console.sink.send text s.shown).1.mapError s.console.words))
      { s with shown := (s.console.sink.send text s.shown).2 } :=
    leads_lift fun logged => ⟨logged, rfl⟩
  refine ran.bind ?_
  cases (s.console.sink.send text s.shown).1 with
  | error e => exact leads_throw (.print (s.console.words e))
  | ok => exact leads_pure ()

theorem leads_runRules (filter : LogFilter) (d : Dungeon) (strict : Bool) (report : Option String) :
    Leads (Program.runRules World.host filter d strict report) s
      (s.disk.review d strict report).1 { s with disk := (s.disk.review d strict report).2 } := by
  unfold Program.runRules Disk.review
  have judged : ∀ s' : Scene, Leads (if strict && d.inspect.hasErrors then
      throw (.rules d.inspect.errors.length d.name) else pure ()) s' (d.verdict strict) s' := by
    intro s'
    unfold Dungeon.verdict
    split
    · exact leads_throw _
    · exact leads_pure ()
  refine (leads_log _ _ _ _).bind ((leads_logFindings filter _).bind ?_)
  cases report with
  | none => exact judged s
  | some path =>
    cases write : s.disk.write path (Program.reportText d.inspect) with
    | error fault =>
      simp only [write]
      exact (leads_writeFile_error write).bind_error
    | ok disk =>
      simp only [write]
      exact (leads_writeFile write).bind ((leads_log _ _ _ _).bind (judged _))

variable (disk : Disk) (console : Console)

/-- Without an output file the document goes to the console as to any sink. -/
theorem leads_writeDocument (filter : LogFilter) (d : Dungeon) (settings : Settings) :
    Leads (Program.writeDocument World.host filter d settings) ⟨disk, console, .empty⟩
      (disk.emit console d settings).1 (disk.emit console d settings).2 := by
  have made := leads_makeDocument (s := ⟨disk, console, .empty⟩) filter d settings.layout
  unfold Program.writeDocument
  cases document : d.document? settings.layout with
  | error v =>
    rw [document] at made
    rw [disk.emit_violation console document]
    exact made.bind_error
  | ok text =>
    rw [document] at made
    refine made.bind ?_
    unfold Disk.emit
    cases settings.output with
    | none =>
      simp only [Dungeon.writeTo_document document]
      have printed := leads_print (s := ⟨disk, console, .empty⟩) text
      cases sent : (console.sink.send text .empty).1 with
      | error e =>
        simp only [sent] at printed ⊢
        exact printed
      | ok =>
        simp only [sent] at printed ⊢
        exact printed
    | some path =>
      simp only [document]
      cases write : disk.write path text with
      | error fault =>
        exact (leads_writeFile_error write).bind_error
      | ok written =>
        exact (leads_writeFile write).bind (leads_log _ _ _ _)

theorem leads_runWith (filter : LogFilter) (a : Arguments) (environment : Environment) :
    Leads (Program.runWith World.host filter a environment) ⟨disk, console, .empty⟩
      (disk.course console a environment).1 (disk.course console a environment).2 := by
  have loadedSettings := leads_loadSettings (s := ⟨disk, console, .empty⟩) a environment
  have loadedDungeon := leads_loadDungeon (s := ⟨disk, console, .empty⟩) filter a.manifest
  unfold Program.runWith Disk.course
  cases loaded : disk.settings a environment with
  | error e =>
    simp only [loaded] at loadedSettings
    exact loadedSettings.bind_error
  | ok settings =>
    simp only [loaded] at loadedSettings
    refine loadedSettings.bind ?_
    cases built : disk.dungeon a.manifest with
    | error e =>
      simp only [built] at loadedDungeon
      exact loadedDungeon.bind_error
    | ok d =>
      simp only [built] at loadedDungeon
      refine loadedDungeon.bind ((leads_log _ _ _ _).bind ?_)
      by_cases skipped : settings.skipRules = true
      · simp only [if_pos skipped]
        by_cases report : a.report.isSome = true
        · rw [if_pos report]
          exact (leads_log _ _ _ _).bind (leads_writeDocument disk console filter d settings)
        · rw [if_neg report]
          exact leads_writeDocument disk console filter d settings
      · have reviewed := leads_runRules (s := ⟨disk, console, .empty⟩) filter d settings.strict
          a.report
        simp only [if_neg skipped]
        cases verdict : disk.review d settings.strict a.report with
        | mk result after =>
          simp only [verdict] at reviewed ⊢
          cases result with
          | error e => exact reviewed.bind_error
          | ok => exact reviewed.bind (leads_writeDocument after console filter d settings)

end Stage

namespace World

theorem run_before (disk : Disk) (console : Console) (environment : Environment)
    {words : List String} {a : Arguments} (parsed : Arguments.parse words = .ok a) :
    ∃ logged, (World.before disk console).run words environment =
      (match (disk.course console a environment).1 with
        | .ok () => .done
        | .error e => .failed e,
       (disk.course console a environment).2.world logged) := by
  obtain ⟨logged, ran⟩ := Stage.leads_runWith disk console
    (LogFilter.choose (environment.lookup Program.logVariable) a.verbosity) a environment []
  refine ⟨logged, ?_⟩
  unfold World.run Program.run
  rw [parsed]
  simp only [bind, StateT.bind, World.before]
  dsimp only [Scene.world] at ran
  rw [ran]
  cases (disk.course console a environment).1 with
  | error e => rfl
  | ok => rfl

end World

end DungeonForge
