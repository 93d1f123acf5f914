import DungeonForge.Document.Sink
import DungeonForge.Manifest.Build
import DungeonForge.Manifest.Load
import DungeonForge.Rules.Inspect
import DungeonForge.Run.Disk
import DungeonForge.Run.Log
import DungeonForge.Run.Settings

/-!
The whole program over any host that can read and write files, print and log. Settings are read
first, then the manifest; the rules are run unless they are skipped, and their findings are logged
and, on request, written to a file; a strict run stops at an error. Last, the document is written to
the output file or printed. Nothing is printed or written for a run that fails before that, but for
the findings.
-/

namespace DungeonForge

structure Host (m : Type → Type) where
  open? : String → m (Option Config.SourceFile)
  writeFile : String → String → m (Except FileFault Unit)
  /-- Prints a text and flushes, or says in the words of the system why that failed. -/
  print : String → m (Except String Unit)
  log : LogRecord → m Unit

inductive RunError
  | settings (e : Config.LoadError)
  | manifest (path : String) (e : Config.LoadError)
  | build (e : BuildError)
  | rules (errors : Nat) (dungeon : String)
  | violation (v : Violation)
  | write (path : String) (fault : FileFault)
  | print (detail : String)
deriving DecidableEq, Repr

namespace RunError

def causes : RunError → List String
  | .settings e => ["loading settings", e.message]
  | .manifest path e => ["reading manifest " ++ path, e.message]
  | .build e => e.chain
  | .rules errors dungeon => [toString errors ++ " design rule error(s) in '" ++ dungeon ++ "'"]
  | .violation v => [v.message]
  | .write path fault => ["writing " ++ path, fault.message]
  | .print detail => [WriteError.sinkMessage detail, detail]

end RunError

inductive Outcome
  | usage (e : UsageError)
  | failed (e : RunError)
  | done
deriving DecidableEq, Repr

namespace Outcome

def exitStatus : Outcome → Nat
  | .usage e => e.exitStatus
  | .failed _ => 1
  | .done => 0

def causes : Outcome → List String
  | .failed e => e.causes
  | _ => []

end Outcome

namespace Program

def versionLine : String := "dungeon-gen 0.1.0\n"

def logVariable : String := "RUST_LOG"

variable {m : Type → Type} [Monad m] (host : Host m) (filter : LogFilter)

def log (level : LogLevel) (target message : String) : ExceptT RunError m Unit :=
  if filter.shows ⟨level, target, message⟩ then ExceptT.lift (host.log ⟨level, target, message⟩)
  else pure ()

def locate? (path : String) : m (Option Config.SourceFile) := do
  match ← host.open? path, Path.withSuffix? path with
  | some f, _ => return some f
  | none, some suffixed => host.open? suffixed
  | none, none => return none

def loadSettings (a : Arguments) (environment : Environment) :
    ExceptT RunError m Settings := do
  let file ← match a.config with
    | none => pure none
    | some path =>
      match ← ExceptT.lift (locate? host path) with
      | none => throw (.settings (.notFound path))
      | some f => pure (some f)
  match Settings.load file environment with
  | .error e => throw (.settings e)
  | .ok s => return s.withArguments a

def loadDungeon (path : String) : ExceptT RunError m Dungeon := do
  match ← ExceptT.lift (locate? host path) with
  | none => throw (.manifest path (.notFound path))
  | some f =>
    match Manifest.ofFile f with
    | .error e => throw (.manifest path e)
    | .ok manifest =>
      match manifest.build with
      | .error e => throw (.build e)
      | .ok d =>
        log host filter .debug "dungeon_gen::manifest"
          ("loaded dungeon '" ++ d.name ++ "' with " ++ toString d.floors.length ++ " floors")
        return d

def writeFile (path text : String) : ExceptT RunError m Unit := do
  match ← ExceptT.lift (host.writeFile path text) with
  | .ok () => return ()
  | .error fault => throw (.write path fault)

def print (text : String) : ExceptT RunError m Unit := do
  match ← ExceptT.lift (host.print text) with
  | .ok () => return ()
  | .error detail => throw (.print detail)

def logFinding (f : Finding) : ExceptT RunError m Unit :=
  log host filter (match f.severity with
    | .error => .error
    | .warning => .warn) "dungeon_gen" (f.subject ++ ": " ++ f.line)

def reportText (r : Report) : String :=
  String.ofList (r.toJson.write (.pretty 2) 0)

def runRules (d : Dungeon) (strict : Bool) (reportPath : Option String) :
    ExceptT RunError m Unit := do
  let r := d.inspect
  log host filter .debug "dungeon_rules"
    ("design rules for '" ++ d.name ++ "': " ++ toString r.errors.length ++ " errors, " ++
      toString r.warnings.length ++ " warnings")
  r.findings.forM (logFinding host filter)
  if let some path := reportPath then
    writeFile host path (reportText r)
    log host filter .info "dungeon_gen"
      ("wrote " ++ toString r.findings.length ++ " design rule finding(s) to " ++ path)
  if strict && r.hasErrors then
    throw (.rules r.errors.length d.name)

def makeDocument (d : Dungeon) (layout : Json.Layout) : ExceptT RunError m String := do
  log host filter .debug "dungeon_json::validate" ("validating dungeon '" ++ d.name ++ "'")
  match d.document? layout with
  | .error v => throw (.violation v)
  | .ok text =>
    log host filter .debug "dungeon_json::validate"
      ("dungeon '" ++ d.name ++ "' valid: " ++ toString d.floors.length ++ " floors, " ++
        toString d.roomNames.eraseDups.length ++ " rooms")
    log host filter .debug "dungeon_json"
      ("rendered dungeon '" ++ d.name ++ "' (" ++ toString text.utf8ByteSize ++ " bytes)")
    return text

def writeDocument (d : Dungeon) (s : Settings) : ExceptT RunError m Unit := do
  let text ← makeDocument host filter d s.layout
  match s.output with
  | none => print host text
  | some path =>
    writeFile host path text
    log host filter .info "dungeon_gen" ("wrote " ++ path)

def runWith (a : Arguments) (environment : Environment) : ExceptT RunError m Unit := do
  let s ← loadSettings host a environment
  let d ← loadDungeon host filter a.manifest
  log host filter .info "dungeon_gen"
    ("dungeon '" ++ d.name ++ "': " ++ toString d.floors.length ++ " floors, " ++
      toString d.allRooms.length ++ " rooms")
  if s.skipRules then
    if a.report.isSome then
      log host filter .warn "dungeon_gen" "design rules are skipped, no report written"
  else
    runRules host filter d s.strict a.report
  writeDocument host filter d s

/-- A run with the words after the program's name and the variables of its environment. -/
def run (words : List String) (environment : Environment) : m Outcome := do
  match Arguments.parse words with
  | .error .versionWanted =>
    -- it is no failure if nobody takes the line
    let _ ← host.print versionLine
    return .usage .versionWanted
  | .error e => return .usage e
  | .ok a =>
    let filter := LogFilter.choose (environment.lookup logVariable) a.verbosity
    match ← (runWith host filter a environment).run with
    | .ok () => return .done
    | .error e => return .failed e

end Program

end DungeonForge
