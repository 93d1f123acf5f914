import DungeonForge.Run.Program

/-!
A run as a function: the program on a disk and with a console that are values. What it prints and
logs is collected.
-/

namespace DungeonForge

/-- Where a run prints: a sink, and what the system says of its failures. -/
structure Console where
  sink : Sink
  words : SinkError → String

namespace Console

def steady : Console :=
  ⟨⟨none, none, .takesNothing, 0, false⟩, SinkError.detail⟩

end Console

structure World where
  disk : Disk
  console : Console
  shown : Transcript
  logged : List LogRecord

namespace World

/-- The world before a run. -/
def before (disk : Disk) (console : Console) : World :=
  ⟨disk, console, .empty, []⟩

def start (disk : Disk) : World :=
  before disk .steady

def printed (w : World) : String :=
  Text.ofCutBytes w.shown.received

def host : Host (StateM World) where
  open? path := fun w => (w.disk.open? path, w)
  writeFile path text := fun w =>
    match w.disk.write path text with
    | .ok disk => (.ok (), { w with disk })
    | .error fault => (.error fault, w)
  print text := fun w =>
    let (result, shown) := w.console.sink.send text w.shown
    (result.mapError w.console.words, { w with shown })
  log r := fun w => ((), { w with logged := w.logged ++ [r] })

def run (w : World) (words : List String) (environment : Environment) : Outcome × World :=
  Program.run host words environment w

end World

end DungeonForge
