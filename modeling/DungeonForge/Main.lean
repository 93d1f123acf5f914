import DungeonForge.Run.Program

/-!
The command line program: the surroundings of a real run.
-/

namespace DungeonForge.Main

def faultOf : IO.Error → FileFault
  | .noFileOrDirectory _ _ _ => .noSuchEntry
  | .inappropriateType _ 20 _ => .notADirectory
  | .inappropriateType _ 21 _ => .isADirectory
  | .permissionDenied _ 13 _ => .other "Permission denied (os error 13)"
  | .resourceExhausted _ 28 _ => .other "No space left on device (os error 28)"
  | .resourceVanished 32 _ => .other "Broken pipe (os error 32)"
  | e => .other (toString e)

def host : Host IO where
  open? path := do
    let here := Path.names (toString (← IO.currentDir))
    try
      return some ⟨Path.seenFrom here path, ← IO.FS.readFile path⟩
    catch _ => return none
  writeFile path text := do
    try
      IO.FS.writeFile path text
      return .ok ()
    catch e => return .error (faultOf e)
  print text := do
    let out ← IO.getStdout
    try
      out.putStr text
      out.flush
      return .ok ()
    catch e => return .error (faultOf e).message
  log r := do
    let err ← IO.getStderr
    for line in r.lines do
      err.putStrLn line

/-- The variables in a text where each ends with a null character. -/
def variablesOf (text : String) : List (String × String) :=
  (text.splitOn "\x00").filterMap fun entry =>
    match entry.splitOn "=" with
    | name :: value :: more => some (name, "=".intercalate (value :: more))
    | _ => none

def environment : IO Environment := do
  try
    return variablesOf (← IO.FS.readFile "/proc/self/environ")
  catch _ => return []

def reportText (causes : List String) : String :=
  "Error: " ++ "\n  caused by: ".intercalate causes

end DungeonForge.Main

open DungeonForge in
def main (words : List String) : IO UInt32 := do
  let outcome ← Program.run Main.host words (← Main.environment)
  match outcome with
  | .usage _ => pure ()
  | .done => pure ()
  | .failed e => IO.eprintln (Main.reportText e.causes)
  return UInt32.ofNat outcome.exitStatus
