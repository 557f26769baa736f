import Scoreboard.CommandLine.Program
import Scoreboard.Files.Archive

namespace Scoreboard.Main

/-- The variables of the environment that make settings, and those with the given names. -/
def environment (others : List String) : IO (List (String × String)) := do
  let names := ["app_name", "log_level", "datapack_path", "entry_function", "max_function_depth",
    "colored_output", "prompt"].map fun name => Settings.variablePrefix ++ name
  (others ++ names ++ names.map String.toUpper).filterMapM fun name => do
    return (← IO.getEnv name).map fun value => (name, value)

def readFile (path : String) : IO (Except FileError ByteArray) := do
  if (Path.ofText path).hasZero then return .error .zeroWithin
  if (Path.ofText path).isLong then return .error .tooLong
  let place := (← IO.currentDir) / path
  if ← place.isDir then return .error .isDirectory
  if !(← place.pathExists) then return .error .notFound
  return .ok (← IO.FS.readBinFile place)

/-- All that lies below a directory; `lead` is the path from where the listing began. -/
partial def listBelow (directory lead : String) : IO (List (String × Node)) := do
  let mut nodes := []
  for entry in ← ((← IO.currentDir) / directory).readDir do
    let path := directory ++ "/" ++ entry.fileName
    match ← readFile path with
    | .ok bytes => nodes := nodes ++ [(lead ++ entry.fileName, Node.file bytes)]
    | .error _ =>
      nodes := nodes ++ [(lead ++ entry.fileName, Node.directory)] ++
        (← listBelow path (lead ++ entry.fileName ++ "/"))
  return nodes

def storageAt (path : String) : IO Storage := do
  match ← readFile path with
  | .error .isDirectory => return .directory (← listBelow path "")
  | .error .tooLong => return .unreachable
  | .error _ => return .absent
  | .ok bytes =>
    match Archive.ofBytes? bytes with
    | some members => return .archive members
    | none => return .plain

def find (settings : Settings) (home : Option String) (action : Action) : IO Found := do
  let place (path : String) : Option String := ((Path.ofText path).expandHome? home).map Path.toText
  let pack ← match (action.packPath? settings).bind place with
    | some path => some <$> storageAt path
    | none => pure none
  let file ← match action.filePath?.map place with
    | some (some path) => readFile path
    | some none => pure (.error .noHome)
    | none => pure (.error .notFound)
  return ⟨pack, file⟩

def print (pieces : List (Channel × String)) : IO Unit := do
  for (channel, text) in pieces do
    match channel with
    | .output =>
      IO.print text
      (← IO.getStdout).flush
    | .errors => IO.eprint text

def finish : Ending → IO UInt32
  | .exit code => return code.toUInt32
  | .misuse => do
    IO.eprintln "usage: repl | run FILE | datapack [PATH] | lower TEXT | check FILE"
    return 2
  | .aborted _ => do
    IO.eprintln "the program cannot go on"
    return 1

partial def converse (rules : Rules) (prompt : String) (game : State) : IO UInt32 := do
  print [(.output, prompt)]
  let line ← (← IO.getStdin).getLine
  if line.isEmpty then
    finish (.exit 0)
  else
    let (printed, next) := Prompt.step rules game (String.ofList (Text.chomp line.toList))
    print printed
    match next with
    | .again after => converse rules prompt after
    | .ended ending => finish ending

def run (args : List String) : IO UInt32 := do
  let file ← readFile ".env"
  let others := ((file.toOption.bind EnvFile.read?).map EnvFile.names).getD []
  match Settings.load file (← environment others) with
  | .error .notText =>
    IO.eprintln "the settings are no text"
    return 1
  | .error .badVariable =>
    IO.eprintln "the environment is not valid"
    return 1
  | .error (.faults faults) =>
    for (setting, _) in faults do
      IO.eprintln ("invalid setting: " ++ setting)
    return 1
  | .ok settings =>
    match Program.action settings args with
    | .error report => finish report.ending
    | .ok action =>
      let home ← IO.getEnv "HOME"
      let found ← find settings home action
      match action, Program.loadPack (action.packPath? settings) home found with
      | .repl _, .ok pack => converse (Program.rulesFor settings pack) settings.prompt .empty
      | _, _ =>
        let report := Program.perform settings home found "" action
        print report.printed
        finish report.ending

end Scoreboard.Main

def main (args : List String) : IO UInt32 :=
  Scoreboard.Main.run args
