import Scoreboard.CommandLine.Arguments
import Scoreboard.CommandLine.Prompt
import Scoreboard.Datapack.FunctionName
import Scoreboard.Datapack.Load
import Scoreboard.Settings.Basic

namespace Scoreboard

structure Found where
  /-- Where the datapack is stored, if its path names a place. -/
  pack : Option Storage
  file : Except FileError ByteArray

namespace Action

def nonempty (path : Option String) : Option String :=
  path.filter (· ≠ "")

def packPath? (settings : Settings) (action : Action) : Option String :=
  let given := match action with
    | repl pack => some pack
    | run _ pack => some pack
    | call path _ => some path
    | lower _ => none
    | check _ => none
  given.bind fun path => (nonempty path).or (nonempty settings.datapackPath)

def filePath? : Action → Option String
  | run file _ => some file
  | check file => some file
  | _ => none

end Action

namespace Program

/-- The names of log levels; letters count the same in both cases. -/
def logLevels : List String :=
  ["CRITICAL", "FATAL", "ERROR", "WARN", "WARNING", "INFO", "DEBUG", "NOTSET"]

/-- A letter's capital, as far as the names of log levels go: the dotless i and the long s have
capitals of their own in them. -/
def capital (c : Char) : Char :=
  if c == 'ı' then 'I' else if c == 'ſ' then 'S' else c.toUpper

def isLogLevel (s : String) : Bool :=
  logLevels.contains (String.ofList (s.toList.map capital))

def fileText (file : Except FileError ByteArray) : Except FileError String := do
  match String.fromUTF8? (← file) with
  | some text => .ok (String.ofList (Text.unifyLineEnds text.toList))
  | none => .error .notText

def loadPack (path : Option String) (home : Option String) (found : Found) :
    Except Report (Option Datapack) :=
  match path with
  | none => .ok none
  | some path =>
    let loaded := match (Path.ofText path).expandHome? home, found.pack with
      | some path, some storage => Datapack.load path storage
      | _, _ => .error .noHome
    match loaded with
    | .ok pack => .ok (some pack)
    | .error e =>
      match e.message? with
      | some message => .error ⟨[errorLine message], .exit 1⟩
      | none => .error ⟨[], .aborted (.load e)⟩

/-- Carries out the lines of a file, the first of which has the given number, up to the first
mistake. -/
def runFile (rules : Rules) : Nat → List String → State → Report
  | _, [], _ => ⟨[], .exit 0⟩
  | number, line :: rest, game =>
    let played := rules.runLine line game
    let shown := shownEvents played.events
    match played.result with
    | .ok _ => (runFile rules (number + 1) rest played.state).after shown
    | .error e =>
      match shownError (lineLead number) line e with
      | .ok printed => ⟨shown ++ printed, .exit 1⟩
      | .error why => ⟨shown, .aborted why⟩

/-- Shows the mistakes in the lines of a file, the first of which has the given number. `failed`
says whether one was found before; if there is none at all, `summary` is printed. -/
def checkFile (summary : List (Channel × String)) (failed : Bool) : Nat → List String → Report
  | _, [] => if failed then ⟨[], .exit 1⟩ else ⟨summary, .exit 0⟩
  | number, line :: rest =>
    if isCommandLine line then
      match parse line with
      | .ok _ => checkFile summary failed (number + 1) rest
      | .error (.invalid e) =>
        (checkFile summary true (number + 1) rest).after (shownMistake (lineLead number) line e)
      | .error .numeralTooLong => ⟨[], .aborted .numeralTooLong⟩
    else checkFile summary failed (number + 1) rest

def lowerText (text : String) : Report :=
  match parse text with
  | .error (.invalid e) => ⟨shownMistake "" text e, .exit 1⟩
  | .error .numeralTooLong => ⟨[], .aborted .numeralTooLong⟩
  | .ok c =>
    match c.render with
    | .ok canonical => ⟨[outputLine canonical], .exit 0⟩
    | .error _ => ⟨[], .aborted .stray⟩

def callFunction (rules : Rules) (id : FunctionId) : Report :=
  let o := (Command.function id).run rules .empty
  let shown := shownEvents o.events
  match o.fault with
  | none => ⟨shown, .exit 0⟩
  | some (.selector v) => ⟨shown ++ [errorLine (Fault.selector v).message], .exit 1⟩
  | some (.stray _) => ⟨shown, .aborted .stray⟩
  | some (.unwritable _) => ⟨shown, .aborted .numeralTooLong⟩

def rulesFor (settings : Settings) (pack : Option Datapack) : Rules :=
  ⟨pack, settings.maxFunctionDepth⟩

def perform (settings : Settings) (home : Option String) (found : Found) (input : String)
    (action : Action) : Report :=
  match loadPack (action.packPath? settings) home found with
  | .error report => report
  | .ok pack =>
    let rules := rulesFor settings pack
    match action with
    | .repl _ => Prompt.answer rules settings.prompt (Prompt.inputLines input) .empty
    | .run _ _ =>
      match fileText found.file with
      | .error e => ⟨[], .aborted (.file e)⟩
      | .ok text => runFile rules 1 (Text.fileLines text) .empty
    | .call _ function =>
      match pack with
      | none => ⟨[], .misuse⟩
      | some _ =>
        callFunction rules (.ofText (((function.filter (· ≠ "")).getD settings.entryFunction)))
    | .lower text => lowerText text
    | .check path =>
      match fileText found.file with
      | .error e => ⟨[], .aborted (.file e)⟩
      | .ok text => checkFile [outputLine (path ++ ": ok")] false 1 (Text.fileLines text)

/-- What the arguments ask for; a report says why there is nothing to do. The log level is looked at
before the arguments of the action are. -/
def action (settings : Settings) (args : List String) : Except Report Action :=
  match Arguments.action? args with
  | none => .error ⟨[], .misuse⟩
  | some (name, rest) =>
    if isLogLevel settings.logLevel then
      match Arguments.resolve? name rest with
      | none => .error ⟨[], .misuse⟩
      | some action => .ok action
    else .error ⟨[], .aborted .badLogLevel⟩

def findIn (tree : FileTree) (settings : Settings) (home : Option String) (action : Action) :
    Found where
  pack := ((action.packPath? settings).bind fun path => (Path.ofText path).expandHome? home).map
    tree.storage
  file :=
    match action.filePath?.map fun path => (Path.ofText path).expandHome? home with
    | some (some path) => tree.read path
    | some none => .error .noHome
    | none => .error .notFound

def runIn (tree : FileTree) (settings : Settings) (home : Option String) (args : List String)
    (input : String) : Report :=
  match action settings args with
  | .error report => report
  | .ok action => perform settings home (findIn tree settings home action) input action

end Program

end Scoreboard
