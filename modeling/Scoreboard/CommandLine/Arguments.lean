namespace Scoreboard

inductive Action
  | repl (datapack : Option String)
  | run (file : String) (datapack : Option String)
  | call (path function : Option String)
  | lower (text : String)
  | check (file : String)
  deriving Repr, DecidableEq

inductive ActionName
  | repl | run | call | lower | check
  deriving Repr, DecidableEq

def ActionName.all : List ActionName := [.repl, .run, .call, .lower, .check]

def ActionName.word : ActionName → String
  | repl => "repl"
  | run => "run"
  | call => "datapack"
  | lower => "lower"
  | check => "check"

def ActionName.option? : ActionName → Option String
  | repl => some "--datapack"
  | run => some "--datapack"
  | call => some "--function"
  | lower => none
  | check => none

namespace Arguments

def isOption (arg : String) : Bool :=
  arg.startsWith "-" && 1 < arg.length

def action? : List String → Option (ActionName × List String)
  | [] => none
  | "--" :: rest => named? rest
  | arg :: rest => if isOption arg then none else named? (arg :: rest)
where
  named? : List String → Option (ActionName × List String)
    | [] => none
    | arg :: rest => (ActionName.all.find? fun a => a.word = arg).map fun a => (a, rest)

/-- The value of an option that is written with an equals sign. -/
def inlineValue? (option arg : String) : Option String :=
  ((option ++ "=").toList.isPrefixOf? arg.toList).map String.ofList

/-- The option's last value and the other arguments in order, or nothing if there is an unknown
option or one without a value. -/
def split? (option : Option String) : List String → Option (Option String × List String)
  | [] => some (none, [])
  | arg :: rest =>
    if arg = "--" then some (none, rest)
    else if isOption arg then
      match option with
      | none => none
      | some name =>
        if arg = name then
          match rest with
          | [] => none
          | value :: rest =>
            (split? option rest).map fun found => (found.1.or (some value), found.2)
        else
          match inlineValue? name arg with
          | some value => (split? option rest).map fun found => (found.1.or (some value), found.2)
          | none => none
    else (split? option rest).map fun found => (found.1, arg :: found.2)

/-- The action that a name and the arguments after it ask for, if they do. -/
def resolve? (name : ActionName) (args : List String) : Option Action := do
  let (option, others) ← split? name.option? args
  match name, others with
  | .repl, [] => some (.repl option)
  | .run, [file] => some (.run file option)
  | .call, [] => some (.call none option)
  | .call, [path] => some (.call (some path) option)
  | .lower, [text] => some (.lower text)
  | .check, [file] => some (.check file)
  | _, _ => none

end Arguments

end Scoreboard
