import Scoreboard.CommandLine.Report

namespace Scoreboard

namespace Prompt

inductive Next
  | again (game : State)
  | ended (ending : Ending)

/-- The lines of an input. No line begins after the last line end. -/
def inputLines (input : String) : List String :=
  let pieces := (Text.splitFeeds (Text.unifyLineEnds input.toList)).map String.ofList
  if pieces.getLast? = some "" then pieces.dropLast else pieces

def isFarewell (line : String) : Bool :=
  ["exit", "quit"].contains (Text.trimmed line)

def step (rules : Rules) (game : State) (line : String) : List (Channel × String) × Next :=
  if isFarewell line then ([], .ended (.exit 0))
  else
    let played := rules.runLine line game
    let shown := shownEvents played.events
    match played.result with
    | .ok _ => (shown, .again played.state)
    | .error e =>
      match shownError "" line e with
      | .ok printed => (shown ++ printed, .again played.state)
      | .error why => (shown, .ended (.aborted why))

/-- Answers lines until one ends it or there are no more. The prompt is shown before each line, and
before the end of the input is met. -/
def answer (rules : Rules) (prompt : String) : List String → State → Report
  | [], _ => ⟨[(.output, prompt)], .exit 0⟩
  | line :: rest, game =>
    let (printed, next) := step rules game line
    match next with
    | .ended ending => ⟨(.output, prompt) :: printed, ending⟩
    | .again after => (answer rules prompt rest after).after ((.output, prompt) :: printed)

end Prompt

end Scoreboard
