import Scoreboard.Score
import Scoreboard.Text.Quoted

namespace Scoreboard

inductive Cause
  /-- More than one space, or another blank, before the token. -/
  | extraWhitespace (token : String)
  | trailingWhitespace
  | unexpectedSymbol (expected : String) (found : Char)
  | unexpectedEnd (expected : String)
  | unknownCommand (command : String)
  | unknownKeyword (what found : String) (options : List String)
  | integerOutOfRange (literal : String) (minimum maximum : Int)
  | unclosedString
  /-- Two dots without a bound on either side. -/
  | invalidInterval
  | trailingCharacters (rest : String)
  deriving Repr, DecidableEq

/-- A cause and the number of characters before the place that it is found at. -/
structure SyntaxError where
  cause : Cause
  position : Nat
  deriving Repr, DecidableEq

/-- Why a text gives no command: a mistake in it, or a numeral with more digits than are read. -/
inductive ParseError
  | invalid (e : SyntaxError)
  | numeralTooLong
  deriving Repr, DecidableEq

def unboundedInterval : String := ".."

def Cause.message : Cause → String
  | extraWhitespace token => "Expected exactly one space before " ++ Text.quote token
  | trailingWhitespace => "Unexpected whitespace at the end of the input"
  | unexpectedSymbol expected found =>
    "Expected " ++ expected ++ " but got " ++ Text.quote (String.singleton found) ++ " instead"
  | unexpectedEnd expected => "Expected " ++ expected ++ " but reached the end of the input"
  | unknownCommand command => "Unknown command " ++ Text.quote command
  | unknownKeyword what found options =>
    "Unknown " ++ what ++ " " ++ Text.quote found ++ ". Expected one of: " ++
      ", ".intercalate options
  | integerOutOfRange literal minimum maximum =>
    "Integer " ++ literal ++ " is out of range [" ++ toString minimum ++ ", " ++ toString maximum ++
      "]"
  | unclosedString => "Unclosed string"
  | invalidInterval => "Expected an integer or a range but got " ++ Text.quote unboundedInterval
  | trailingCharacters rest => "Unexpected trailing characters " ++ Text.quote rest

/-- Columns count from one. -/
def SyntaxError.message (e : SyntaxError) : String :=
  "column " ++ toString (e.position + 1) ++ ": " ++ e.cause.message

end Scoreboard
