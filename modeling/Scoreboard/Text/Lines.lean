import Scoreboard.Text.Basic

namespace Scoreboard.Text

/-- The characters that end a line of a file: line feed, vertical tab, form feed, carriage return,
the separators of file, group and record, next line, and the separators of lines and paragraphs. -/
def isBreak (c : Char) : Bool :=
  inRanges [(0xa, 0xd), (0x1c, 0x1e), (0x85, 0x85), (0x2028, 0x2029)] c.toNat

def consHead (c : Char) : List (List Char) → List (List Char)
  | [] => [[c]]
  | line :: rest => (c :: line) :: rest

/-- The lines of a text, without the characters that end them. A carriage return and the line feed
after it are one line end, and no empty line follows the last line end. -/
def lines : List Char → List (List Char)
  | [] => []
  | '\r' :: '\n' :: s => [] :: lines s
  | c :: s => if isBreak c then [] :: lines s else consHead c (lines s)

/-- A text in which a carriage return, with or without a line feed after it, is a line feed. -/
def unifyLineEnds : List Char → List Char
  | [] => []
  | '\r' :: '\n' :: s => '\n' :: unifyLineEnds s
  | '\r' :: s => '\n' :: unifyLineEnds s
  | c :: s => c :: unifyLineEnds s

/-- A text in which a carriage return and a line feed after it are one line feed. Other carriage
returns stay. -/
def joinLineEnds : List Char → List Char
  | [] => []
  | '\r' :: '\n' :: s => '\n' :: joinLineEnds s
  | c :: s => c :: joinLineEnds s

/-- The pieces of a text between the places where a mark stands; at least one. -/
def pieces (mark : Char) : List Char → List (List Char)
  | [] => [[]]
  | c :: s => if c == mark then [] :: pieces mark s else consHead c (pieces mark s)

def splitFeeds (s : List Char) : List (List Char) :=
  pieces '\n' s

def fileLines (s : String) : List String :=
  (lines s.toList).map String.ofList

end Scoreboard.Text
