import Scoreboard.Text.CellRanges
import Scoreboard.Text.Lines

namespace Scoreboard.Text

def isDropped (c : Char) : Bool :=
  c.toNat == 0x7 || c.toNat == 0x8 || c.toNat == 0xb || c.toNat == 0xc || c.toNat == 0xd

/-- How many cells of a line a character fills by itself. -/
def cellWidth (c : Char) : Nat :=
  if c.toNat < 0x20 || (0x7f ≤ c.toNat && c.toNat < 0xa0) then 0
  else if inRanges markRanges c.toNat then 0
  else if inRanges wideRanges c.toNat then 2
  else 1

def isWidened (c : Char) : Bool :=
  inRanges widenedRanges c.toNat

/-- How many cells a text fills after another, in which `last` is the last character with cells of
its own that no emoji selector follows. The zero width joiner draws the character after it into the
one before, so that neither fills a cell. -/
def cellsAfter (last : Option Char) : List Char → Nat
  | [] => 0
  | ['\u200d'] => 0
  | '\u200d' :: _ :: s => cellsAfter last s
  | '\ufe0f' :: s => (if last.any isWidened then 1 else 0) + cellsAfter none s
  | c :: s =>
    let width := cellWidth c
    width + cellsAfter (if width == 0 then last else some c) s

def cells (s : List Char) : Nat :=
  cellsAfter none s

def tabWidth : Nat := 8

/-- The pieces of a line between its tabs, joined by spaces: a tab fills one cell at least, and ends
at a multiple of eight cells. `column` cells stand before the pieces. -/
def joinAtStops (column : Nat) : List (List Char) → List Char
  | [] => []
  | [piece] => piece
  | piece :: rest =>
    let reached := column + cells (piece ++ [' '])
    let stop := (reached + tabWidth - 1) / tabWidth * tabWidth
    piece ++ List.replicate (1 + (stop - reached)) ' ' ++ joinAtStops stop rest

def expandTabs (line : List Char) : List Char :=
  joinAtStops 0 (pieces '\t' line)

/-- A text as it is printed, with a line feed at its end. -/
def printed (s : String) : String :=
  let kept := s.toList.filter fun c => !isDropped c
  String.ofList (['\n'].intercalate ((splitFeeds kept).map expandTabs) ++ ['\n'])

end Scoreboard.Text
