import ProxyHeaders.Text.Lines
import ProxyHeaders.Text.Width

/-!
Text in lines that fit a terminal. A line is broken between words. A word that is wider than a
line is either broken too or cropped.
-/
namespace ProxyHeaders.Console

def terminalWidth : Nat := 200

def tabStop : Nat := 8

/-- Fills tabs up to the next stop; `column` is where the text starts. -/
def expandTabs (column : Nat) : List Char → List Char
  | [] => []
  | '\t' :: rest =>
    let size := tabStop - column % tabStop
    List.replicate size ' ' ++ expandTabs (column + size) rest
  | c :: rest => c :: expandTabs (column + Text.cellsOf c) rest

/-- Words with the blanks behind them; the first also has the blanks in front of it. `inWord` says
whether the word at hand has begun, `ended` whether blanks have followed it. -/
def wordsFrom (inWord ended : Bool) (read : List Char) : List Char → List (List Char)
  | [] => if inWord then [read.reverse] else []
  | c :: rest =>
    if Text.isBlank c then wordsFrom inWord inWord (c :: read) rest
    else if ended then read.reverse :: wordsFrom true false [c] rest
    else wordsFrom true false (c :: read) rest

def words (line : List Char) : List (List Char) := wordsFrom false false [] line

def chop (width used : Nat) (read : List Char) : List Char → List (List Char)
  | [] => [read.reverse]
  | c :: rest =>
    let cells := Text.cellsOf c
    if used + cells > width then read.reverse :: chop width cells [c] rest
    else chop width (used + cells) (c :: read) rest

inductive WideWord where
  | folded
  | cropped
  deriving DecidableEq, Repr

/-- Lays words out in lines; `line` is the line at hand and `used` its width. A word to be cropped
takes a line of its own and is still whole. -/
def layWords (wide : WideWord) (width : Nat) (line : List Char) (used : Nat) :
    List (List Char) → List (List Char)
  | [] => [line]
  | word :: rest =>
    let bare := Text.cellsOfAll (Text.dropEnd Text.isBlank word)
    let before := if line.isEmpty then [] else [line]
    if used + bare ≤ width then
      layWords wide width (line ++ word) (used + Text.cellsOfAll word) rest
    else if bare > width then
      match wide with
      | .folded =>
        let pieces := chop width 0 [] word
        let last := pieces.getLastD []
        before ++ pieces.dropLast ++ layWords wide width last (Text.cellsOfAll last) rest
      | .cropped => before ++ layWords wide width word (Text.cellsOfAll word) rest
    else if line.isEmpty then layWords wide width word used rest
    else line :: layWords wide width word (Text.cellsOfAll word) rest

def layLine (wide : WideWord) (width : Nat) (line : String) : List (List Char) :=
  let chars := if line.toList.contains '\t' then expandTabs 0 line.toList else line.toList
  match words chars with
  | [] => [chars]
  | words => layWords wide width [] 0 words

def wrap (width : Nat) (text : String) : List String :=
  ((Text.splitLines text).flatMap (layLine .folded width)).map String.ofList

/-- The longest start of a line within a width. A blank stands for the first cell of a character
of two that does not fit. -/
def takeCells (width : Nat) : List Char → List Char
  | [] => []
  | c :: rest =>
    if Text.cellsOf c ≤ width then c :: takeCells (width - Text.cellsOf c) rest
    else List.replicate width ' '

/-- Drops blanks at the end of a line, as many as it has characters too many. -/
def dropExcessBlanks (size : Nat) (line : List Char) : List Char :=
  let blanks := line.length - (Text.dropEnd Text.isBlank line).length
  line.take (line.length - min blanks (line.length - size))

def crop (width : Nat) (line : List Char) : List Char :=
  let line := dropExcessBlanks width line
  if Text.cellsOfAll line > width then takeCells (width - 1) line ++ ['…'] else line

def wrapCropped (width : Nat) (text : String) : List String :=
  ((Text.splitLines text).flatMap (layLine .cropped width)).map fun line =>
    String.ofList (crop width line)

def padTo (width : Nat) (line : String) : String :=
  let line := Text.trimEnd line
  line ++ String.ofList (List.replicate (width - Text.width line) ' ')

end ProxyHeaders.Console
