import ProxyHeaders.Console.Wrap

/-!
Tables of two columns and framed texts.
-/
namespace ProxyHeaders.Console

def spaces (count : Nat) : String := String.ofList (List.replicate count ' ')

def ruled (count : Nat) : String := String.ofList (List.replicate count '─')

def widest (texts : List String) : Nat := (texts.map Text.width).foldl max 0

def tableMargin : Nat := 7

/-- A row with its value in as many lines as it needs. -/
def tableRow (nameWidth valueWidth : Nat) (row : String × String) : List String :=
  let label := spaces 2 ++ row.1 ++ spaces (nameWidth + 3 - Text.width row.1)
  match wrapCropped valueWidth row.2 with
  | [] => [label]
  | first :: rest => (label ++ first) :: rest.map (spaces (nameWidth + 5) ++ ·)

def table (title : String) (head : String × String) (rows : List (String × String)) :
    List String :=
  let nameWidth := widest (head.1 :: rows.map (·.1))
  let needed := widest (head.2 :: rows.flatMap fun row => Text.splitLines row.2)
  let valueWidth := min needed (terminalWidth - nameWidth - tableMargin)
  let total := nameWidth + valueWidth + tableMargin
  [spaces ((total - Text.width title) / 2) ++ title, ""] ++ tableRow nameWidth valueWidth head ++
    [" " ++ ruled (total - 2)] ++ rows.flatMap (tableRow nameWidth valueWidth) ++ [""]

/-- A text in a frame as wide as the terminal, with a title in the upper edge. -/
def panel (title text : String) : List String :=
  let inside := terminalWidth - 2
  let excess := inside - Text.width title - 2
  let upper := "╭" ++ ruled (excess / 2) ++ " " ++ title ++ " " ++ ruled (excess - excess / 2) ++ "╮"
  let lower := "╰" ++ ruled inside ++ "╯"
  upper :: (wrap (inside - 2) text).map (fun line => "│ " ++ padTo (inside - 2) line ++ " │") ++
    [lower]

end ProxyHeaders.Console
