import PairwiseId.Json.Print
import PairwiseId.Text.Basic
import PairwiseId.Unicode.Columns

/- How results are laid out for a reader. Documents become indented lines, a key and
   its value on each: texts stand without quotes, and an item of a list begins on the
   line of its dash, with the indentation that it would have on a line of its own.
   Tables have rounded corners: a cell may have several lines, a row is as high as
   its highest cell and a column as wide as its widest line. -/
namespace PairwiseId.Console

set_option autoImplicit false

def scalarText : Json → String
  | .str s => s
  | other => other.compact

mutual
def outline (level : Nat) : Json → String
  | .arr items => outlineItems level items
  | .obj fields => outlineFields level fields
  | scalar => Json.indentation level ++ scalarText scalar ++ "\n"

def outlineItems (level : Nat) : List Json → String
  | [] => ""
  | item :: rest =>
    Json.indentation level ++ "- " ++ outline (level + 1) item ++ outlineItems level rest

def outlineFields (level : Nat) : List (String × Json) → String
  | [] => ""
  | (key, value) :: rest =>
    Json.indentation level ++ key ++ ":" ++
      (if value.isContainer then "\n" ++ outline (level + 1) value
        else " " ++ scalarText value ++ "\n") ++
      outlineFields level rest
end

structure Table where
  header : List String
  rows : List (List String)

namespace Table

def cellLines (cell : String) : List (List Char) := Text.splitAt '\n' cell.toList

def cellWidth (cell : String) : Nat :=
  (cellLines cell).foldl (fun width line => max width (Unicode.textColumns line)) 0

def widths (t : Table) : List Nat :=
  t.rows.foldl (fun widths row => List.zipWith max widths (row.map cellWidth))
    (t.header.map cellWidth)

def blanks (n : Nat) : List Char := List.replicate n ' '

def padded (width : Nat) (line : List Char) : List Char :=
  ' ' :: line ++ blanks (width - Unicode.textColumns line) ++ [' ']

def framed (left between right : Char) (pieces : List (List Char)) : List Char :=
  left :: List.intercalate [between] pieces ++ [right]

def rule (left between right : Char) (widths : List Nat) : List Char :=
  framed left between right (widths.map fun width => List.replicate (width + 2) '─')

def rowHeight (row : List String) : Nat :=
  row.foldl (fun height cell => max height (cellLines cell).length) 0

def rowLine (widths : List Nat) (row : List String) (index : Nat) : List Char :=
  framed '│' '│' '│'
    (List.zipWith (fun width cell => padded width ((cellLines cell).getD index [])) widths row)

def rowLines (widths : List Nat) (row : List String) : List (List Char) :=
  (List.range (rowHeight row)).map (rowLine widths row)

def lines (t : Table) : List (List Char) :=
  let widths := t.widths
  [rule '╭' '┬' '╮' widths] ++ rowLines widths t.header ++ [rule '├' '┼' '┤' widths] ++
    t.rows.flatMap (rowLines widths) ++ [rule '╰' '┴' '╯' widths]

def text (t : Table) : String :=
  String.ofList (t.lines.flatMap fun line => line ++ ['\n'])

end Table

end PairwiseId.Console
