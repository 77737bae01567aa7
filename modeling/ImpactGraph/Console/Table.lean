import ImpactGraph.Console.Wrap

/-!
# Tables

A table stands in a box with a heavy head, below a centred title. Every column is as wide
as its widest cell needs; when the table would be wider than the terminal the widest
column gives way. Every line of a table takes the same number of columns of the terminal.
-/

namespace ImpactGraph.Console

open Text

/-- A column of a table: what its head says, and how its cells lie. -/
structure Column where
  head : Text
  alignment : Alignment := .left

/-- A table: one cell to a column in every row. -/
structure Table where
  title : Text
  columns : List Column
  rows : List (List Text) := []

namespace Table

/-- The columns of the terminal that the widest line of a cell takes. -/
def cellWidth (cell : Text) : Nat := ((split '\n' cell).map Text.columns).foldl max 0

/-- The cells of a column from the top. -/
def cellsOf (t : Table) (i : Nat) (column : Column) : List Text :=
  column.head :: t.rows.map fun row => row.getD i []

/-- The widths of the columns when nothing limits them. -/
def naturalWidths (t : Table) : List Nat :=
  t.columns.mapIdx fun i column => ((t.cellsOf i column).map cellWidth).foldl max 0

/-- What a box takes beside the cells: two spaces to a cell, and a line before, between
and after them. -/
def frameWidth (t : Table) : Nat := 3 * t.columns.length + 1

/-- The columns of the terminal that cells of such widths take side by side. -/
def total (widths : List Nat) : Nat := widths.foldl (· + ·) 0

/-- The widths, with the first of the widest made so much smaller that all fit a limit
together. -/
def narrowed (limit : Nat) (widths : List Nat) : List Nat :=
  let excess := total widths - limit
  let i := widths.findIdx (· = widths.foldl max 0)
  widths.modify i (· - excess)

/-- The widths of the columns in a terminal. -/
def widths (t : Table) (limit : Nat) : List Nat :=
  narrowed (limit - t.frameWidth) t.naturalWidths

/-- The lines of one row: cells side by side, short ones filled up with empty lines. -/
def rowLines (bar : Char) (widths : List Nat) (columns : List Column)
    (cells : List Text) : List Text :=
  let blocks :=
    List.zipWith (fun (w, column) cell => (w, setLines w .ellipsis column.alignment cell))
    (widths.zip columns) cells
  let height := (blocks.map (·.2.length)).foldl max 1
  (List.range height).map fun i =>
    bar :: blocks.flatMap fun (w, lines) => ' ' :: padTo w (lines.getD i []) ++ [' ', bar]

/-- A line of the box. -/
def rule (start line cross stop : Char) (widths : List Nat) : Text :=
  start :: join [cross] (widths.map fun w => List.replicate (w + 2) line) ++ [stop]

/-- The lines of a table in a terminal. -/
def lines (t : Table) (limit : Nat) : List Text :=
  let widths := t.widths limit
  setLines (total widths + t.frameWidth) .fold .center t.title ++
  [rule '┏' '━' '┳' '┓' widths] ++
  rowLines '┃' widths t.columns (t.columns.map (·.head)) ++
  [rule '┡' '━' '╇' '┩' widths] ++
  t.rows.flatMap (rowLines '│' widths t.columns) ++
  [rule '└' '─' '┴' '┘' widths]

end Table

end ImpactGraph.Console
