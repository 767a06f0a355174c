/-!
# Tables of comma-separated values

## Main definitions

* `Tariff.Table.cell` — a cell in writing.
* `Tariff.Table.row`, `Tariff.Table.text` — a row and a table in writing.
-/

set_option autoImplicit false

namespace Tariff.Table

/-- Whether a cell needs quotes: it holds a comma, a quote or a line feed. -/
def needsQuotes (cs : List Char) : Bool :=
  cs.any fun c => c == ',' || c == '"' || c == '\n'

/-- The characters of a cell in quotes, where each quote is written twice. -/
def inQuotes (cs : List Char) : List Char :=
  '"' :: cs.flatMap (fun c => if c == '"' then ['"', '"'] else [c]) ++ ['"']

/-- A cell in writing, in quotes if it needs them. -/
def cell (s : String) : String :=
  if needsQuotes s.toList then String.ofList (inQuotes s.toList) else s

/-- A row in writing. -/
def row (cells : List String) : String :=
  ",".intercalate (cells.map cell) ++ "\n"

/-- A table in writing. -/
def text (rows : List (List String)) : String :=
  String.join (rows.map row)

end Tariff.Table
