/-!
The content of a TOML document: values, and tables that are put together from
headers and dotted keys. A table remembers how it came about, as that decides
what may still be added to it.
-/

namespace VideoTerminal.Toml

/-- How a table came about: by a header of its own, as a table around that of
a header, by a dotted key, or as a value. -/
inductive Origin where
  | header
  | enclosing
  | dotted
  | inline
deriving DecidableEq

/-- A value or a table. Numbers with a fraction and times are kept as they are
written. -/
inductive Node where
  | string (text : List Char)
  | integer (value : Int)
  | float (text : List Char)
  | boolean (value : Bool)
  | time (text : List Char)
  | array (items : List Node)
  | table (origin : Origin) (entries : List (List Char × Node))
  | tables (items : List (List (List Char × Node)))

/-- The entries of a table, in the order in which they were added. -/
abbrev Entries := List (List Char × Node)

/-- A key with dots: the keys of the tables around, and the last one. -/
structure Path where
  outer : List (List Char)
  last : List Char

namespace Path

/-- All the keys. -/
def keys (path : Path) : List (List Char) :=
  path.outer ++ [path.last]

end Path

namespace Entries

def find? (entries : Entries) (key : List Char) : Option Node :=
  (List.find? (fun entry => entry.1 == key) entries).map Prod.snd

/-- Give a key a value: in its place if it has one, else at the end. -/
def put (entries : Entries) (key : List Char) (node : Node) : Entries :=
  match entries with
  | [] => [(key, node)]
  | (first, value) :: rest =>
      if first = key then (key, node) :: rest else (first, value) :: put rest key node

/-- Change the table that a path leads to, where `change` is given the origin
of the table and its entries. Tables on the way that are missing are added,
with the origin `missing`. Nothing leads into a value, and dotted keys do not
lead into a table that has a header to itself; in a list of tables the last one
is meant, and that is open to dotted keys too. -/
def update (missing : Origin) (change : Origin → Entries → Option Entries) :
    List (List Char) → Origin → Entries → Option Entries
  | [], origin, entries => change origin entries
  | key :: rest, _, entries =>
      match find? entries key with
      | none => do
          let inner ← update missing change rest missing []
          return entries.put key (.table missing inner)
      | some (.table .inline _) => none
      | some (.table origin inner) =>
          if missing = .dotted ∧ origin = .header then none
          else do
            let inner ← update missing change rest origin inner
            return entries.put key (.table origin inner)
      | some (.tables items) =>
          match items.reverse with
          | [] => none
          | item :: earlier => do
              let inner ← update missing change rest .header item
              return entries.put key (.tables (inner :: earlier).reverse)
      | some _ => none

/-- Add a value under a dotted key, which must be new. The table that a dotted
key leads to must have come about by dotted keys itself. -/
def insert (entries : Entries) (path : Path) (node : Node) : Option Entries :=
  update .dotted
    (fun origin inner =>
      if (find? inner path.last).isSome ∨ (path.outer ≠ [] ∧ origin ≠ .dotted) then none
      else some (inner ++ [(path.last, node)]))
    path.outer .header entries

/-- Begin the table of a header, which may so far only have had tables in
it. -/
def beginTable (entries : Entries) (path : Path) : Option Entries :=
  update .enclosing
    (fun _ inner =>
      match find? inner path.last with
      | none => some (inner ++ [(path.last, .table .header [])])
      | some (.table .enclosing found) => some (inner.put path.last (.table .header found))
      | some _ => none)
    path.outer .header entries

/-- Begin one more table in the list of tables of a header. -/
def beginItem (entries : Entries) (path : Path) : Option Entries :=
  update .enclosing
    (fun _ inner =>
      match find? inner path.last with
      | none => some (inner ++ [(path.last, .tables [[]])])
      | some (.tables items) => some (inner.put path.last (.tables (items ++ [[]])))
      | some _ => none)
    path.outer .header entries

/-- Add a value under a dotted key in the table that a header began. -/
def insertUnder (entries : Entries) (header : List (List Char)) (path : Path) (node : Node) :
    Option Entries :=
  update .enclosing (fun _ inner => insert inner path node) header .header entries

end Entries

end VideoTerminal.Toml
