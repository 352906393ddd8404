import GitPractice.Datum

/-!
# Tables under construction

A document in TOML adds to its tables line by line. A header opens the table of its path, and an
entry with a dotted key goes into a table below the open one. A table is *implicit* while only
tables below it have been named, and *dotted* if a dotted key made it. A header may open an implicit
table once; a dotted key may add to dotted tables only. `build` takes the statements of a document
to its entries, or to nothing if one of them has no place.

A table that is opened after tables below it were takes its place behind its later neighbours.
-/

namespace GitPractice.Toml

inductive Node where
  | value (d : Datum)
  | table (implicit dotted : Bool) (entries : List (String × Node))
  | tables (items : List (List (String × Node)))

abbrev Entries := List (String × Node)

inductive Statement where
  | header (path : List String)
  | arrayHeader (path : List String)
  | entry (path : List String) (value : Datum)

namespace Entries

def put (key : String) (node : Node) : Entries → Entries
  | [] => [(key, node)]
  | (k, m) :: r => if k = key then (k, node) :: r else (k, m) :: put key node r

def remove (key : String) (es : Entries) : Entries := es.filter fun e => e.1 != key

/-- Changes the table at the end of a path, and makes the tables on the way that there are not. A
list of tables is entered by its last one. `change` is told whether the table is dotted. -/
def updateAt (byKey : Bool) (change : Bool → Entries → Option Entries) :
    Bool → List String → Entries → Option Entries
  | dotted, [], es => change dotted es
  | _, key :: path, es =>
    match es.lookup key with
    | none =>
      (updateAt byKey change byKey path []).map fun es' => es ++ [(key, .table true byKey es')]
    | some (.table implicit dotted inner) =>
      if byKey && !implicit then none
      else (updateAt byKey change dotted path inner).map fun es' =>
        put key (.table implicit dotted es') es
    | some (.tables items) =>
      match items.getLast? with
      | some last => (updateAt byKey change false path last).map fun es' =>
          put key (.tables (items.dropLast ++ [es'])) es
      | none => none
    | some (.value _) => none

/-- Adds an entry that the table does not have yet. -/
def add (key : String) (node : Node) (es : Entries) : Option Entries :=
  if (es.lookup key).isSome then none else some (es ++ [(key, node)])

/-- The path of all keys but the last, and the last. -/
def splitPath (path : List String) : List String × String :=
  (path.dropLast, path.getLastD "")

/-- Adds the entry of a dotted key. -/
def addEntry (path : List String) (value : Datum) (es : Entries) : Option Entries :=
  let (tables, key) := splitPath path
  updateAt true (fun dotted inner =>
    if dotted == tables.isEmpty then none else inner.add key (.value value)) false tables es

/-- Opens the table of a header. -/
def openTable (path : List String) (es : Entries) : Option Entries :=
  let (tables, key) := splitPath path
  updateAt false (fun _ inner =>
    match inner.lookup key with
    | none => some (inner ++ [(key, .table false false [])])
    | some (.table true false es') => some (inner.remove key ++ [(key, .table false false es')])
    | some _ => none) false tables es

/-- Opens one more table in the list of a header. -/
def openItem (path : List String) (es : Entries) : Option Entries :=
  let (tables, key) := splitPath path
  updateAt false (fun _ inner =>
    match inner.lookup key with
    | none => some (inner ++ [(key, .tables [[]])])
    | some (.tables items) => some (inner.put key (.tables (items ++ [[]])))
    | some _ => none) false tables es

/-- The entries after the statements, of which the first ones belong to the table at `path`. -/
def extend (path : List String) (es : Entries) : List Statement → Option Entries
  | [] => some es
  | .header p :: r => (openTable p es).bind fun es' => extend p es' r
  | .arrayHeader p :: r => (openItem p es).bind fun es' => extend p es' r
  | .entry p d :: r =>
    (updateAt false (fun _ inner => inner.addEntry p d) false path es).bind fun es' =>
      extend path es' r

mutual

def nodeDatum : Node → Datum
  | .value d => d
  | .table _ _ entries => .table (entriesData entries)
  | .tables items => .list (itemsData items)

def entriesData : List (String × Node) → List (String × Datum)
  | [] => []
  | (key, node) :: r => (key, nodeDatum node) :: entriesData r

def itemsData : List (List (String × Node)) → List Datum
  | [] => []
  | entries :: r => .table (entriesData entries) :: itemsData r

end

end Entries

/-- The table that the statements of a document build. -/
def build (statements : List Statement) : Option Datum :=
  (Entries.extend [] [] statements).map fun es => .table (Entries.entriesData es)

/-- The table that the entries in braces build, each with its path. -/
def inlineTable (pairs : List (List String × Datum)) : Option Datum :=
  (pairs.foldlM (fun es p => Entries.addEntry p.1 p.2 es) []).map fun es =>
    .table (Entries.entriesData es)

end GitPractice.Toml
