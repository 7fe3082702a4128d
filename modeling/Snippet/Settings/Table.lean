import Snippet.Settings.Value

namespace Snippet.Settings

/-- How a table came to be: by a header of its own, on the way of a header to a deeper table, or on
the way of a dotted key. -/
inductive Origin where
  | header
  | onWay
  | dottedKey
deriving DecidableEq, Repr

mutual

/-- What a key stands for while the text is read. -/
inductive Node where
  | closed (value : Value)
  | table (table : Table)
  /-- The tables of an array of tables, the last first. -/
  | tables (last : Table) (earlier : List Table)

inductive Table where
  | mk (origin : Origin) (entries : List (String × Node))

end

namespace Table

def origin : Table → Origin
  | mk origin _ => origin

def entries : Table → List (String × Node)
  | mk _ entries => entries

def empty (origin : Origin) : Table := mk origin []

def find? (table : Table) (key : String) : Option Node := table.entries.lookup key

def put (table : Table) (key : String) (node : Node) : Table :=
  if (table.find? key).isSome then
    mk table.origin (table.entries.map fun entry => if entry.1 == key then (key, node) else entry)
  else mk table.origin (table.entries ++ [(key, node)])

/-- Changes the table at the end of a path, making the tables on the way that do not exist. Of an
array of tables the last is meant. A dotted key does not enter a table with a header. -/
def modifyAt? (dotted : Bool) (change : Table → Option Table) : List String → Table → Option Table
  | [], table => change table
  | key :: path, table =>
    match table.find? key with
    | none => do
      let made ← modifyAt? dotted change path (empty (if dotted then .dottedKey else .onWay))
      return table.put key (.table made)
    | some (.closed _) => none
    | some (.tables last earlier) => do
      return table.put key (.tables (← modifyAt? dotted change path last) earlier)
    | some (.table inner) =>
      if dotted && inner.origin == .header then none
      else do return table.put key (.table (← modifyAt? dotted change path inner))

/-- Gives a new key a value. A dotted key ends in a table that dotted keys made, and only there. -/
def assign? (path : List String) (key : String) (value : Value) (table : Table) : Option Table :=
  modifyAt? true
    (fun table =>
      if (table.origin == .dottedKey) == path.isEmpty || (table.find? key).isSome then none
      else some (table.put key (.closed value)))
    path table

/-- Opens a table by its header, which may come after those of its inner tables. -/
def openTable? (path : List String) (key : String) (table : Table) : Option Table :=
  modifyAt? false
    (fun table =>
      match table.find? key with
      | none => some (table.put key (.table (empty .header)))
      | some (.table (.mk .onWay entries)) => some (table.put key (.table (.mk .header entries)))
      | some _ => none)
    path table

/-- Adds a table to an array of tables by its header. -/
def openElement? (path : List String) (key : String) (table : Table) : Option Table :=
  modifyAt? false
    (fun table =>
      match table.find? key with
      | none => some (table.put key (.tables (empty .header) []))
      | some (.tables last earlier) => some (table.put key (.tables (empty .header) (last :: earlier)))
      | some _ => none)
    path table

end Table

mutual

def Node.toValue : Node → Value
  | .closed value => value
  | .table table => table.toValue
  | .tables last earlier => .array (last.toValue :: Table.toValues earlier).reverse

def Table.toValue : Table → Value
  | .mk _ entries => .table (Node.toEntries entries)

def Table.toValues : List Table → List Value
  | [] => []
  | first :: more => first.toValue :: Table.toValues more

def Node.toEntries : List (String × Node) → List (String × Value)
  | [] => []
  | (key, node) :: more => (key, node.toValue) :: Node.toEntries more

end

end Snippet.Settings
