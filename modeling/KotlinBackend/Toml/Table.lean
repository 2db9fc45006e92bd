import KotlinBackend.Toml.Basic

/-!
# Tables under construction

A table can be opened by a header, by the headers of the tables in it, or by keys with dots. Each
way may be used only once for one table, so a table remembers how it came to be.
-/

namespace KotlinBackend.Toml

/-- How a table came to be: under a header of its own, on the way to another header, or on the way
to a key. -/
inductive Opening where
  | header
  | onHeaderPath
  | onKeyPath
  deriving DecidableEq, Repr

inductive Node where
  | value (v : Value)
  | table (opening : Opening) (entries : List (String × Node))
  | tables (items : List (List (String × Node)))
  deriving Inhabited

abbrev Entries := List (String × Node)

namespace Entries

/-- Changes the entry of a key; an absent key is added at the end. -/
def alter (key : String) (f : Option Node → Except Fault Node) : Entries → Except Fault Entries
  | [] => do
    let node ← f none
    .ok [(key, node)]
  | (k, node) :: rest =>
    if k = key then do
      let node ← f (some node)
      .ok ((k, node) :: rest)
    else do
      let rest ← alter key f rest
      .ok ((k, node) :: rest)

/-- Changes the table that a path leads to; tables on the way are opened as needed. -/
def changeAt (opening : Opening) (change : Entries → Except Fault Entries) :
    List String → Entries → Except Fault Entries
  | [], entries => change entries
  | key :: path, entries => alter key (fun
    | none => do
      let inner ← changeAt opening change path []
      .ok (.table opening inner)
    | some (.value _) => .error (.notTable key)
    | some (.table found inner) =>
      if opening = .onKeyPath ∧ found = .header then .error (.redefined key)
      else if opening = .onKeyPath ∧ path.isEmpty ∧ found ≠ .onKeyPath then .error (.redefined key)
      else do
        let inner ← changeAt opening change path inner
        .ok (.table found inner)
    | some (.tables items) =>
      match items.getLast? with
      | none => .error (.notTable key)
      | some last => do
        let last ← changeAt opening change path last
        .ok (.tables (items.dropLast ++ [last]))) entries

def add (key : String) (value : Value) : Entries → Except Fault Entries :=
  alter key fun
    | none => .ok (.value value)
    | some _ => .error (.redefined key)

def assign (path : List String) (key : String) (value : Value) : Entries → Except Fault Entries :=
  changeAt .onKeyPath (add key value) path

def openTable (path : List String) (key : String) : Entries → Except Fault Entries :=
  changeAt .onHeaderPath (alter key fun
    | none => .ok (.table .header [])
    | some (.table .onHeaderPath inner) => .ok (.table .header inner)
    | some _ => .error (.redefined key)) path

def openItem (path : List String) (key : String) : Entries → Except Fault Entries :=
  changeAt .onHeaderPath (alter key fun
    | none => .ok (.tables [[]])
    | some (.tables items) => .ok (.tables (items ++ [[]]))
    | some _ => .error (.redefined key)) path

/-- Changes the table that the last header opened. -/
def inHeader (change : Entries → Except Fault Entries) (header : List String) :
    Entries → Except Fault Entries :=
  changeAt .onHeaderPath change header

end Entries

mutual

def Node.finish : Node → Value
  | .value v => v
  | .table _ entries => .table (Node.finishEntries entries)
  | .tables items => .list (Node.finishItems items)

def Node.finishEntries : List (String × Node) → List (String × Value)
  | [] => []
  | (key, node) :: rest => (key, node.finish) :: Node.finishEntries rest

def Node.finishItems : List (List (String × Node)) → List Value
  | [] => []
  | entries :: rest => .table (Node.finishEntries entries) :: Node.finishItems rest

end

end KotlinBackend.Toml
