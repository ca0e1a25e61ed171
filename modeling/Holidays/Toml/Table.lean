import Holidays.Settings.Value

/-!
How the tables of a configuration file grow. A table is opened once, by its header or by a dotted
key that adds to it; inline tables and arrays stay as they are written.
-/
namespace Holidays.Toml

/-- How a table was opened: by a dotted key that adds to it, by its header, or not yet, where it is
only a part of longer paths. -/
inductive Origin where
  | implied
  | dotted
  | header
deriving DecidableEq

inductive Node where
  | value (value : Setting)
  | table (origin : Origin) (entries : List (String × Node))
  /-- An array of tables; only its last one still grows. -/
  | tables (earlier : List Setting) (last : List (String × Node))

abbrev Table := List (String × Node)

mutual

def Node.setting : Node → Setting
  | .value value => value
  | .table _ entries => .table (settings entries)
  | .tables earlier last => .list (earlier ++ [.table (settings last)])

def settings : List (String × Node) → List (String × Setting)
  | [] => []
  | (name, node) :: rest => (name, node.setting) :: settings rest

end

namespace Table

def find? (name : String) (t : Table) : Option Node := (Keyed.find? Prod.fst name t).map Prod.snd

def put (name : String) (node : Node) (t : Table) : Table := Keyed.put Prod.fst (name, node) t

/-- Changes the table at a path, and perhaps its origin; the path is made where it is missing.
Dotted keys do not enter a table that its header has opened. -/
def changeAt (dotted : Bool) (change : Origin → Table → Option (Origin × Table)) :
    List String → Origin → Table → Option (Origin × Table)
  | [], origin, t => change origin t
  | name :: path, origin, t =>
    match t.find? name with
    | none =>
      (changeAt dotted change path (if dotted then .dotted else .implied) []).map fun inner =>
        (origin, t.put name (.table inner.1 inner.2))
    | some (.value _) => none
    | some (.table old inner) =>
      if dotted ∧ old = .header then none
      else (changeAt dotted change path old inner).map fun inner =>
        (origin, t.put name (.table inner.1 inner.2))
    | some (.tables earlier last) =>
      (changeAt dotted change path .header last).map fun inner =>
        (origin, t.put name (.tables earlier inner.2))

/-- A value under a key. A key with a path opens the table that it adds to. -/
def insert (t : Table) (path : List String) (name : String) (value : Setting) : Option Table :=
  (changeAt true (fun origin inner =>
    if (inner.find? name).isSome ∨ (path ≠ [] ∧ origin = .header) then none
    else some (.dotted, inner.put name (.value value))) path .header t).map Prod.snd

def changeBelow (t : Table) (path : List String) (change : Table → Option Table) : Option Table :=
  (changeAt false (fun origin inner => (change inner).map (origin, ·)) path .header t).map Prod.snd

def openTable (t : Table) (path : List String) (name : String) : Option Table :=
  t.changeBelow path fun inner =>
    match inner.find? name with
    | none => some (inner.put name (.table .header []))
    | some (.table .implied entries) => some (inner.put name (.table .header entries))
    | some _ => none

def appendTable (t : Table) (path : List String) (name : String) : Option Table :=
  t.changeBelow path fun inner =>
    match inner.find? name with
    | none => some (inner.put name (.tables [] []))
    | some (.tables earlier last) =>
      some (inner.put name (.tables (earlier ++ [.table (settings last)]) []))
    | some _ => none

end Table

structure Key where
  path : List String
  name : String

def Key.names (k : Key) : List String := k.path ++ [k.name]

def inlineTable? (entries : List (Key × Setting)) : Option Setting :=
  (entries.foldlM (fun (t : Table) (e : Key × Setting) =>
    t.insert e.1.path e.1.name e.2) []).map fun t => .table (settings t)

inductive Statement where
  | table (key : Key)
  | tables (key : Key)
  | entry (key : Key) (value : Setting)

structure Progress where
  current : List String
  root : Table

def Progress.step (p : Progress) : Statement → Option Progress
  | .table key => (p.root.openTable key.path key.name).map fun root => ⟨key.names, root⟩
  | .tables key => (p.root.appendTable key.path key.name).map fun root => ⟨key.names, root⟩
  | .entry key value =>
    (p.root.changeBelow p.current fun t => t.insert key.path key.name value).map
      fun root => { p with root }

def ofStatements? (statements : List Statement) : Option (List (String × Setting)) :=
  (statements.foldlM Progress.step ⟨[], []⟩).map fun p => settings p.root

end Holidays.Toml
