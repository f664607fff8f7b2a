/-!
# TOML documents

A document is a table of named values. Its statements are put together one after the other: a header
opens a table, and a pair adds a value to the table that is open. A name is given a meaning once; a
table that other names only mentioned may still be opened by its own header, but one that was
written down by a header, by dotted names or as a value may not be opened or extended in another
way.
-/

namespace StageRelay

/-- A value of a document. Of a number with a fraction and of a point in time only the kind
is kept. -/
inductive Toml where
  | string (s : String)
  | integer (i : Int)
  | float
  | bool (b : Bool)
  | moment
  | array (items : List Toml)
  | table (entries : List (String × Toml))
deriving Repr

namespace Toml

/-- How a table came about. -/
inductive Origin where
  /-- By a header. -/
  | header
  /-- As a table on the way to one with a header. -/
  | mentioned
  /-- By dotted names. -/
  | dotted
deriving DecidableEq, Repr

/-- What a name means while a document is put together. -/
inductive Node where
  | value (v : Toml)
  | table (origin : Origin) (entries : List (String × Node))
  /-- Tables of one name, of which the last one is open. -/
  | tables (before : List (List (String × Node))) (last : List (String × Node))

/-- A table while a document is put together. -/
abbrev Entries := List (String × Node)

namespace Entries

/-- Gives a name another meaning, if that is allowed. -/
def alter (k : String) (f : Option Node → Option Node) : Entries → Option Entries
  | [] => (f none).map fun n ↦ [(k, n)]
  | (k', n) :: rest =>
    if k = k' then (f (some n)).map fun n ↦ (k, n) :: rest
    else (alter k f rest).map fun rest ↦ (k', n) :: rest

/-- Adds a value under a dotted name. `mayAdd` tells whether the table may be extended here. -/
def put (v : Toml) (mayAdd : Bool) : List String → Entries → Option Entries
  | [], _ => none
  | [k], es =>
    if mayAdd then es.alter k fun n? ↦ if n?.isNone then some (.value v) else none else none
  | k :: path, es =>
    es.alter k fun
      | none => (put v true path []).map (.table .dotted)
      | some (.table .header _) => none
      | some (.table origin sub) => (put v (origin = .dotted) path sub).map (.table origin)
      | some (.tables before last) => (put v false path last).map (.tables before)
      | some (.value _) => none

/-- Changes what the last name of a header means. -/
def openAt (f : Option Node → Option Node) : List String → Entries → Option Entries
  | [], _ => none
  | [k], es => es.alter k f
  | k :: path, es =>
    es.alter k fun
      | none => (openAt f path []).map (.table .mentioned)
      | some (.table origin sub) => (openAt f path sub).map (.table origin)
      | some (.tables before last) => (openAt f path last).map (.tables before)
      | some (.value _) => none

/-- The meaning of a name whose table is opened. -/
def asTable : Option Node → Option Node
  | none => some (.table .header [])
  | some (.table .mentioned es) => some (.table .header es)
  | _ => none

/-- The meaning of a name for which one more table is opened. -/
def asTables : Option Node → Option Node
  | none => some (.tables [] [])
  | some (.tables before last) => some (.tables (before ++ [last]) [])
  | _ => none

/-- Changes the table that a path leads to. -/
def within (f : Entries → Option Entries) : List String → Entries → Option Entries
  | [], es => f es
  | k :: path, es =>
    es.alter k fun
      | some (.table origin sub) => (within f path sub).map (.table origin)
      | some (.tables before last) => (within f path last).map (.tables before)
      | _ => none

end Entries

mutual

/-- The value of a name. -/
def Node.toToml : Node → Toml
  | .value v => v
  | .table _ entries => .table (entriesToToml entries)
  | .tables before last => .array (tablesToToml before ++ [.table (entriesToToml last)])

/-- The values of names. -/
def entriesToToml : List (String × Node) → List (String × Toml)
  | [] => []
  | (k, n) :: rest => (k, n.toToml) :: entriesToToml rest

/-- The values of tables. -/
def tablesToToml : List (List (String × Node)) → List Toml
  | [] => []
  | es :: rest => .table (entriesToToml es) :: tablesToToml rest

end

/-- A line of a document that says something. -/
inductive Statement where
  | header (path : List String)
  /-- The header of one more table of a name. -/
  | another (path : List String)
  | pair (path : List String) (v : Toml)
deriving Repr

/-- A document so far, and the path of the table that is open. -/
structure Assembly where
  root : Entries := []
  path : List String := []

namespace Assembly

/-- Adds a statement. -/
def add (a : Assembly) : Statement → Option Assembly
  | .header path => (a.root.openAt Entries.asTable path).map (⟨·, path⟩)
  | .another path => (a.root.openAt Entries.asTables path).map (⟨·, path⟩)
  | .pair path v => (a.root.within (Entries.put v true path) a.path).map (⟨·, a.path⟩)

/-- The document that was put together. -/
def toToml (a : Assembly) : Toml :=
  .table (entriesToToml a.root)

end Assembly

/-- The document of statements. -/
def ofStatements (ss : List Statement) : Option Toml :=
  (ss.foldlM Assembly.add {}).map Assembly.toToml

/-- The table of pairs that stand in one place. -/
def ofPairs (pairs : List (List String × Toml)) : Option Toml :=
  (pairs.foldlM (fun es p ↦ Entries.put p.2 true p.1 es) []).map fun es ↦ .table (entriesToToml es)

end Toml

end StageRelay
