/-!
# TOML tables

The values of a TOML document, as far as settings can have them: texts, truth values, tables, and
arrays without items. A document says its tables piece by piece, and each table remembers how it
came to be, because that decides what may still be added to it:

- a table in braces is complete;
- a table that a header names takes further tables, but no second header;
- a table on the way to the one that a header names may still get a header of its own;
- a table on the way to a key takes further keys, but no header.

`Table.assign?` adds a value under a key, and `Table.declare?` a header.
-/

namespace LayoutGuard.Toml

/-- How a table came to be. -/
inductive Origin where
  /-- It stands in braces. -/
  | braces
  /-- A header names it. -/
  | header
  /-- It is on the way to a table that a header names. -/
  | wayToHeader
  /-- It is on the way to a key. -/
  | wayToKey
  deriving DecidableEq, Repr, Inhabited

/-- A value of a document. -/
inductive Value where
  | text (value : String)
  | bool (value : Bool)
  /-- An array without items. -/
  | noItems
  | table (origin : Origin) (members : List (String × Value))
  deriving Inhabited

/-- The members of a table in the order in which they were added. -/
abbrev Table := List (String × Value)

namespace Table

/-- The table with a value in place of the one of the same name. -/
def replace (t : Table) (name : String) (value : Value) : Table :=
  t.map fun m => if m.1 = name then (name, value) else m

/-- The table with a value under a key of one or more parts. No value may be there, and all tables
on the way have to come from keys. -/
def assign? (t : Table) (path : List String) (value : Value) : Option Table :=
  match path with
  | [] => none
  | [name] => if (t.lookup name).isNone then some (t ++ [(name, value)]) else none
  | name :: rest =>
    match t.lookup name with
    | none => (assign? [] rest value).map fun inner => t ++ [(name, .table .wayToKey inner)]
    | some (.table .wayToKey inner) =>
      (assign? inner rest value).map fun inner => t.replace name (.table .wayToKey inner)
    | some _ => none

/-- The table with an empty table that a header names. If it is there, it has to be on the way to
another header. -/
def declare? (t : Table) (path : List String) : Option Table :=
  match path with
  | [] => none
  | [name] =>
    match t.lookup name with
    | none => some (t ++ [(name, .table .header [])])
    -- The headers of its inner tables stood in front of its own.
    | some (.table .wayToHeader inner) => some (t.replace name (.table .header inner))
    | some _ => none
  | name :: rest =>
    match t.lookup name with
    | none => (declare? [] rest).map fun inner => t ++ [(name, .table .wayToHeader inner)]
    -- A table in braces is complete.
    | some (.table .braces _) => none
    | some (.table origin inner) =>
      (declare? inner rest).map fun inner => t.replace name (.table origin inner)
    | some _ => none

/-- The table with the table at the end of a path replaced by what `f` makes of it. -/
def within? (t : Table) (path : List String) (f : Table → Option Table) : Option Table :=
  match path with
  | [] => f t
  | name :: rest =>
    match t.lookup name with
    | some (.table origin inner) =>
      (within? inner rest f).map fun inner => t.replace name (.table origin inner)
    | _ => none

end Table

end LayoutGuard.Toml
