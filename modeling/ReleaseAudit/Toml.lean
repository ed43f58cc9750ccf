import ReleaseAudit.Json

/-!
# Tables of settings

The part of TOML that settings are written in: texts, booleans, whole numbers, and tables. A table is
opened by a header, by the keys in front of the last one of a dotted key, or as a value between braces.
Other values (fractions, dates, lists with items) are no settings and are refused, and so are lists of
tables. A list without items stands for a table without entries.
-/

namespace ReleaseAudit

/-- How a table came to be, which decides what may be added to it. -/
inductive TableOrigin where
  /-- It has a header of its own, or is the outermost one. -/
  | header
  /-- It stands only in front of the last key of a header. -/
  | within
  /-- It stands in front of the last key of a dotted key. -/
  | dotted
  /-- It is a value. -/
  | inline
deriving DecidableEq, Repr

inductive Toml where
  | string (s : String)
  | boolean (b : Bool)
  | integer (n : Int)
  | table (origin : TableOrigin) (entries : List (String × Toml))
deriving Inhabited, Repr

namespace Toml

abbrev Entries := List (String × Toml)

/-- Replaces the entry of a key, which is added at the end if there is none. -/
def setEntry (key : String) (value : Toml) (entries : Entries) : Entries :=
  if (entries.lookup key).isSome then
    entries.map fun (k, v) => if k == key then (k, value) else (k, v)
  else entries ++ [(key, value)]

/-- The table behind a key of a path. Tables that have a header are closed to dotted keys, and values
to all. -/
def below? (isDotted : Bool) (entries : Entries) (key : String) : Option (TableOrigin × Entries) :=
  match entries.lookup key with
  | none => some (if isDotted then .dotted else .within, [])
  | some (.table .inline _) => none
  | some (.table .header inner) => if isDotted then none else some (.header, inner)
  | some (.table origin inner) => some (origin, inner)
  | some _ => none

/-- Changes the table at the end of a path, whose tables are made where they are missing. -/
def changeAt? (isDotted : Bool) (change : TableOrigin → Entries → Option Entries) :
    List String → TableOrigin → Entries → Option Entries
  | [], origin, entries => change origin entries
  | key :: path, _, entries => do
    let (origin, inner) ← below? isDotted entries key
    let inner ← changeAt? isDotted change path origin inner
    return setEntry key (.table origin inner) entries

def addNew? (key : String) (value : Toml) (entries : Entries) : Option Entries :=
  if (entries.lookup key).isSome then none else some (entries ++ [(key, value)])

/-- Adds a value under a dotted key; `path` holds its keys but the last one. A table that dotted keys
have made gets its entries from them alone. -/
def add? (path : List String) (key : String) (value : Toml) (entries : Entries) : Option Entries :=
  let change (origin : TableOrigin) (entries : Entries) : Option Entries :=
    if (origin == .dotted) == path.isEmpty then none else addNew? key value entries
  changeAt? true change path .header entries

/-- Opens the table of a header. A header stands once, and only for a table that neither a dotted key
nor a value has made. -/
def openTable? (path : List String) (key : String) (root : Entries) : Option Entries :=
  let change (_ : TableOrigin) (entries : Entries) : Option Entries :=
    match entries.lookup key with
    | none => some (entries ++ [(key, .table .header [])])
    | some (.table .within inner) => some (setEntry key (.table .header inner) entries)
    | some _ => none
  changeAt? false change path .header root

/-- Adds a value under a dotted key in the table of the header `header`. -/
def addBelow? (header path : List String) (key : String) (value : Toml) (root : Entries) :
    Option Entries :=
  changeAt? false (fun _ entries => add? path key value entries) header .header root

end Toml

end ReleaseAudit
