import NodePools.Datum

/-!
# Tables within tables

A path of keys leads from a table to one inside it.  Tables on the way that are
not there yet are made.  A list of tables on the way stands for its last table.
-/

namespace NodePools.Toml

/-- Changes the table at a path.  Nothing comes back where the way is blocked by
a value that is no table, or where the change itself is refused. -/
def updateAt (throughLists : Bool) (change : Fields Datum → Option (Fields Datum)) :
    List String → Fields Datum → Option (Fields Datum)
  | [], table => change table
  | key :: path, table =>
    match table.get? key with
    | none => (updateAt throughLists change path []).map fun t => table.set key (.table t)
    | some (.table inner) =>
      (updateAt throughLists change path inner).map fun t => table.set key (.table t)
    | some (.list items) =>
      if throughLists then
        match items.getLast? with
        | some (.table inner) =>
          (updateAt throughLists change path inner).map fun t =>
            table.set key (.list (items.dropLast ++ [.table t]))
        | _ => none
      else none
    | some _ => none

/-- Adds a key that must not be there. -/
def addNew (key : String) (value : Datum) (table : Fields Datum) : Option (Fields Datum) :=
  if table.has key then none else some (table ++ [(key, value)])

/-- Adds an empty table to the list under a key, which is made if need be. -/
def addTable (key : String) (table : Fields Datum) : Option (Fields Datum) :=
  match table.get? key with
  | none => some (table ++ [(key, .list [.table []])])
  | some (.list items) => some (table.set key (.list (items ++ [.table []])))
  | some _ => none

/-- Sets of paths, and whether one is in or below another. -/
def covers (paths : List (List String)) (path : List String) : Bool :=
  paths.any fun p => p.isPrefixOf path

end NodePools.Toml
