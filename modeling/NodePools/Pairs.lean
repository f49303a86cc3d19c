import NodePools.Datum

/-!
# Mappings with keys of any kind

An ordered mapping whose keys are data.  Numbers and truth values of one size are
one key.  Setting a key that is there keeps its place and the key itself, and
replaces its value.  Lists and tables cannot be keys.
-/

namespace NodePools

/-- The entries of an ordered mapping with keys of any kind. -/
abbrev Pairs := List (Datum × Datum)

namespace Pairs

/-- The value under a key. -/
def get? (key : Datum) : Pairs → Option Datum
  | [] => none
  | (k, v) :: rest => if k.same key then some v else get? key rest

/-- Sets a key: in its place if it is there, else at the end. -/
def set (key value : Datum) : Pairs → Pairs
  | [] => [(key, value)]
  | (k, v) :: rest => if k.same key then (k, value) :: rest else (k, v) :: set key value rest

/-- The mapping given by pairs of which a later one wins, if all their keys can be keys. -/
def ofList (pairs : List (Datum × Datum)) : Except Fault Pairs :=
  pairs.foldlM (fun made (key, value) => do
    key.asKey
    return set key value made) []

/-- The entries with their keys as texts. -/
def labelled (pairs : Pairs) : List (String × Datum) := pairs.map fun (k, v) => (k.plain, v)

/-- The entries whose keys are texts. -/
def texts (pairs : Pairs) : Fields Datum :=
  pairs.filterMap fun
    | (.text s, v) => some (s, v)
    | _ => none

end Pairs
end NodePools
