import NodePools.Pairs

/-!
# Layers of tables

One table laid over another: where both hold a table under a key the two are
laid over each other, else the upper value covers the lower one.  The keys are
those of the lower table in their order, then the new ones of the upper.
-/

namespace NodePools.Config

mutual

/-- The entries of a table laid over another one. -/
def overlay (lower : Fields Datum) : List (String × Datum) → Fields Datum
  | [] => lower
  | (key, upper) :: rest =>
    overlay (Fields.set key (overlayValue (Fields.get? key lower) upper) lower) rest

/-- A value laid over what may be there. -/
def overlayValue (lower : Option Datum) (upper : Datum) : Datum :=
  match upper with
  | .table entries =>
    match lower with
    | some (.table fields) => .table (overlay fields entries)
    | _ => .table entries
  | d => d

end

/-- The entry that two parts stand for. -/
def entryOf (d : Datum) : Except Fault (Datum × Datum) := do
  match ← d.items with
  | [key, value] =>
    key.asKey
    return (key, value)
  | parts => throw ⟨.value,
      s!"an entry consists of two parts, not of {parts.length}"⟩

/-- A table laid over pairs.  Only keys that are texts are those of the table. -/
def overlayPairs (lower : Pairs) (upper : Fields Datum) : Pairs :=
  upper.foldl (fun made (key, value) =>
    Pairs.set (.text key) (overlayValue (Pairs.get? (.text key) made) value) made) lower

/-- One datum laid over another.  The upper one must be a table, the lower one a table
or what consists of pairs. -/
def merge (lower upper : Datum) : Except Fault (Fields Datum) := do
  match lower with
  | .table fields => return overlay fields (← upper.entries "items")
  | d =>
    let pairs ← Pairs.ofList (← (← d.items).mapM entryOf)
    return Fields.ofPairs (overlayPairs pairs (← upper.entries "items")).labelled

end NodePools.Config
