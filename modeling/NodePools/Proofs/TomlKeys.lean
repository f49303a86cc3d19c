import NodePools.Proofs.Contracts
import NodePools.Proofs.Layers
import NodePools.Toml.Document

/-!
# Keys in documents

In a document that was read no key stands twice in a table (`keyed_of_parse`).  Every table there is
made by changes at paths, and what a change at a path keeps, the whole table keeps
(`keyed_of_updateAt`).  A new key is only added where there is none (`addNew`), and a table in a
list is not looked at here: a list counts as one value.
-/

namespace NodePools

/-! ## Tables that are changed -/

namespace Datum.Keyed

variable {fields : Fields Datum} {key : String} {d : Datum}

theorem list (items : List Datum) : Keyed (.list items) := .leaf rfl

theorem empty : Keyed (.table []) := .table List.nodup_nil nofun

theorem set (keyed : Keyed (.table fields)) (key : String) (value : Keyed d) :
    Keyed (.table (Fields.set key d fields)) := by
  refine .table (keyed.distinct.set key d) fun e mem => ?_
  rcases Fields.mem_set mem with rfl | mem
  · exact value
  · exact keyed.of_mem mem

/-- To add a key that is not there is to set it. -/
theorem append (keyed : Keyed (.table fields)) (absent : Fields.get? key fields = none)
    (value : Keyed d) : Keyed (.table (fields ++ [(key, d)])) := by
  rw [← Fields.set_of_not_mem (Fields.get?_eq_none_iff.mp absent)]
  exact keyed.set key value

end Datum.Keyed

namespace Toml

open Datum (Keyed)

variable {table made : Fields Datum} {path : List String} {key : String} {value : Datum}

/-! ## Changes at paths -/

/-- What a change keeps in a table with distinct keys, it keeps at the end of a path. -/
theorem keyed_of_updateAt {throughLists : Bool} {change : Fields Datum → Option (Fields Datum)}
    (kept : ∀ t t', Keyed (.table t) → change t = some t' → Keyed (.table t'))
    (keyed : Keyed (.table table)) (changed : updateAt throughLists change path table = some made) :
    Keyed (.table made) := by
  induction path generalizing table made with
  | nil => exact kept table made keyed changed
  | cons key path ih =>
    rw [updateAt] at changed
    split at changed
    · obtain ⟨inner, later, rfl⟩ := Option.map_eq_some_iff.mp changed
      exact keyed.set key (ih .empty later)
    next inner found =>
      obtain ⟨inner, later, rfl⟩ := Option.map_eq_some_iff.mp changed
      exact keyed.set key (ih (keyed.of_get? found) later)
    · split at changed
      · split at changed
        · obtain ⟨inner, -, rfl⟩ := Option.map_eq_some_iff.mp changed
          exact keyed.set key (.list _)
        · cases changed
      · cases changed
    · cases changed

theorem keyed_of_addNew (value_keyed : Keyed value) (keyed : Keyed (.table table))
    (added : addNew key value table = some made) : Keyed (.table made) := by
  rw [addNew] at added
  split at added
  · cases added
  next absent =>
    obtain rfl := Option.some.inj added
    exact keyed.append (Option.not_isSome_iff_eq_none.mp absent) value_keyed

theorem keyed_of_addTable (keyed : Keyed (.table table)) (added : addTable key table = some made) :
    Keyed (.table made) := by
  rw [addTable] at added
  split at added
  next absent =>
    obtain rfl := Option.some.inj added
    exact keyed.append absent (.list _)
  · obtain rfl := Option.some.inj added
    exact keyed.set key (.list _)
  · cases added

theorem keyed_of_addInline {frozen : List (List String)} (value_keyed : Keyed value)
    (keyed : Keyed (.table table)) (added : addInline frozen path value table = some made) :
    Keyed (.table made) := by
  rw [addInline] at added
  split at added
  · cases added
  · split at added
    · cases added
    · exact keyed_of_updateAt (fun _ _ => keyed_of_addNew value_keyed) keyed added

/-! ## Values -/

theorem demand_eq_ok {α : Type} {x : Option α} {a : α} : demand x = .ok a ↔ x = some a := by
  cases x with
  | none => exact ⟨nofun, nofun⟩
  | some b => exact ⟨fun h => congrArg some (Except.ok.inj h),
      fun h => congrArg Except.ok (Option.some.inj h)⟩

theorem isTable_of_moment? {cs rest : List Char} {d : Datum}
    (read : moment? cs = some (.ok d, rest)) : d.isTable = false := by
  obtain ⟨⟨date, after⟩, -, made⟩ := Option.map_eq_some_iff.mp read
  have moment := congrArg Prod.fst made
  dsimp only at moment
  split at moment
  · cases moment
    rfl
  · cases moment

theorem isTable_of_decimal? {cs rest : List Char} {d : Datum}
    (read : decimal? cs = some (.ok d, rest)) : d.isTable = false := by
  obtain ⟨⟨whole, after⟩, -, made⟩ := Option.map_eq_some_iff.mp read
  dsimp only at made
  split at made
  · split at made
    · cases made
    · cases made
      rfl
  · cases made
    rfl

theorem isTable_of_special? {cs rest : List Char} {d : Datum}
    (read : special? cs = some (d, rest)) : d.isTable = false := by
  rw [special?] at read
  dsimp only at read
  split at read
  · cases read
    rfl
  · cases read
    rfl
  · cases read

/-- A scalar is no table. -/
theorem isTable_of_readScalar {cs rest : List Char} {d : Datum}
    (read : readScalar cs = .ok (d, rest)) : d.isTable = false := by
  rw [readScalar.eq_def] at read
  split at read
  · cases read
    rfl
  · cases read
    rfl
  · split at read
    next moment after found =>
      obtain ⟨d, rfl, read⟩ := bind_eq_ok.mp read
      cases read
      exact isTable_of_moment? found
    · split at read
      · cases read
        rfl
      · split at read
        · cases read
          rfl
        · split at read
          next number after found =>
            obtain ⟨d, rfl, read⟩ := bind_eq_ok.mp read
            cases read
            exact isTable_of_decimal? found
          · exact isTable_of_special? (demand_eq_ok.mp read)

/-- With so much fuel, keys stay apart in values and in tables on one line. -/
def KeyedReads (fuel : Nat) : Prop :=
  (∀ cs d rest, readValue fuel cs = .ok (d, rest) → Keyed d) ∧
  ∀ frozen table cs made rest, Keyed (.table table) →
    readInline fuel frozen table cs = .ok (made, rest) → Keyed (.table made)

theorem keyed_of_readValue_succ {fuel : Nat} (below : KeyedReads fuel) {cs rest : List Char}
    {d : Datum} (read : readValue (fuel + 1) cs = .ok (d, rest)) : Keyed d := by
  rw [readValue.eq_def] at read
  dsimp only at read
  split at read
  · cases read
  · obtain ⟨start, -, read⟩ := bind_eq_ok.mp read
    split at read
    · cases read
      exact .list _
    · obtain ⟨⟨items, after⟩, -, read⟩ := bind_eq_ok.mp read
      cases read
      exact .list _
  · split at read
    · cases read
      exact .empty
    · obtain ⟨⟨table, after⟩, inner, read⟩ := bind_eq_ok.mp read
      cases read
      exact below.2 _ _ _ _ _ .empty inner
  · split at read
    · obtain ⟨⟨content, after⟩, -, read⟩ := bind_eq_ok.mp read
      cases read
      exact .leaf rfl
    · exact .leaf (isTable_of_readScalar read)

theorem keyed_of_readInline_succ {fuel : Nat} (below : KeyedReads fuel)
    {frozen : List (List String)} {cs rest : List Char} (keyed : Keyed (.table table))
    (read : readInline (fuel + 1) frozen table cs = .ok (made, rest)) : Keyed (.table made) := by
  rw [readInline] at read
  obtain ⟨⟨key, after⟩, -, read⟩ := bind_eq_ok.mp read
  obtain ⟨after, -, read⟩ := bind_eq_ok.mp read
  obtain ⟨⟨value, after⟩, inner, read⟩ := bind_eq_ok.mp read
  obtain ⟨more, added, read⟩ := bind_eq_ok.mp read
  have keyed := keyed_of_addInline (below.1 _ _ _ inner) keyed (demand_eq_ok.mp added)
  split at read
  · cases read
    exact keyed
  · exact below.2 _ _ _ _ _ keyed read
  · cases read

theorem keyedReads (fuel : Nat) : KeyedReads fuel := by
  induction fuel with
  | zero =>
    refine ⟨fun cs d rest read => ?_, fun frozen table cs made rest _ read => ?_⟩
    · rw [readValue.eq_def] at read
      cases read
    · rw [readInline.eq_def] at read
      cases read
  | succ fuel below =>
    exact ⟨fun _ _ _ => keyed_of_readValue_succ below,
      fun _ _ _ _ _ => keyed_of_readInline_succ below⟩

/-! ## Lines -/

theorem keyed_of_readPair {cs rest : List Char} (read : readPair cs = .ok ((path, value), rest)) :
    Keyed value := by
  obtain ⟨⟨key, after⟩, -, read⟩ := bind_eq_ok.mp read
  obtain ⟨after, -, read⟩ := bind_eq_ok.mp read
  obtain ⟨⟨value, after⟩, inner, read⟩ := bind_eq_ok.mp read
  cases read
  exact (keyedReads _).1 _ _ _ inner

theorem keyed_of_openTable {d e : Document} (keyed : Keyed (.table d.data))
    (opened : d.closePending.openTable path = some e) : Keyed (.table e.data) := by
  rw [Document.openTable] at opened
  split at opened
  · cases opened
  · obtain ⟨data, changed, same⟩ := Option.bind_eq_some_iff.mp opened
    cases same
    refine keyed_of_updateAt (fun t t' keyed same => ?_) keyed changed
    exact Option.some.inj same ▸ keyed

theorem keyed_of_openItem {d e : Document} (keyed : Keyed (.table d.data))
    (opened : d.closePending.openItem path = some e) : Keyed (.table e.data) := by
  rw [Document.openItem] at opened
  split at opened
  · cases opened
  · obtain ⟨stem, -, opened⟩ := Option.bind_eq_some_iff.mp opened
    obtain ⟨data, changed, same⟩ := Option.bind_eq_some_iff.mp opened
    cases same
    exact keyed_of_updateAt (fun _ _ => keyed_of_addTable) keyed changed

theorem keyed_of_write {d e : Document} (value_keyed : Keyed value) (keyed : Keyed (.table d.data))
    (written : d.write path value = some e) : Keyed (.table e.data) := by
  obtain ⟨stem, -, written⟩ := Option.bind_eq_some_iff.mp written
  dsimp only at written
  split at written
  · cases written
  · obtain ⟨data, changed, same⟩ := Option.bind_eq_some_iff.mp written
    cases same
    exact keyed_of_updateAt (fun _ _ => keyed_of_addNew value_keyed) keyed changed

theorem keyed_of_readLine {d e : Document} {cs rest : List Char} (keyed : Keyed (.table d.data))
    (read : readLine d cs = .ok (e, rest)) : Keyed (.table e.data) := by
  rw [readLine.eq_def] at read
  split at read
  · obtain ⟨⟨key, after⟩, -, read⟩ := bind_eq_ok.mp read
    obtain ⟨opened, change, read⟩ := bind_eq_ok.mp read
    cases read
    exact keyed_of_openItem keyed (demand_eq_ok.mp change)
  · obtain ⟨⟨key, after⟩, -, read⟩ := bind_eq_ok.mp read
    obtain ⟨opened, change, read⟩ := bind_eq_ok.mp read
    cases read
    exact keyed_of_openTable keyed (demand_eq_ok.mp change)
  · cases read
    exact keyed
  · obtain ⟨⟨⟨key, value⟩, after⟩, pair, read⟩ := bind_eq_ok.mp read
    obtain ⟨written, change, read⟩ := bind_eq_ok.mp read
    cases read
    exact keyed_of_write (keyed_of_readPair pair) keyed (demand_eq_ok.mp change)

theorem keyed_of_readLines {fuel : Nat} {d e : Document} {cs : List Char}
    (keyed : Keyed (.table d.data)) (read : readLines fuel d cs = .ok e) :
    Keyed (.table e.data) := by
  induction fuel generalizing d cs with
  | zero =>
    cases read
    exact keyed
  | succ fuel ih =>
    rw [readLines] at read
    split at read
    · cases read
      exact keyed
    · exact ih keyed read
    · obtain ⟨⟨next, after⟩, line, read⟩ := bind_eq_ok.mp read
      have keyed := keyed_of_readLine keyed line
      obtain ⟨after, -, read⟩ := bind_eq_ok.mp read
      split at read
      · cases read
        exact keyed
      · exact ih keyed read
      · cases read

/-- In a document that was read, no key stands twice in a table. -/
theorem keyed_of_parse {s : String} (read : parse s = .ok table) : Keyed (.table table) := by
  obtain ⟨d, lines, read⟩ := bind_eq_ok.mp read
  cases read
  exact keyed_of_readLines .empty lines

end Toml
end NodePools
