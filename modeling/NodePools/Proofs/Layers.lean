import NodePools.Config.Loading

/-!
# What is found in layers

The value at a path of keys in a table that is laid over another one is told by the values at this
path in the two (`at?_overlay`): what stands in the upper one is laid over what stands in the lower
one, and where nothing stands in the upper one the lower one shows, unless something that is no
table covers the way to it.

So leaves, which are no tables, are looked up in the upper layer first and then in the lower one
(`leafAt_overlay_iff`).  To lay a table over what it has been laid over before changes nothing
(`overlay_absorb`).  All of this rests on keys that stand once in each table (`Datum.Keyed`), and
so they do again in what comes of it (`keyed_overlay`).
-/

namespace NodePools

/-! ## Tables within tables -/

namespace Datum

/-- Whether a datum is a table. -/
def isTable : Datum → Bool
  | .table _ => true
  | _ => false

/-- The value to which a path of keys leads. -/
def at? : List String → Datum → Option Datum
  | [], d => some d
  | key :: path, .table fields => (Fields.get? key fields).bind (at? path)
  | _ :: _, _ => none

/-- No key stands twice, in a table and in all tables that it leads to. -/
inductive Keyed : Datum → Prop
  | leaf {d : Datum} : d.isTable = false → Keyed d
  | table {fields : Fields Datum} : fields.Distinct → (∀ e ∈ fields, Keyed e.2) →
    Keyed (.table fields)

theorem exists_table_iff {d : Datum} : (∃ fields, d = .table fields) ↔ d.isTable = true := by
  cases d with
  | table fields => exact ⟨fun _ => rfl, fun _ => ⟨fields, rfl⟩⟩
  | _ => exact ⟨nofun, nofun⟩

theorem at?_cons (key : String) (path : List String) (fields : Fields Datum) :
    at? (key :: path) (.table fields) = (Fields.get? key fields).bind (at? path) := rfl

theorem at?_cons_of_leaf {d : Datum} (leaf : d.isTable = false) (key : String)
    (path : List String) : at? (key :: path) d = none := by
  cases d with
  | table fields => cases leaf
  | _ => rfl

namespace Keyed

variable {fields : Fields Datum}

theorem distinct (keyed : Keyed (.table fields)) : fields.Distinct := by
  cases keyed with
  | leaf none => cases none
  | table distinct _ => exact distinct

theorem of_mem (keyed : Keyed (.table fields)) {e : String × Datum} (mem : e ∈ fields) :
    Keyed e.2 := by
  cases keyed with
  | leaf none => cases none
  | table _ each => exact each e mem

theorem of_get? (keyed : Keyed (.table fields)) {key : String} {d : Datum}
    (found : Fields.get? key fields = some d) : Keyed d :=
  keyed.of_mem (Fields.mem_of_get? found)

theorem of_at? {d : Datum} (keyed : Keyed d) {path : List String} {inner : Datum}
    (found : at? path d = some inner) : Keyed inner := by
  induction path generalizing d with
  | nil =>
    cases found
    exact keyed
  | cons key path ih =>
    cases d with
    | table fields =>
      obtain ⟨next, here, later⟩ := Option.bind_eq_some_iff.mp found
      exact ih (keyed.of_get? here) later
    | _ => cases found

end Keyed
end Datum

namespace Config

open Datum (at? Keyed)

/-! ## One table over another -/

theorem overlayValue_of_leaf {upper : Datum} (leaf : upper.isTable = false)
    (lower : Option Datum) : overlayValue lower upper = upper := by
  cases upper with
  | table entries => cases leaf
  | _ => rw [overlayValue]; exact fun _ same => nomatch same

/-- A table covers what is no table. -/
theorem overlayValue_of_cover {lower : Option Datum} (cover : ∀ t, lower ≠ some (.table t))
    (upper : Datum) : overlayValue lower upper = upper := by
  cases upper with
  | table entries =>
    rw [overlayValue]
    exact cover
  | _ => exact overlayValue_of_leaf rfl lower

theorem overlayValue_none (upper : Datum) : overlayValue none upper = upper :=
  overlayValue_of_cover (fun t => (Option.some_ne_none (Datum.table t)).symm) upper

theorem overlayValue_tables (fields entries : Fields Datum) :
    overlayValue (some (.table fields)) (.table entries) = .table (overlay fields entries) := by
  rw [overlayValue]

theorem isTable_overlayValue (lower : Option Datum) (upper : Datum) :
    (overlayValue lower upper).isTable = upper.isTable := by
  cases upper with
  | table entries =>
    by_cases table : ∃ fields, lower = some (.table fields)
    · obtain ⟨fields, rfl⟩ := table
      rw [overlayValue_tables]
      rfl
    · rw [overlayValue_of_cover fun t same => table ⟨t, same⟩]
  | _ => rw [overlayValue_of_leaf rfl]

theorem overlayValue_eq_leaf_iff {upper leaf : Datum} (none : leaf.isTable = false)
    (lower : Option Datum) : overlayValue lower upper = leaf ↔ upper = leaf := by
  constructor
  · rintro rfl
    rw [isTable_overlayValue] at none
    exact (overlayValue_of_leaf none lower).symm
  · rintro rfl
    exact overlayValue_of_leaf none lower

variable {lower upper : Fields Datum}

theorem overlay_nil (lower : Fields Datum) : overlay lower [] = lower := by
  rw [overlay]

theorem overlay_cons (lower : Fields Datum) (key : String) (d : Datum) (rest : Fields Datum) :
    overlay lower ((key, d) :: rest) =
      overlay (Fields.set key (overlayValue (Fields.get? key lower) d) lower) rest := by
  rw [overlay]

theorem get?_overlay (distinct : upper.Distinct) (key : String) :
    Fields.get? key (overlay lower upper) =
      match Fields.get? key upper with
      | some d => some (overlayValue (Fields.get? key lower) d)
      | none => Fields.get? key lower := by
  induction upper generalizing lower with
  | nil => rw [overlay_nil]; rfl
  | cons e rest ih =>
    obtain ⟨first, d⟩ := e
    obtain ⟨fresh, others⟩ := List.nodup_cons.mp distinct
    rw [overlay_cons, ih others, Fields.get?_set, Fields.get?]
    by_cases same : first = key
    · subst same
      rw [Fields.get?_eq_none_iff.mpr fresh, if_pos rfl, if_pos rfl]
    · rw [if_neg (Ne.symm same), if_neg same]

theorem get?_overlay_of_some (distinct : upper.Distinct) {key : String} {d : Datum}
    (found : Fields.get? key upper = some d) :
    Fields.get? key (overlay lower upper) = some (overlayValue (Fields.get? key lower) d) := by
  rw [get?_overlay distinct, found]

theorem get?_overlay_of_absent (distinct : upper.Distinct) {key : String}
    (absent : Fields.get? key upper = none) :
    Fields.get? key (overlay lower upper) = Fields.get? key lower := by
  rw [get?_overlay distinct, absent]

/-- The keys of the lower table come first, and then the new ones of the upper. -/
theorem keys_overlay (distinct : upper.Distinct) :
    (overlay lower upper).keys = lower.keys ++ upper.keys.filter fun key => key ∉ lower.keys := by
  induction upper generalizing lower with
  | nil => rw [overlay_nil]; exact (List.append_nil _).symm
  | cons e rest ih =>
    obtain ⟨key, d⟩ := e
    obtain ⟨fresh, others⟩ := List.nodup_cons.mp distinct
    have later : ∀ k ∈ Fields.keys rest, k ≠ key := fun k mem same => fresh (same ▸ mem)
    have split : Fields.keys ((key, d) :: rest) = key :: Fields.keys rest := rfl
    rw [overlay_cons, ih others, Fields.keys_set, split]
    by_cases there : key ∈ lower.keys
    · rw [if_pos there, List.filter_cons_of_neg (by simpa using there)]
    · rw [if_neg there, List.filter_cons_of_pos (by simpa using there), List.append_assoc,
        List.singleton_append]
      congr 2
      refine List.filter_congr fun k mem => ?_
      simp only [List.mem_append, List.mem_singleton, later k mem, or_false]

theorem distinct_overlay (distinct : lower.Distinct) : (overlay lower upper).Distinct := by
  induction upper generalizing lower with
  | nil => rw [overlay_nil]; exact distinct
  | cons e rest ih =>
    obtain ⟨key, d⟩ := e
    rw [overlay_cons]
    exact ih (distinct.set key _)

theorem keyed_overlayValue {lower : Option Datum} {upper : Datum} (keyed : Keyed upper)
    (below : ∀ d, lower = some d → Keyed d) : Keyed (overlayValue lower upper) := by
  induction keyed generalizing lower with
  | leaf leaf =>
    rw [overlayValue_of_leaf leaf]
    exact .leaf leaf
  | @table entries distinct each ih =>
    by_cases table : ∃ fields, lower = some (.table fields)
    · obtain ⟨fields, rfl⟩ := table
      have keyed := below _ rfl
      have made : Fields.Distinct (overlay fields entries) := distinct_overlay keyed.distinct
      rw [overlayValue_tables]
      refine .table made fun e mem => ?_
      have found := Fields.get?_eq_some_of_mem made mem
      cases above : Fields.get? e.1 entries with
      | none =>
        rw [get?_overlay_of_absent distinct above] at found
        exact keyed.of_get? found
      | some d =>
        rw [get?_overlay_of_some distinct above] at found
        rw [← Option.some.inj found]
        exact ih _ (Fields.mem_of_get? above) fun d' here => keyed.of_get? here
    · rw [overlayValue_of_cover fun t same => table ⟨t, same⟩]
      exact .table distinct each

/-- One table over another has distinct keys, within as well, if both of them do. -/
theorem keyed_overlay (keyed : Keyed (.table upper)) (below : Keyed (.table lower)) :
    Keyed (.table (overlay lower upper)) := by
  rw [← overlayValue_tables]
  refine keyed_overlayValue keyed fun d same => ?_
  exact Option.some.inj same ▸ below

/-- Keys that are all new come behind the others. -/
theorem overlay_of_distinct (distinct : (lower ++ upper).Distinct) :
    overlay lower upper = lower ++ upper := by
  induction upper generalizing lower with
  | nil => rw [overlay_nil, List.append_nil]
  | cons e rest ih =>
    obtain ⟨key, d⟩ := e
    have fresh : key ∉ lower.keys := by
      simp only [Fields.Distinct, Fields.keys, List.map_append, List.map_cons] at distinct
      exact fun mem => (List.nodup_append.mp distinct).2.2 _ mem _ List.mem_cons_self rfl
    rw [List.append_cons] at distinct ⊢
    rw [overlay_cons, Fields.get?_eq_none_iff.mpr fresh, overlayValue_none,
      Fields.set_of_not_mem fresh, ih distinct]

theorem overlay_nil_left (distinct : upper.Distinct) : overlay [] upper = upper :=
  overlay_of_distinct distinct

/-! ## Again the same -/

/-- What leaves every value as it is leaves the table as it is. -/
theorem overlay_eq_self
    (each : ∀ e ∈ upper, ∃ d, Fields.get? e.1 lower = some d ∧ overlayValue (some d) e.2 = d) :
    overlay lower upper = lower := by
  induction upper with
  | nil => exact overlay_nil lower
  | cons e rest ih =>
    obtain ⟨⟨d, found, same⟩, others⟩ := List.forall_mem_cons.mp each
    rw [overlay_cons, found, same, Fields.set_of_get? found, ih others]

/-- To lay a table over a result of laying it over something changes nothing. -/
theorem overlay_absorb_of_each (distinct : upper.Distinct)
    (each : ∀ e ∈ upper, ∀ d, overlayValue (some (overlayValue d e.2)) e.2 = overlayValue d e.2) :
    overlay (overlay lower upper) upper = overlay lower upper := by
  refine overlay_eq_self fun e mem => ⟨_, ?_, each e mem (Fields.get? e.1 lower)⟩
  exact get?_overlay_of_some distinct (Fields.get?_eq_some_of_mem distinct mem)

theorem overlayValue_absorb {upper : Datum} (keyed : Keyed upper) (lower : Option Datum) :
    overlayValue (some (overlayValue lower upper)) upper = overlayValue lower upper := by
  induction keyed generalizing lower with
  | leaf leaf => rw [overlayValue_of_leaf leaf, overlayValue_of_leaf leaf]
  | @table entries distinct _ ih =>
    have absorb (fields : Fields Datum) :
        overlay (overlay fields entries) entries = overlay fields entries :=
      overlay_absorb_of_each distinct ih
    by_cases table : ∃ fields, lower = some (.table fields)
    · obtain ⟨fields, rfl⟩ := table
      rw [overlayValue_tables, overlayValue_tables, absorb]
    · rw [overlayValue_of_cover (fun t same => table ⟨t, same⟩), overlayValue_tables]
      have again := absorb []
      rw [overlay_nil_left distinct] at again
      exact congrArg Datum.table again

theorem overlay_absorb (keyed : Keyed (.table upper)) (lower : Fields Datum) :
    overlay (overlay lower upper) upper = overlay lower upper :=
  overlay_absorb_of_each keyed.distinct fun _ mem _ => overlayValue_absorb (keyed.of_mem mem) _

theorem overlay_self (keyed : Keyed (.table upper)) : overlay upper upper = upper := by
  have again := overlay_absorb keyed []
  rwa [overlay_nil_left keyed.distinct] at again

/-! ## Paths through layers -/

/-- A leaf at a path: a value that is no table. -/
def LeafAt (path : List String) (d : Datum) (fields : Fields Datum) : Prop :=
  at? path (.table fields) = some d ∧ d.isTable = false

/-- Nothing stands at a path, and no leaf on the way to it. -/
def Uncovered (path : List String) (upper : Fields Datum) : Prop :=
  at? path (.table upper) = none ∧ ∀ way, way ≠ [] → way <+: path → ∀ d, ¬LeafAt way d upper

/-- The keys of the table at a path, none if there is no table. -/
def keysAt (path : List String) (fields : Fields Datum) : List String :=
  match at? path (.table fields) with
  | some (.table inner) => Fields.keys inner
  | _ => []

theorem at?_cons_of_get? {key : String} {d : Datum} (found : Fields.get? key upper = some d)
    (path : List String) : at? (key :: path) (.table upper) = at? path d := by
  rw [Datum.at?_cons, found, Option.bind_some]

theorem at?_cons_of_absent {key : String} (absent : Fields.get? key upper = none)
    (path : List String) : at? (key :: path) (.table upper) = none := by
  rw [Datum.at?_cons, absent, Option.bind_none]

theorem uncovered_of_absent {key : String} (absent : Fields.get? key upper = none)
    (path : List String) : Uncovered (key :: path) upper := by
  refine ⟨at?_cons_of_absent absent path, fun way some before d leaf => ?_⟩
  cases way with
  | nil => exact some rfl
  | cons first way =>
    obtain ⟨rfl, -⟩ := List.cons_prefix_cons.mp before
    cases (at?_cons_of_absent absent way).symm.trans leaf.1

theorem not_uncovered_of_leaf {key : String} {d : Datum} (found : Fields.get? key upper = some d)
    (leaf : d.isTable = false) (path : List String) : ¬Uncovered (key :: path) upper :=
  fun free => free.2 [key] (List.cons_ne_nil _ _) (List.cons_prefix_cons.mpr ⟨rfl, List.nil_prefix⟩)
    d ⟨at?_cons_of_get? found [], leaf⟩

/-- Whether a way through a table is covered is told in this table. -/
theorem uncovered_cons {key : String} {entries : Fields Datum}
    (found : Fields.get? key upper = some (.table entries)) (path : List String) :
    Uncovered (key :: path) upper ↔ Uncovered path entries := by
  rw [Uncovered, Uncovered, at?_cons_of_get? found]
  refine and_congr_right fun _ => ⟨fun free way some before d leaf => ?_,
    fun free way some before d leaf => ?_⟩
  · refine free (key :: way) (List.cons_ne_nil _ _) (List.cons_prefix_cons.mpr ⟨rfl, before⟩) d ?_
    exact ⟨(at?_cons_of_get? found way).trans leaf.1, leaf.2⟩
  · cases way with
    | nil => exact some rfl
    | cons first way =>
      obtain ⟨rfl, inside⟩ := List.cons_prefix_cons.mp before
      have inner : LeafAt way d entries := ⟨(at?_cons_of_get? found way).symm.trans leaf.1, leaf.2⟩
      cases way with
      | nil =>
        obtain rfl := Option.some.inj inner.1
        cases inner.2
      | cons second way => exact free _ (List.cons_ne_nil _ _) inside d inner

/-- Where the lower layer has no table under a key, nothing of it comes through the table of the
upper one. -/
theorem overlayValue_behind_cover {key : String}
    (cover : ∀ t, Fields.get? key lower ≠ some (.table t)) (entries : Fields Datum)
    (path : List String) :
    match at? path (.table entries) with
    | some d => overlayValue (at? (key :: path) (.table lower)) d = d
    | none => at? (key :: path) (.table lower) = none := by
  cases path with
  | nil =>
    have here : at? [key] (.table lower) = Fields.get? key lower := Option.bind_fun_some _
    exact overlayValue_of_cover (here ▸ cover) _
  | cons next path =>
    have hidden : at? (key :: next :: path) (.table lower) = none := by
      cases here : Fields.get? key lower with
      | none => exact at?_cons_of_absent here _
      | some d =>
        rw [at?_cons_of_get? here]
        refine Datum.at?_cons_of_leaf (Bool.eq_false_iff.mpr fun table => ?_) next path
        obtain ⟨fields, rfl⟩ := Datum.exists_table_iff.mpr table
        exact cover fields here
    rw [hidden]
    cases at? (next :: path) (.table entries) with
    | none => rfl
    | some d => exact overlayValue_none d

open Classical in
/-- What stands at a path in the upper layer is laid over what stands there in the lower one.
Where nothing does the lower one shows, if it is not covered. -/
theorem at?_overlay (keyed : Keyed (.table upper)) (path : List String) (lower : Fields Datum) :
    at? path (.table (overlay lower upper)) =
      match at? path (.table upper) with
      | some d => some (overlayValue (at? path (.table lower)) d)
      | none => if Uncovered path upper then at? path (.table lower) else none := by
  induction path generalizing lower upper with
  | nil => exact congrArg some (overlayValue_tables lower upper).symm
  | cons key path ih =>
    cases there : Fields.get? key upper with
    | none =>
      rw [Datum.at?_cons, get?_overlay_of_absent keyed.distinct there, ← Datum.at?_cons,
        at?_cons_of_absent there]
      exact (if_pos (uncovered_of_absent there path)).symm
    | some d =>
      rw [at?_cons_of_get? (get?_overlay_of_some keyed.distinct there), at?_cons_of_get? there]
      -- Only where both layers have a table does the way lead on in both of them.
      cases leaf : d.isTable with
      | false =>
        rw [overlayValue_of_leaf leaf, if_neg (not_uncovered_of_leaf there leaf path)]
        cases path with
        | nil => exact congrArg some (overlayValue_of_leaf leaf _).symm
        | cons next path => rw [Datum.at?_cons_of_leaf leaf]
      | true =>
        obtain ⟨entries, rfl⟩ := Datum.exists_table_iff.mpr leaf
        rw [uncovered_cons there]
        by_cases table : ∃ fields, Fields.get? key lower = some (.table fields)
        · obtain ⟨fields, here⟩ := table
          rw [here, overlayValue_tables, at?_cons_of_get? here]
          exact ih (keyed.of_get? there) fields
        · have cover : ∀ t, Fields.get? key lower ≠ some (.table t) := fun t h => table ⟨t, h⟩
          have behind := overlayValue_behind_cover cover entries path
          rw [overlayValue_of_cover cover]
          cases found : at? path (.table entries) with
          | none =>
            rw [found] at behind
            dsimp only at behind
            rw [behind, ite_self]
          | some d =>
            rw [found] at behind
            exact congrArg some behind.symm

section

variable {path : List String}

theorem at?_overlay_of_some (keyed : Keyed (.table upper)) {d : Datum}
    (found : at? path (.table upper) = some d) :
    at? path (.table (overlay lower upper)) =
      some (overlayValue (at? path (.table lower)) d) := by
  rw [at?_overlay keyed, found]

theorem at?_overlay_of_uncovered (keyed : Keyed (.table upper)) (free : Uncovered path upper) :
    at? path (.table (overlay lower upper)) = at? path (.table lower) := by
  rw [at?_overlay keyed, free.1]
  exact if_pos free

theorem at?_overlay_of_covered (keyed : Keyed (.table upper))
    (absent : at? path (.table upper) = none) (covered : ¬Uncovered path upper) :
    at? path (.table (overlay lower upper)) = none := by
  rw [at?_overlay keyed, absent]
  exact if_neg covered

theorem not_uncovered_of_some {d : Datum} (found : at? path (.table upper) = some d) :
    ¬Uncovered path upper := fun free => nomatch found.symm.trans free.1

theorem keysAt_of_table {t : Fields Datum} (found : at? path (.table upper) = some (.table t)) :
    keysAt path upper = t.keys := by
  rw [keysAt, found]

theorem keysAt_of_other (other : ∀ t, at? path (.table upper) ≠ some (.table t)) :
    keysAt path upper = [] := by
  rw [keysAt]
  split
  next t found => exact absurd found (other t)
  · rfl

end

/-- What one table laid over another one is, told by paths. -/
structure Layered (lower upper merged : Fields Datum) : Prop where
  /-- A leaf is that of the upper layer, or that of the lower one if it is not covered. -/
  leaf_iff (path : List String) (d : Datum) : LeafAt path d merged ↔
    LeafAt path d upper ∨ (LeafAt path d lower ∧ Uncovered path upper)
  /-- And so for the paths at which there are tables. -/
  table_iff (path : List String) : (∃ t, at? path (.table merged) = some (.table t)) ↔
    (∃ t, at? path (.table upper) = some (.table t)) ∨
      ((∃ t, at? path (.table lower) = some (.table t)) ∧ Uncovered path upper)
  /-- The keys of each table are those of the lower layer, and then the new ones. -/
  keys_eq (path : List String) (t : Fields Datum) :
    at? path (.table merged) = some (.table t) →
    t.keys = keysAt path lower ++ (keysAt path upper).filter fun key => key ∉ keysAt path lower

/-- Where laying over keeps of which kind a value is, values of this kind are found in the upper
layer, or in the lower one where they are not covered. -/
theorem found_overlay_iff (keyed : Keyed (.table upper)) (path : List String) {kind : Datum → Prop}
    (kept : ∀ lower d, kind (overlayValue lower d) ↔ kind d) :
    (∃ d, at? path (.table (overlay lower upper)) = some d ∧ kind d) ↔
      (∃ d, at? path (.table upper) = some d ∧ kind d) ∨
        (∃ d, at? path (.table lower) = some d ∧ kind d) ∧ Uncovered path upper := by
  cases above : at? path (.table upper) with
  | none =>
    by_cases free : Uncovered path upper
    · rw [at?_overlay_of_uncovered keyed free]
      exact ⟨fun found => .inr ⟨found, free⟩,
        fun h => (h.resolve_left fun ⟨_, same, _⟩ => nomatch same).1⟩
    · rw [at?_overlay_of_covered keyed above free]
      exact ⟨.inl, fun h => h.resolve_right fun hidden => free hidden.2⟩
  | some v =>
    rw [at?_overlay_of_some keyed above,
      or_iff_left fun hidden => not_uncovered_of_some above hidden.2]
    simp only [Option.some.injEq, exists_eq_left', kept]

theorem leafAt_iff {fields : Fields Datum} {path : List String} {leaf : Datum} :
    LeafAt path leaf fields ↔
      ∃ d, at? path (.table fields) = some d ∧ d = leaf ∧ leaf.isTable = false := by
  constructor
  · rintro ⟨found, none⟩
    exact ⟨leaf, found, rfl, none⟩
  · rintro ⟨_, found, rfl, none⟩
    exact ⟨found, none⟩

theorem leafAt_overlay_iff (keyed : Keyed (.table upper)) (path : List String) (leaf : Datum) :
    LeafAt path leaf (overlay lower upper) ↔
      LeafAt path leaf upper ∨ (LeafAt path leaf lower ∧ Uncovered path upper) := by
  simp only [leafAt_iff]
  refine found_overlay_iff keyed path fun below d => and_congr_left fun none => ?_
  exact overlayValue_eq_leaf_iff none below

theorem tableAt_overlay_iff (keyed : Keyed (.table upper)) (path : List String) :
    (∃ t, at? path (.table (overlay lower upper)) = some (.table t)) ↔
      (∃ t, at? path (.table upper) = some (.table t)) ∨
        ((∃ t, at? path (.table lower) = some (.table t)) ∧ Uncovered path upper) := by
  have by_kind (fields : Fields Datum) : (∃ t, at? path (.table fields) = some (.table t)) ↔
      ∃ d, at? path (.table fields) = some d ∧ d.isTable = true := by
    simp only [← Datum.exists_table_iff]
    exact ⟨fun ⟨t, found⟩ => ⟨_, found, t, rfl⟩, fun ⟨_, found, t, same⟩ => ⟨t, same ▸ found⟩⟩
  simp only [by_kind]
  refine found_overlay_iff keyed path fun below d => ?_
  rw [isTable_overlayValue]

theorem keysAt_overlay (keyed : Keyed (.table upper)) (path : List String) {t : Fields Datum}
    (found : at? path (.table (overlay lower upper)) = some (.table t)) :
    t.keys =
      keysAt path lower ++ (keysAt path upper).filter fun key => key ∉ keysAt path lower := by
  rcases (tableAt_overlay_iff keyed path).mp ⟨t, found⟩ with ⟨entries, above⟩ | ⟨-, free⟩
  · rw [at?_overlay_of_some keyed above] at found
    rw [keysAt_of_table above]
    by_cases below : ∃ fields, at? path (.table lower) = some (.table fields)
    · obtain ⟨fields, below⟩ := below
      rw [below, overlayValue_tables] at found
      obtain rfl := Datum.table.inj (Option.some.inj found)
      rw [keysAt_of_table below]
      exact keys_overlay (keyed.of_at? above).distinct
    · have other : ∀ fields, at? path (.table lower) ≠ some (.table fields) :=
        fun fields h => below ⟨fields, h⟩
      rw [overlayValue_of_cover other] at found
      obtain rfl := Datum.table.inj (Option.some.inj found)
      rw [keysAt_of_other other, List.nil_append]
      exact (List.filter_eq_self.mpr fun key _ => decide_eq_true List.not_mem_nil).symm
  · rw [at?_overlay_of_uncovered keyed free] at found
    have absent : keysAt path upper = [] := keysAt_of_other fun entries h => by
      cases free.1.symm.trans h
    rw [keysAt_of_table found, absent]
    exact (List.append_nil _).symm

theorem layered_overlay (keyed : Keyed (.table upper)) (lower : Fields Datum) :
    Layered lower upper (overlay lower upper) where
  leaf_iff := leafAt_overlay_iff keyed
  table_iff := tableAt_overlay_iff keyed
  keys_eq path _ := keysAt_overlay keyed path

end Config
end NodePools
