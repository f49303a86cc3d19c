/-!
# Ordered mappings

A mapping from texts to values that remembers in which order its keys were
first given.  Setting a key that is there keeps its place and replaces its
value.  Entries are a plain list, so that values may hold mappings themselves;
`Distinct` says that no key stands twice, and every operation here keeps it.
-/

namespace NodePools

/-- The entries of an ordered mapping. -/
abbrev Fields (α : Type) := List (String × α)

namespace Fields

variable {α β : Type}

/-- The keys in order. -/
def keys (fields : Fields α) : List String := fields.map Prod.fst

/-- No key stands twice. -/
def Distinct (fields : Fields α) : Prop := fields.keys.Nodup

/-- The value under a key. -/
def get? (key : String) : Fields α → Option α
  | [] => none
  | (k, v) :: rest => if k = key then some v else get? key rest

/-- Whether a key is there. -/
def has (fields : Fields α) (key : String) : Bool := (get? key fields).isSome

/-- Sets a key: in its place if it is there, else at the end. -/
def set (key : String) (value : α) : Fields α → Fields α
  | [] => [(key, value)]
  | (k, v) :: rest => if k = key then (k, value) :: rest else (k, v) :: set key value rest

/-- Sets the keys of the second mapping, in their order, in the first. -/
def setAll (fields new : Fields α) : Fields α :=
  new.foldl (fun acc e => set e.1 e.2 acc) fields

/-- The mapping given by pairs of which a later one wins. -/
def ofPairs (pairs : List (String × α)) : Fields α := setAll [] pairs

/-- Sets a key unless it is there. -/
def setDefault (key : String) (value : α) (fields : Fields α) : Fields α :=
  if fields.has key then fields else fields ++ [(key, value)]

/-- Changes every value. -/
def mapValues (f : α → β) (fields : Fields α) : Fields β := fields.map fun e => (e.1, f e.2)

@[simp] theorem get?_nil (key : String) : get? key ([] : Fields α) = none := rfl

theorem get?_set (key k : String) (v : α) (fields : Fields α) :
    get? k (set key v fields) = if k = key then some v else get? k fields := by
  induction fields with
  | nil => grind [set, get?]
  | cons e rest ih =>
    obtain ⟨k', v'⟩ := e
    simp only [set]
    split <;> simp only [get?] <;> grind

theorem keys_set (key : String) (v : α) (fields : Fields α) :
    (set key v fields).keys =
      if key ∈ fields.keys then fields.keys else fields.keys ++ [key] := by
  induction fields with
  | nil => simp [set, keys]
  | cons e rest ih =>
    obtain ⟨k', v'⟩ := e
    simp only [set, keys] at ih ⊢
    split <;> grind

theorem get?_append (key : String) (fields new : Fields α) :
    get? key (fields ++ new) = (get? key fields).or (get? key new) := by
  induction fields with
  | nil => rfl
  | cons e rest ih =>
    obtain ⟨k, v⟩ := e
    simp only [List.cons_append, get?]
    split
    · rfl
    · exact ih

theorem get?_setDefault (key k : String) (v : α) (fields : Fields α) :
    get? k (setDefault key v fields) = (get? k fields).or (if k = key then some v else none) := by
  rw [setDefault, has]
  by_cases there : (get? key fields).isSome
  · rw [if_pos there]
    obtain ⟨w, found⟩ := Option.isSome_iff_exists.mp there
    split
    next same => rw [same, found, Option.some_or]
    · rw [Option.or_none]
  · rw [if_neg there, get?_append, get?, get?]
    simp only [eq_comm (a := key)]

theorem Distinct.set {fields : Fields α} (h : fields.Distinct) (key : String) (v : α) :
    (Fields.set key v fields).Distinct := by
  unfold Distinct at *
  rw [keys_set]
  split
  · exact h
  · grind

theorem set_of_not_mem {key : String} {v : α} {fields : Fields α} (h : key ∉ fields.keys) :
    set key v fields = fields ++ [(key, v)] := by
  induction fields with
  | nil => rfl
  | cons e rest ih =>
    obtain ⟨k, w⟩ := e
    simp only [keys, List.map_cons, List.mem_cons, not_or] at h
    simp only [set, if_neg (Ne.symm h.1), ih h.2, List.cons_append]

/-- Keys that are all new stand behind the others, in their order. -/
theorem setAll_of_distinct {fields new : Fields α} (h : (fields ++ new).Distinct) :
    setAll fields new = fields ++ new := by
  induction new generalizing fields with
  | nil => exact (List.append_nil fields).symm
  | cons e rest ih =>
    have fresh : e.1 ∉ fields.keys := by
      simp only [Distinct, keys, List.map_append, List.map_cons] at h
      exact fun mem => (List.nodup_append.mp h).2.2 _ mem _ List.mem_cons_self rfl
    rw [List.append_cons] at h ⊢
    show setAll (set e.1 e.2 fields) rest = _
    rw [set_of_not_mem fresh]
    exact ih h

/-- Pairs of distinct keys are the mapping that they give. -/
theorem ofPairs_of_distinct {pairs : Fields α} (h : pairs.Distinct) : ofPairs pairs = pairs :=
  setAll_of_distinct h

theorem get?_eq_some_of_mem {fields : Fields α} (h : fields.Distinct) {key : String} {v : α}
    (mem : (key, v) ∈ fields) : get? key fields = some v := by
  induction fields with
  | nil => cases mem
  | cons e rest ih =>
    obtain ⟨k, w⟩ := e
    simp only [Distinct, keys, List.map_cons, List.nodup_cons] at h
    rcases List.mem_cons.mp mem with same | mem
    · cases same
      simp only [get?, if_true]
    · have other : k ≠ key := fun same => h.1 (same ▸ List.mem_map_of_mem mem)
      simp only [get?, if_neg other]
      exact ih h.2 mem

theorem mem_of_get? {fields : Fields α} {key : String} {v : α} (h : get? key fields = some v) :
    (key, v) ∈ fields := by
  induction fields with
  | nil => cases h
  | cons e rest ih =>
    obtain ⟨k, w⟩ := e
    simp only [get?] at h
    split at h
    next same =>
      cases h
      exact same ▸ List.mem_cons_self
    · exact List.mem_cons_of_mem _ (ih h)

theorem get?_eq_none_iff {key : String} {fields : Fields α} :
    get? key fields = none ↔ key ∉ fields.keys := by
  induction fields with
  | nil => exact ⟨fun _ => List.not_mem_nil, fun _ => rfl⟩
  | cons e rest ih =>
    obtain ⟨k, v⟩ := e
    rw [get?, keys, List.map_cons, List.mem_cons, not_or, ← keys, ← ih]
    split
    next same => exact ⟨nofun, fun h => absurd same.symm h.1⟩
    next other => exact (and_iff_right (Ne.symm other)).symm

theorem mem_set {key : String} {v : α} {fields : Fields α} {e : String × α}
    (mem : e ∈ set key v fields) : e = (key, v) ∨ e ∈ fields := by
  induction fields with
  | nil => exact .inl (List.mem_singleton.mp mem)
  | cons first rest ih =>
    obtain ⟨k, w⟩ := first
    rw [set] at mem
    split at mem
    next same =>
      subst same
      exact (List.mem_cons.mp mem).imp_right (List.mem_cons_of_mem _)
    · rcases List.mem_cons.mp mem with rfl | mem
      · exact .inr List.mem_cons_self
      · exact (ih mem).imp_right (List.mem_cons_of_mem _)

/-- To set a key to the value it has changes nothing. -/
theorem set_of_get? {key : String} {v : α} {fields : Fields α} (found : get? key fields = some v) :
    set key v fields = fields := by
  induction fields with
  | nil => cases found
  | cons e rest ih =>
    obtain ⟨k, w⟩ := e
    rw [get?] at found
    rw [set]
    split at found
    next same =>
      cases found
      rw [if_pos same]
    next other => rw [if_neg other, ih found]

theorem get?_mapValues (f : α → β) (key : String) (fields : Fields α) :
    get? key (mapValues f fields) = (get? key fields).map f := by
  induction fields with
  | nil => rfl
  | cons e rest ih =>
    rw [mapValues, List.map_cons, get?, get?, ← mapValues, ih]
    split <;> rfl

end Fields
end NodePools
