import Mathlib.Data.List.Induction
import Mathlib.Logic.Function.Basic

/-!
# Values written under keys

Objects are stored in their places, and stacks are applied under their names: values are
written under keys, and each takes the place of what was there.  Under the key of a value that
was written stands the last value with this key (`exists_of_written`), and so that value itself
if no two values have one key (`written_of_mem`).  To write once more what stands there already
changes nothing (`written_present`), nor does it to write all values once more in the same order
(`written_twice`).
-/

namespace NodePools

variable {γ κ ν : Type} [DecidableEq κ]

/-- What is held with one more value under its key. -/
def written (key : γ → κ) (value : γ → ν) (held : κ → Option ν) (x : γ) : κ → Option ν :=
  Function.update held (key x) (some (value x))

variable {key : γ → κ} {value : γ → ν} {xs : List γ} {held held' : κ → Option ν} {k : κ}

/-- Under the key of a value that was written stands a value that was written under this key. -/
theorem exists_of_written {x : γ} (mem : x ∈ xs) (held : κ → Option ν) :
    ∃ y ∈ xs, key y = key x ∧ xs.foldl (written key value) held (key x) = some (value y) := by
  induction xs using List.reverseRecOn with
  | nil => cases mem
  | append_singleton xs last ih =>
    rw [List.foldl_append, List.foldl_cons, List.foldl_nil, written]
    by_cases place : key x = key last
    · refine ⟨last, List.mem_append_right _ (List.mem_singleton_self _), place.symm, ?_⟩
      rw [place, Function.update_self]
    · rw [Function.update_of_ne place]
      have inside : x ∈ xs := by
        refine (List.mem_append.mp mem).resolve_right fun one => place ?_
        rw [List.mem_singleton.mp one]
      obtain ⟨y, mem', same, found⟩ := ih inside
      exact ⟨y, List.mem_append_left _ mem', same, found⟩

/-- A value that was written stands under its key if no other one was written there. -/
theorem written_of_mem {x : γ} (mem : x ∈ xs)
    (same : ∀ y ∈ xs, key y = key x → value y = value x) (held : κ → Option ν) :
    xs.foldl (written key value) held (key x) = some (value x) := by
  obtain ⟨y, mem', place, found⟩ := exists_of_written mem held
  rw [found, same y mem' place]

/-- Two holdings that differ at most under keys of the values do not differ once these are
written. -/
theorem written_congr (agree : (∃ x ∈ xs, key x = k) ∨ held k = held' k) :
    xs.foldl (written key value) held k = xs.foldl (written key value) held' k := by
  induction xs generalizing held held' with
  | nil => exact agree.resolve_left fun ⟨_, mem, _⟩ => nomatch mem
  | cons x xs ih =>
    refine ih ?_
    by_cases here : key x = k
    · right
      rw [written, written, here, Function.update_self, Function.update_self]
    · rw [written, written, Function.update_of_ne (Ne.symm here), Function.update_of_ne (Ne.symm here)]
      refine agree.imp_left ?_
      rintro ⟨y, mem, same⟩
      rcases List.mem_cons.mp mem with rfl | mem
      · exact absurd same here
      · exact ⟨y, mem, same⟩

/-- Under a key of none of the values stands what stood there. -/
theorem written_of_not_mem (other : ∀ x ∈ xs, key x ≠ k) :
    xs.foldl (written key value) held k = held k := by
  induction xs generalizing held with
  | nil => rfl
  | cons x xs ih =>
    obtain ⟨here, later⟩ := List.forall_mem_cons.mp other
    rw [List.foldl_cons, ih later, written, Function.update_of_ne (Ne.symm here)]

/-- What is found was written, or stood there. -/
theorem of_written {v : ν} (found : xs.foldl (written key value) held k = some v) :
    (∃ x ∈ xs, key x = k ∧ value x = v) ∨ held k = some v := by
  by_cases there : ∃ x ∈ xs, key x = k
  · obtain ⟨x, mem, rfl⟩ := there
    obtain ⟨y, mem', same, last⟩ : ∃ y ∈ xs, key y = key x ∧
      xs.foldl (written key value) held (key x) = some (value y) := exists_of_written mem held
    exact .inl ⟨y, mem', same, Option.some.inj (last.symm.trans found)⟩
  · push Not at there
    rw [written_of_not_mem there] at found
    exact .inr found

/-- To write what stands there already changes nothing. -/
theorem written_present (there : ∀ x ∈ xs, held (key x) = some (value x)) :
    xs.foldl (written key value) held = held := by
  induction xs with
  | nil => rfl
  | cons x xs ih =>
    obtain ⟨here, later⟩ := List.forall_mem_cons.mp there
    have same : written key value held x = held := by rw [written, ← here, Function.update_eq_self]
    rw [List.foldl_cons, same, ih later]

/-- To write the same values once more in the same order changes nothing. -/
theorem written_twice (xs : List γ) (held : κ → Option ν) :
    xs.foldl (written key value) (xs.foldl (written key value) held) =
      xs.foldl (written key value) held := by
  funext k
  refine written_congr ?_
  by_cases there : ∃ x ∈ xs, key x = k
  · exact .inl there
  · push Not at there
    exact .inr (written_of_not_mem there)

end NodePools
