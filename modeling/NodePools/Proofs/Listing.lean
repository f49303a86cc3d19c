import NodePools.Aws.Backend
import NodePools.Proofs.Convergence

/-!
# What is listed

A list of stacks comes page by page, and of each page only the stacks are taken that carry
the tags asked for.  Tags come with keys and values of any kind, and are read as texts in
the end; nothing is lost by that about a tag that is asked for by a text
(`holdAll_stackOf`).  So whatever the pages are, every stack that is listed carries the
tags (`Backend.holdAll_of_list`).  To list deletes nothing, and comes to an end unless there
are more pages than may be read (`Backend.silent_list`, `Backend.pagesAsked_of_cuts_list`).
-/

namespace NodePools.Aws

open Prog (Cuts Runs)
open Stacks (Listed collect listedOf listedOn text_of_same)

variable {τ : Type}

/-! ## Tags as texts -/

/-- The value under a text is among the entries whose keys are texts. -/
theorem get?_texts (key : String) (tags : Pairs) :
    tags.get? (.text key) = Fields.get? key tags.texts := by
  induction tags with
  | nil => rfl
  | cons e rest ih =>
    obtain ⟨k, v⟩ := e
    rw [Pairs.get?, ih]
    by_cases same : k.same (.text key) = true
    · obtain rfl := text_of_same same
      rw [if_pos same]
      exact (if_pos rfl).symm
    · rw [if_neg same]
      cases k with
      | text k =>
        refine (if_neg fun is_key => same ?_).symm
        subst is_key
        exact beq_self_eq_true k
      | _ => rfl

/-- A stack that is listed for its tags carries them as texts. -/
theorem holdAll_stackOf {l : Listed} {tags : Tags}
    (held : Stacks.holdAll l.tags (tags.mapValues .text) = true) :
    Tags.holdAll (Backend.stackOf l).tags tags = true := by
  refine List.all_eq_true.mpr fun ⟨key, value⟩ mem => beq_iff_eq.mpr ?_
  have same := List.all_eq_true.mp held (key, .text value)
    (List.mem_map_of_mem (f := fun e : String × String => (e.1, Datum.text e.2)) mem)
  have found := text_of_same same
  rw [get?_texts] at found
  show Fields.get? key (l.tags.texts.mapValues Datum.plain) = some value
  rw [Fields.get?_mapValues]
  cases told : Fields.get? key l.tags.texts with
  | none =>
    rw [told] at found
    cases found
  | some d =>
    rw [told] at found
    cases found
    rfl

/-! ## The stacks of pages -/

theorem exists_of_mem_mapM {α β : Type} {f : α → Except Fault β} {items : List α} {made : List β}
    (h : items.mapM f = .ok made) {b : β} (mem : b ∈ made) : ∃ a ∈ items, f a = .ok b := by
  induction items generalizing made with
  | nil =>
    cases h
    cases mem
  | cons a rest ih =>
    rw [List.mapM_cons] at h
    obtain ⟨first, here, h⟩ := bind_eq_ok.mp h
    obtain ⟨others, later, h⟩ := bind_eq_ok.mp h
    cases h
    rcases List.mem_cons.mp mem with rfl | mem
    · exact ⟨a, List.mem_cons_self, here⟩
    · obtain ⟨a', inside, made⟩ := ih later mem
      exact ⟨a', List.mem_cons_of_mem _ inside, made⟩

theorem holdAll_of_listedOf {wanted : Fields Datum} {d : Datum} {l : Listed}
    (h : listedOf wanted d = .ok (some l)) : Stacks.holdAll l.tags wanted = true := by
  obtain ⟨status, -, h⟩ := bind_eq_ok.mp h
  split at h
  · cases h
  · obtain ⟨given, -, h⟩ := bind_eq_ok.mp h
    obtain ⟨tags, -, h⟩ := bind_eq_ok.mp h
    split at h
    next held =>
      obtain ⟨name, -, h⟩ := bind_eq_ok.mp h
      cases h
      exact held
    · cases h

theorem holdAll_of_listedOn {wanted : Fields Datum} {page : Datum} {found : List Listed}
    (h : listedOn wanted page = .ok found) {l : Listed} (mem : l ∈ found) :
    Stacks.holdAll l.tags wanted = true := by
  obtain ⟨given, -, h⟩ := bind_eq_ok.mp h
  obtain ⟨items, -, h⟩ := bind_eq_ok.mp h
  obtain ⟨listed, made, h⟩ := bind_eq_ok.mp h
  cases h
  obtain ⟨one, inside, rfl⟩ := List.mem_filterMap.mp mem
  obtain ⟨d, -, of_d⟩ := exists_of_mem_mapM made inside
  exact holdAll_of_listedOf of_d

theorem holdAll_of_collect {wanted : Fields Datum} {pages number : Nat}
    {tr : List (Exchange (Client τ))} {found : List Listed}
    (run : Runs (collect wanted pages number : Action (Client τ) _).outcome tr (.ok found))
    {l : Listed} (mem : l ∈ found) : Stacks.holdAll l.tags wanted = true := by
  induction pages generalizing number tr found with
  | zero => cases run
  | succ pages ih =>
    obtain ⟨tr₁, page, tr₂, rfl, -, rest⟩ := Action.runs_bind_ok.mp run
    cases page with
    | none =>
      obtain ⟨-, none⟩ := Action.runs_pure.mp rest
      cases none
      cases mem
    | some page =>
      obtain ⟨here, made, rest⟩ := runs_fault_bind_ok rest
      obtain ⟨tr₃, others, tr₄, rfl, more, rest⟩ := Action.runs_bind_ok.mp rest
      obtain ⟨-, all⟩ := Action.runs_pure.mp rest
      cases all
      rcases List.mem_append.mp mem with mem | mem
      · exact holdAll_of_listedOn made mem
      · exact ih more mem

/-- Whatever the pages are, a stack that is listed carries the tags asked for. -/
theorem Backend.holdAll_of_list {b : Backend} {tags : Tags} {tr : List (Exchange (Client τ))}
    {found : List Stack} (run : Runs (b.list tags).outcome tr (.ok found)) {x : Stack}
    (mem : x ∈ found) : Tags.holdAll x.tags tags = true := by
  obtain ⟨tr₁, listed, tr₂, rfl, collected, told⟩ := Action.runs_bind_ok.mp run
  obtain ⟨-, all⟩ := Action.runs_pure.mp told
  cases all
  obtain ⟨⟨⟩, tr₃, rfl, started⟩ := Client.runs_ask_bind collected
  obtain ⟨⟨⟩, tr₄, rfl, paged⟩ := Client.runs_ask_bind started
  obtain ⟨l, inside, rfl⟩ := List.mem_map.mp mem
  exact holdAll_stackOf (holdAll_of_collect paged inside)

/-! ## How long it may take -/

/-- How many pages were asked for. -/
def pagesAsked (tr : List (Exchange (Client τ))) : Nat :=
  tr.countP fun e => match e.op with
    | .page .. => true
    | _ => false

theorem pagesAsked_append (tr₁ tr₂ : List (Exchange (Client τ))) :
    pagesAsked (tr₁ ++ tr₂) = pagesAsked tr₁ + pagesAsked tr₂ :=
  List.countP_append ..

theorem pagesAsked_of_cuts_collect {wanted : Fields Datum} {pages number : Nat}
    {tr : List (Exchange (Client τ))}
    (cuts : Cuts (collect wanted pages number : Action (Client τ) _).outcome tr) :
    pagesAsked tr = pages := by
  induction pages generalizing number tr with
  | zero =>
    cases cuts
    rfl
  | succ pages ih =>
    obtain ⟨tr₁, page, tr₂, rfl, asked, rest⟩ := Action.cuts_later (Client.uncut_page ..) cuts
    obtain rfl := Client.runs_page.mp asked
    cases page with
    | none => cases rest
    | some page =>
      obtain ⟨here, -, rest⟩ := cuts_fault_bind rest
      rcases Action.cuts_bind.mp rest with more | ⟨tr₃, others, tr₄, rfl, -, done⟩
      · rw [pagesAsked_append, ih more]
        exact Nat.add_comm 1 pages
      · cases done

/-- A listing is cut off only when it has asked for as many pages as may be. -/
theorem Backend.pagesAsked_of_cuts_list {b : Backend} {tags : Tags}
    {tr : List (Exchange (Client τ))} (cuts : Cuts (b.list tags).outcome tr) :
    pagesAsked tr = b.looks := by
  rcases Action.cuts_bind.mp cuts with listing | ⟨tr₁, found, tr₂, rfl, -, done⟩
  · obtain ⟨⟨⟩, tr₁, rfl, started⟩ := Client.cuts_ask_bind listing
    obtain ⟨⟨⟩, tr₂, rfl, collected⟩ := Client.cuts_ask_bind started
    rw [pagesAsked_append, pagesAsked_append, pagesAsked_of_cuts_collect collected]
    exact (Nat.zero_add _).trans (Nat.zero_add _)
  · cases done

/-! ## Nothing is deleted -/

theorem silent_collect (wanted : Fields Datum) (pages number : Nat) :
    Action.Silent deletion? (collect wanted pages number : Action (Client τ) _) := by
  induction pages generalizing number with
  | zero => exact .cut
  | succ pages ih =>
    refine .bind (Client.silent_page fun _ => rfl) fun page => ?_
    cases page with
    | none => exact .ofExcept
    | some page => exact .bind .ofExcept fun found => .bind (ih _) fun others => .ofExcept

/-- To list stacks deletes none. -/
theorem Backend.silent_list (b : Backend) (tags : Tags) :
    Action.Silent deletion? (b.list tags : Action (Client τ) _) := by
  refine .bind (.bind (Client.silent_ask fun _ => rfl) fun _ => ?_) fun found => .ofExcept
  exact .bind (Client.silent_ask fun _ => rfl) fun _ => silent_collect _ _ _

end NodePools.Aws
