import Mathlib.Data.List.Forall2
import NodePools.Proofs.Listing
import NodePools.Proofs.TagEntries

/-!
# Listing page by page

A service describes stacks on pages: every stack by its name, its status and the entries of its
tags, where a page may describe none and a stack may have no tags.  `TellsStacks` says that a
page does so, and what it tells.

Whatever the pages are, the stacks that are listed for tags are those of all pages, one page
after the other, that are live and carry the tags (`Backend.run_list`): none is lost, none is
told twice, and where one page ends and the next one begins makes no difference.

The stacks of one cluster are found in this way and no others.  The key that ties a stack to a
cluster tells the cluster, so that neither an order of the service nor tags of its own give the
stack of one cluster to another one (`wanted_owner_iff`, `Backend.list_exact`).
-/

namespace NodePools.Aws

open Stacks (Listed collect deletedStatus listedOf listedOn tagOf? tagsOf)

/-! ## What pages tell -/

/-- A stack as it is described: its name, its status, and the entries of its tags. -/
structure Description where
  name : String
  status : String
  entries : List (TagEntry String)

/-- The stack that is described. -/
def Description.stack (x : Description) : Stack :=
  ⟨x.name, Tags.ofEntries "" x.entries, x.status⟩

/-- Whether a list has as its items what tells the given things, in their order. -/
def TellsAll {α : Type} (tells : Datum → α → Prop) (d : Datum) (told : List α) : Prop :=
  ∃ items, d = .list items ∧ List.Forall₂ tells items told

/-- Whether a datum is an entry of tags.  Its key and its value are texts, where it has them. -/
def TellsTag (d : Datum) (e : TagEntry String) : Prop :=
  ∃ fields, d = .table fields ∧ Fields.get? "Key" fields = e.key.map .text ∧
    Fields.get? "Value" fields = e.value.map .text

/-- Whether a datum describes a stack.  One without tags has none to list. -/
def TellsStack (d : Datum) (x : Description) : Prop :=
  ∃ fields, d = .table fields ∧ Fields.get? "StackName" fields = some (.text x.name) ∧
    Fields.get? "StackStatus" fields = some (.text x.status) ∧
    TellsAll TellsTag ((Fields.get? "Tags" fields).getD (.list [])) x.entries

/-- Whether a page describes stacks.  One without any may leave their list out. -/
def TellsStacks (page : Datum) (xs : List Description) : Prop :=
  ∃ fields, page = .table fields ∧
    TellsAll TellsStack ((Fields.get? "Stacks" fields).getD (.list [])) xs

/-- Whether a stack is live and has every tag that is asked for, with the value asked for. -/
def Wanted (tags : Tags) (x : Stack) : Prop :=
  x.status ≠ deletedStatus ∧ ∀ e ∈ tags, x.tags.get? e.1 = some e.2

instance (tags : Tags) : DecidablePred (Wanted tags) := fun x =>
  inferInstanceAs (Decidable (x.status ≠ deletedStatus ∧ ∀ e ∈ tags, x.tags.get? e.1 = some e.2))

/-! ## Tags that are texts -/

/-- Tags as they are read from a page that tells texts. -/
def textPairs (tags : Tags) : Pairs := tags.map fun e => (.text e.1, .text e.2)

theorem set_textPairs (key value : String) (tags : Tags) :
    Pairs.set (.text key) (.text value) (textPairs tags) =
      textPairs (Fields.set key value tags) := by
  induction tags with
  | nil => rfl
  | cons e rest ih =>
    obtain ⟨k, v⟩ := e
    rw [textPairs, List.map_cons, Pairs.set, Fields.set, ← textPairs, ih, Datum.same]
    simp only [beq_iff_eq]
    split <;> rfl

theorem texts_textPairs (tags : Tags) : (textPairs tags).texts = tags.mapValues .text := by
  rw [textPairs, Pairs.texts, List.filterMap_map]
  exact congrFun List.filterMap_eq_map tags

/-- Pairs of texts are the mapping that they give as texts. -/
theorem ofList_textPairs (pairs : List (String × String)) :
    Pairs.ofList (pairs.map fun e => (.text e.1, .text e.2)) =
      .ok (textPairs (Fields.ofPairs pairs)) := by
  suffices from_made : ∀ made : Tags,
      (pairs.map fun e : String × String => (Datum.text e.1, Datum.text e.2)).foldlM
        (fun made e => do
          e.1.asKey
          return Pairs.set e.1 e.2 made) (textPairs made) =
        (.ok (textPairs (made.setAll pairs)) : Except Fault Pairs) from from_made []
  induction pairs with
  | nil => exact fun made => rfl
  | cons e rest ih =>
    intro made
    rw [List.map_cons, List.foldlM_cons, Fields.setAll, List.foldl_cons, ← Fields.setAll, ← ih,
      ← set_textPairs]
    rfl

/-- A tag of a list is read as what it tells. -/
theorem tagOf?_of_tells {d : Datum} {e : TagEntry String} (tells : TellsTag d e) :
    tagOf? d = .ok (e.key.map fun k => (.text k, .text (e.value.getD ""))) := by
  obtain ⟨fields, rfl, key, value⟩ := tells
  rw [tagOf?, key, value, Option.map_map]
  cases e.value <;> rfl

theorem filterMapM_tagOf? {items : List Datum} {entries : List (TagEntry String)}
    (tells : List.Forall₂ TellsTag items entries) :
    items.filterMapM tagOf? = .ok ((entries.filterMap fun e =>
      e.key.map fun k => (k, e.value.getD "")).map fun e => (.text e.1, .text e.2)) := by
  induction tells with
  | nil => rfl
  | @cons d e items entries first _ ih =>
    rw [List.filterMapM_cons, tagOf?_of_tells first, ih]
    obtain ⟨key | key, value⟩ := e <;> rfl

/-- The tags of a list are read as texts. -/
theorem tagsOf_of_tells {d : Datum} {entries : List (TagEntry String)}
    (tells : TellsAll TellsTag d entries) :
    tagsOf d = .ok (textPairs (Tags.ofEntries "" entries)) := by
  obtain ⟨items, rfl, tells⟩ := tells
  rw [Tags.ofEntries, ← ofList_textPairs]
  show (items.filterMapM tagOf? >>= Pairs.ofList) = _
  rw [filterMapM_tagOf? tells]
  rfl

/-! ## The stacks of a page -/

/-- A description as it is read. -/
def Description.listed (x : Description) : Listed :=
  ⟨.text x.name, textPairs (Tags.ofEntries "" x.entries), .text x.status⟩

theorem stackOf_listed (x : Description) : Backend.stackOf x.listed = x.stack := by
  have plain : ((Tags.ofEntries "" x.entries).mapValues Datum.text).mapValues Datum.plain =
      Tags.ofEntries "" x.entries := by
    rw [Fields.mapValues, Fields.mapValues, List.map_map]
    exact List.map_id _
  show Stack.mk x.name ((textPairs (Tags.ofEntries "" x.entries)).texts.mapValues Datum.plain)
    x.status = x.stack
  rw [texts_textPairs, plain]
  rfl

/-- Tags that are texts hold those that they have with the values asked for. -/
theorem holdAll_textPairs (tags wanted : Tags) :
    Stacks.holdAll (textPairs tags) (wanted.mapValues .text) = true ↔
      ∀ e ∈ wanted, tags.get? e.1 = some e.2 := by
  rw [Stacks.holdAll, Fields.mapValues, List.all_map, List.all_eq_true]
  refine forall₂_congr fun e mem => ?_
  show Datum.same (((textPairs tags).get? (.text e.1)).getD .null) (.text e.2) = true ↔ _
  rw [get?_texts, texts_textPairs, Fields.get?_mapValues]
  cases tags.get? e.1 with
  | none => simp [Datum.same, Datum.number?]
  | some value => simp [Datum.same]

/-- Of what is described, a stack is taken if it is wanted. -/
theorem listedOf_of_tells (tags : Tags) {d : Datum} {x : Description} (tells : TellsStack d x) :
    listedOf (tags.mapValues .text) d =
      .ok (if Wanted tags x.stack then some x.listed else none) := by
  obtain ⟨fields, rfl, name, status, entries⟩ := tells
  have status_eq : Datum.field (.table fields) "StackStatus" = .ok (.text x.status) := by
    rw [Datum.field, status]
  have name_eq : Datum.field (.table fields) "StackName" = .ok (.text x.name) := by
    rw [Datum.field, name]
  have tags_eq : Datum.get? (.table fields) "Tags" = .ok (Fields.get? "Tags" fields) := rfl
  have held := holdAll_textPairs (Tags.ofEntries "" x.entries) tags
  rw [listedOf, status_eq]
  show (if Datum.same (.text x.status) (.text deletedStatus) = true then _ else _) = _
  by_cases gone : x.status = deletedStatus
  · rw [if_pos (by rw [gone, Datum.same, beq_self_eq_true]), if_neg fun wanted => wanted.1 gone]
    rfl
  · rw [if_neg (by rwa [Datum.same, beq_iff_eq]), tags_eq]
    show (tagsOf _ >>= _) = _
    rw [tagsOf_of_tells entries]
    show (if Stacks.holdAll _ _ = true then _ else _) = _
    by_cases all : ∀ e ∈ tags, x.stack.tags.get? e.1 = some e.2
    · rw [if_pos (held.mpr all), if_pos ⟨gone, all⟩, name_eq]
      rfl
    · rw [if_neg (mt held.mp all), if_neg fun wanted => all wanted.2]
      rfl

theorem mapM_listedOf (tags : Tags) {items : List Datum} {xs : List Description}
    (tells : List.Forall₂ TellsStack items xs) :
    items.mapM (listedOf (tags.mapValues .text)) =
      .ok (xs.map fun x => if Wanted tags x.stack then some x.listed else none) := by
  induction tells with
  | nil => rfl
  | cons first _ ih =>
    rw [List.mapM_cons, listedOf_of_tells tags first, ih]
    rfl

/-- The stacks that are taken from a page are those of the page that are wanted. -/
theorem listedOn_of_tells (tags : Tags) {page : Datum} {xs : List Description}
    (tells : TellsStacks page xs) :
    listedOn (tags.mapValues .text) page =
      .ok ((xs.filter fun x => Wanted tags x.stack).map Description.listed) := by
  obtain ⟨fields, rfl, items, found, tells⟩ := tells
  have taken : (xs.map fun x => if Wanted tags x.stack then some x.listed else none).filterMap id =
      (xs.filter fun x => Wanted tags x.stack).map Description.listed := by
    clear tells
    induction xs with
    | nil => rfl
    | cons x xs ih =>
      rw [List.map_cons, List.filter_cons]
      by_cases wanted : Wanted tags x.stack
      · rw [if_pos wanted, if_pos (decide_eq_true wanted), List.map_cons, ← ih]
        rfl
      · rw [if_neg wanted, if_neg (mt of_decide_eq_true wanted), ← ih]
        rfl
  rw [← taken]
  refine bind_eq_ok.mpr ⟨_, rfl, bind_eq_ok.mpr ⟨items, ?_, bind_eq_ok.mpr ⟨_, ?_, rfl⟩⟩⟩
  · rw [found]
    rfl
  · exact mapM_listedOf tags tells

/-! ## One page after the other -/

section

variable {τ σ : Type} {answer : Handler (Client τ) σ} {pages : List Datum}

/-- The pages of the stacks, whatever else is asked of a service and whatever state it is in. -/
def Pages (answer : Handler (Client τ) σ) (pages : List Datum) : Prop :=
  ∀ number s, (answer (.page Stacks.service number) s).1 =
    (.ok pages[number]? : Except Error (Option Datum))

theorem run_page (paged : Pages answer pages) (number : Nat) (s : σ) :
    (Client.page Stacks.service number : Action (Client τ) (Option Datum)).outcome.run answer s =
      (some (.ok pages[number]?), (answer (.page Stacks.service number) s).2) := by
  show (some (answer (.page Stacks.service number) s).1, _) = _
  rw [paged]
  rfl

/-- Behind the last page nothing is collected. -/
theorem run_collect_end (paged : Pages answer pages) (wanted : Fields Datum) (looks : Nat)
    {number : Nat} (last : pages[number]? = none) (s : σ) :
    (collect wanted (looks + 1) number : Action (Client τ) (List Listed)).outcome.run answer s =
      (some (.ok []), (answer (.page Stacks.service number) s).2) := by
  rw [collect, Action.outcome_bind, Prog.run_bind, run_page paged, last]
  rfl

/-- The stacks of a page stand in front of those that are collected behind it. -/
theorem run_collect_page (paged : Pages answer pages) {wanted : Fields Datum} {looks number : Nat}
    {page : Datum} (there : pages[number]? = some page) {here : List Listed}
    (taken : listedOn wanted page = .ok here) {s s' : σ} {behind : List Listed}
    (collected : (collect wanted looks (number + 1) :
      Action (Client τ) (List Listed)).outcome.run answer
        (answer (.page Stacks.service number) s).2 = (some (.ok behind), s')) :
    (collect wanted (looks + 1) number : Action (Client τ) (List Listed)).outcome.run answer s =
      (some (.ok (here ++ behind)), s') := by
  have lifted (mid : σ) : (liftM (listedOn wanted page) :
      Action (Client τ) (List Listed)).outcome.run answer mid = (some (.ok here), mid) := by
    rw [taken]
    rfl
  rw [collect, Action.outcome_bind, Prog.run_bind, run_page paged, there]
  dsimp only
  rw [Action.outcome_bind, Prog.run_bind, lifted]
  dsimp only
  rw [Action.outcome_bind, Prog.run_bind, collected]
  rfl

/-- What is collected from a page on are the stacks of this page and of those behind it. -/
theorem run_collect (paged : Pages answer pages) (tags : Tags) {rest : List Datum}
    {parts : List (List Description)} (told : List.Forall₂ TellsStacks rest parts) {looks : Nat}
    (enough : rest.length < looks) {number : Nat} (here : pages.drop number = rest) (s : σ) :
    ∃ s', (collect (tags.mapValues .text) looks number :
        Action (Client τ) (List Listed)).outcome.run answer s =
      (some (.ok ((parts.flatten.filter fun x => Wanted tags x.stack).map Description.listed)),
        s') := by
  induction told generalizing looks number s with
  | nil =>
    obtain ⟨looks, rfl⟩ := Nat.exists_eq_add_one.mpr enough
    have last : pages[number]? = none := List.getElem?_eq_none (List.drop_eq_nil_iff.mp here)
    exact ⟨_, run_collect_end paged _ looks last s⟩
  | @cons page xs rest parts first _ ih =>
    obtain ⟨looks, rfl⟩ := Nat.exists_eq_add_one.mpr (Nat.zero_lt_of_lt enough)
    have there : pages[number]? = some page := by
      rw [← Nat.add_zero number, ← List.getElem?_drop, here]
      rfl
    have next : pages.drop (number + 1) = rest := by
      rw [← List.drop_drop, here]
      rfl
    obtain ⟨s', collected⟩ := ih (Nat.lt_of_succ_lt_succ enough) next
      (answer (.page Stacks.service number) s).2
    refine ⟨s', ?_⟩
    rw [List.flatten_cons, List.filter_append, List.map_append]
    exact run_collect_page paged there (listedOn_of_tells tags first) collected

/-- The stacks that are listed are those of all pages that are wanted. -/
theorem Backend.run_list (paged : Pages answer pages) {parts : List (List Description)}
    (told : List.Forall₂ TellsStacks pages parts) (b : Backend) (enough : pages.length < b.looks)
    (tags : Tags) (s : σ) :
    ∃ s', (b.list tags : Action (Client τ) (List Stack)).outcome.run answer s =
      (some (.ok ((parts.flatten.map Description.stack).filter fun x => Wanted tags x)), s') := by
  obtain ⟨s', collected⟩ := run_collect paged tags told enough List.drop_zero
    (answer (.paginate Stacks.service "describe_stacks")
      (answer (.reuse Stacks.service b.region) s).2).2
  have listed : (Stacks.list b.looks b.region (tags.mapValues .text) :
      Action (Client τ) (List Listed)).outcome.run answer s =
      (some (.ok ((parts.flatten.filter fun x => Wanted tags x.stack).map Description.listed)),
        s') := collected
  have kept : ((parts.flatten.filter fun x => Wanted tags x.stack).map
      Description.listed).map Backend.stackOf =
      (parts.flatten.map Description.stack).filter fun x => Wanted tags x := by
    rw [List.map_map, List.filter_map]
    exact List.map_congr_left fun x _ => stackOf_listed x
  refine ⟨s', ?_⟩
  rw [Backend.list, Action.outcome_bind, Prog.run_bind, listed, ← kept]
  rfl

end

/-! ## The stacks of a cluster -/

/-- The tags that a stack is given are told as their entries. -/
theorem tellsTags_document (name template : String) (tags : Tags) :
    ∃ sent, Fields.get? "Tags" (Stacks.document name template (tags.mapValues .text)) = some sent ∧
      TellsAll TellsTag sent (Tags.toEntries tags) := by
  refine ⟨_, rfl, _, rfl, ?_⟩
  induction tags with
  | nil => exact .nil
  | cons e rest ih => exact .cons ⟨_, rfl, rfl, rfl⟩ ih

/-- Whatever is answered, every call that applies a stack gives it its tags. -/
theorem tellsTags_of_apply {τ : Type} {region : Datum} {name template : String} {tags : Tags}
    {tr : List (Exchange (Client τ))} {r : Except Error Unit}
    (run : Prog.Runs (Stacks.apply region name template (tags.mapValues .text) :
      Action (Client τ) Unit).outcome tr r)
    {method : String} {arguments : Fields Datum} {reply : Except Error Datum}
    (call : .call method arguments reply ∈ stackEvents tr) :
    ∃ sent, Fields.get? "Tags" arguments = some sent ∧
      TellsAll TellsTag sent (Tags.toEntries tags) := by
  obtain ⟨sent, found, tells⟩ := tellsTags_document name template tags
  have applies := Stacks.runs_apply run
  generalize stackEvents tr = events at applies call
  refine ⟨sent, ?_, tells⟩
  cases applies with
  | created answer _ =>
    cases List.mem_singleton.mp call
    rw [Fields.get?_append, found, Option.some_or]
  | updated e answer _ =>
    rcases List.mem_cons.mp call with create | call
    · cases create
      rw [Fields.get?_append, found, Option.some_or]
    · cases List.mem_singleton.mp call
      exact found

/-- Whether an entry belongs neither to a cluster nor to a node pool. -/
def Foreign (e : TagEntry String) : Prop :=
  ∀ key ∈ e.key, (∀ id, key ≠ Tags.clusterKey id) ∧
    key ∉ [Tags.roleKey, Tags.nameKey, Tags.legacyNameKey, Tags.profileKey]

/-- A live stack of a pool is wanted for the tags of a cluster if it is the cluster of the pool. -/
theorem wanted_owner_iff {x : Description} (live : x.status ≠ deletedStatus) {id' : String}
    {p : NodePool} {others : List (TagEntry String)}
    (perm : x.entries.Perm (Tags.toEntries (Tags.encode id' p) ++ others))
    (foreign : ∀ e ∈ others, Foreign e) (id : String) :
    Wanted (Tags.owner id) x.stack ↔ id = id' := by
  have distinct := Tags.encode_distinct id' p
  have role : x.stack.tags.get? Tags.roleKey = some "true" := by
    refine (Tags.get?_ofEntries_of_perm distinct perm fun e mem same => ?_).trans
      (Tags.get?_encode (List.mem_cons_of_mem _ List.mem_cons_self))
    exact (foreign e mem _ same).2 List.mem_cons_self
  have cluster : x.stack.tags.get? (Tags.clusterKey id) =
      (Tags.encode id' p).get? (Tags.clusterKey id) :=
    Tags.get?_ofEntries_of_perm distinct perm fun e mem same => (foreign e mem _ same).1 id rfl
  rw [← Tags.get?_clusterKey_encode (p := p), ← cluster, Wanted, Tags.owner_eq,
    List.forall_mem_cons, List.forall_mem_singleton]
  exact ⟨fun wanted => wanted.2.1, fun held => ⟨live, held, role⟩⟩

/-- Whatever the pages are and wherever one ends, what is listed for tags are the stacks of all
pages that are live and have the tags, in their order.  Among them is a live stack of a pool,
when the cluster is asked for whose tags it was given, and for no other cluster; the service may
have put these tags in another order and others between them. -/
theorem Backend.list_exact {τ σ : Type} {answer : Handler (Client τ) σ} {pages : List Datum}
    (paged : Pages answer pages) {parts : List (List Description)}
    (told : List.Forall₂ TellsStacks pages parts) (b : Backend) (enough : pages.length < b.looks)
    (s : σ) :
    (∀ tags, ∃ s', (b.list tags : Action (Client τ) (List Stack)).outcome.run answer s =
      (some (.ok ((parts.flatten.map Description.stack).filter fun x => Wanted tags x)), s')) ∧
    (∀ (name template : String) (tags : Tags) (tr : List (Exchange (Client τ)))
      (r : Except Error Unit),
      Prog.Runs (Stacks.apply b.region name template (tags.mapValues .text) :
        Action (Client τ) Unit).outcome tr r →
      ∀ method arguments reply, .call method arguments reply ∈ stackEvents tr →
        ∃ sent, Fields.get? "Tags" arguments = some sent ∧
          TellsAll TellsTag sent (Tags.toEntries tags)) ∧
    ∀ (id id' : String) (p : NodePool) (x : Description) (others : List (TagEntry String)),
      x ∈ parts.flatten → x.status ≠ deletedStatus →
      x.entries.Perm (Tags.toEntries (Tags.encode id' p) ++ others) →
      (∀ e ∈ others, Foreign e) →
      ((∃ found s', (b.list (Tags.owner id) : Action (Client τ) (List Stack)).outcome.run answer s =
        (some (.ok found), s') ∧ x.stack ∈ found) ↔ id = id') := by
  have listed := fun tags => b.run_list paged told enough tags s
  refine ⟨listed, fun name template tags tr r run method arguments reply call => ?_,
    fun id id' p x others mem live perm foreign => ?_⟩
  · exact tellsTags_of_apply run call
  · obtain ⟨s', run⟩ := listed (Tags.owner id)
    have inside : x.stack ∈ (parts.flatten.map Description.stack).filter
        (fun x => Wanted (Tags.owner id) x) ↔ id = id' := by
      rw [List.mem_filter, decide_eq_true_eq, wanted_owner_iff live perm foreign]
      exact and_iff_right (List.mem_map_of_mem mem)
    rw [← inside]
    constructor
    · rintro ⟨found, s'', run', here⟩
      rw [run] at run'
      cases run'
      exact here
    · exact fun here => ⟨_, s', run, here⟩

/-- An entry as a service writes it, without what it does not have. -/
def entryDatum (e : TagEntry String) : Datum :=
  .table ((e.key.map fun k => ("Key", .text k)).toList ++
    (e.value.map fun v => ("Value", .text v)).toList)

/-- A stack as a service writes it. -/
def Description.datum (x : Description) : Datum :=
  .table [("StackName", .text x.name), ("StackStatus", .text x.status),
    ("Tags", .list (x.entries.map entryDatum))]

/-- A page as a service writes it, without a list if there is no stack. -/
def pageDatum (xs : List Description) : Datum :=
  .table (if xs.isEmpty then [] else [("Stacks", .list (xs.map Description.datum))])

theorem forall₂_map_self {α : Type} {tells : Datum → α → Prop} {write : α → Datum}
    (each : ∀ a, tells (write a) a) (told : List α) : List.Forall₂ tells (told.map write) told :=
  List.forall₂_map_left_iff.mpr (List.forall₂_same.mpr fun a _ => each a)

theorem tellsStack_datum (x : Description) : TellsStack x.datum x := by
  refine ⟨_, rfl, rfl, rfl, _, rfl, forall₂_map_self (fun e => ⟨_, rfl, ?_⟩) x.entries⟩
  obtain ⟨_ | key, _ | value⟩ := e <;> exact ⟨rfl, rfl⟩

theorem tellsStacks_pageDatum (xs : List Description) : TellsStacks (pageDatum xs) xs := by
  refine ⟨_, rfl, ?_⟩
  cases xs with
  | nil => exact ⟨[], rfl, .nil⟩
  | cons x xs => exact ⟨_, rfl, forall₂_map_self tellsStack_datum (x :: xs)⟩

/-- A service that has pages of stacks and nothing else to tell. -/
def paging (pages : List Datum) : Handler (Client Number) Unit
  | .page _ number, s => (.ok pages[number]?, s)
  | .call .., s => (.ok .null, s)
  | .now, s => (.whole 0, s)
  | .connect .., s | .reuse .., s | .paginate .., s | .waiter .., s | .sleep _, s | .log _, s =>
    ((), s)

/-- The tags of a pool of a cluster in an order of the service, with a tag without value and one
without key between them. -/
def shuffled (id : String) : List (TagEntry String) :=
  [⟨some Tags.profileKey, some "worker"⟩, ⟨some "team", none⟩, ⟨some Tags.nameKey, some "gpu"⟩,
    ⟨none, some "lost"⟩, ⟨some Tags.legacyNameKey, some "gpu"⟩, ⟨some Tags.roleKey, some "true"⟩,
    ⟨some (Tags.clusterKey id), some "owned"⟩]

/-- The live stack of a pool of the cluster "kube". -/
def gpuOfKube : Description := ⟨"nodepool-gpu-kube", "UPDATE_IN_PROGRESS", shuffled "kube"⟩

/-- Three pages: that stack and one without tags, none, and the stack of another cluster and a
deleted one. -/
def threePages : List (List Description) :=
  [[gpuOfKube, ⟨"network", "CREATE_COMPLETE", []⟩], [],
    [⟨"nodepool-gpu-cube", "CREATE_COMPLETE", shuffled "cube"⟩,
      ⟨"nodepool-old-kube", "DELETE_COMPLETE", shuffled "kube"⟩]]

/-- Of them, one is listed for the cluster, and it is not listed for the other one. -/
theorem gpuOfKube_listed :
    (∃ s', (Backend.list ⟨.null, 4⟩ (Tags.owner "kube") :
        Action (Client Number) (List Stack)).outcome.run (paging (threePages.map pageDatum)) () =
      (some (.ok [gpuOfKube.stack]), s')) ∧
    ¬∃ found s', (Backend.list ⟨.null, 4⟩ (Tags.owner "cube") :
        Action (Client Number) (List Stack)).outcome.run (paging (threePages.map pageDatum)) () =
      (some (.ok found), s') ∧ gpuOfKube.stack ∈ found := by
  have paged : Pages (paging (threePages.map pageDatum)) (threePages.map pageDatum) :=
    fun _ _ => rfl
  have perm : gpuOfKube.entries.Perm (Tags.toEntries
      (Tags.encode "kube" ⟨"gpu", "worker", "m5.large", .none, 0, 9⟩) ++
      [⟨some "team", none⟩, ⟨none, some "lost"⟩]) := by
    rw [Tags.encode_eq]
    decide
  have foreign : ∀ e ∈ [(⟨some "team", none⟩ : TagEntry String), ⟨none, some "lost"⟩],
      Foreign e := by
    refine List.forall_mem_cons.mpr ⟨?_, List.forall_mem_singleton.mpr nofun⟩
    rintro _ ⟨⟩
    exact ⟨fun id => (Tags.clusterKey_ne (by decide) id).symm, by decide⟩
  obtain ⟨listed, -, found⟩ := Backend.list_exact paged
    (forall₂_map_self tellsStacks_pageDatum threePages) ⟨.null, 4⟩ (by decide) ()
  constructor
  · have wanted : ((threePages.flatten.map Description.stack).filter fun x =>
        Wanted (Tags.owner "kube") x) = [gpuOfKube.stack] := by decide
    rw [← wanted]
    exact listed (Tags.owner "kube")
  · have only := found "cube" "kube" _ gpuOfKube _ List.mem_cons_self (by decide) perm foreign
    exact mt only.mp (by decide)

end NodePools.Aws
