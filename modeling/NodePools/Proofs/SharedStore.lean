import Mathlib.Data.Finset.Insert
import NodePools.Proofs.Interleaving
import NodePools.Proofs.Publishing
import NodePools.Proofs.StoreCalls

/-!
# Publishing at the same time

Pools publish into one store at the same time, and a bucket that is missing when two of them
look for it is made by one of them: the other one is told that it is owned already.  `Answers`
says what a store may answer to each call, and what it holds afterwards.

A task stores bytes only behind an answer that shows its bucket to be there
(`PublishesBy.shown`), and a store loses no bucket (`Follows.grows`).  So whatever order the
calls of all tasks come in, no bytes are sent to a bucket that is missing, no task fails, and
each bucket is made just once (`publish_at_the_same_time`).
-/

namespace NodePools.Aws

open Attempt (Stored)
open Prog (Runs)

variable {τ σ : Type}

/-! ## What the store answers -/

/-- What a store holds: buckets, and objects by bucket and key. -/
structure Objects where
  buckets : Finset String
  objects : String × String → Option Bytes

/-- What the store may answer to a request, and what it holds afterwards.  Nothing is said of
other requests. -/
inductive Answers (held : Objects) : StoreRequest → Except Error Datum → Objects → Prop
  | present {bucket : String} (d : Datum) : bucket ∈ held.buckets →
    Answers held (.head bucket) (.ok d) held
  | missing {bucket : String} {e : ClientError} : bucket ∉ held.buckets →
    e.code = some (.text "404") → Answers held (.head bucket) (.error (.client e)) held
  | made {bucket : String} (d : Datum) : bucket ∉ held.buckets →
    Answers held (.create bucket) (.ok d) { held with buckets := insert bucket held.buckets }
  | owned {bucket : String} {e : ClientError} : bucket ∈ held.buckets →
    e.code = some (.text "BucketAlreadyOwnedByYou") →
    Answers held (.create bucket) (.error (.client e)) held
  | stored {bucket : String} (key : String) (content : Bytes) (d : Datum) :
    bucket ∈ held.buckets →
    Answers held (.put bucket key content) (.ok d)
      { held with objects := holding held.objects ⟨bucket, key, content⟩ }
  | rejected {bucket : String} (key : String) (content : Bytes) (e : Error) :
    bucket ∉ held.buckets → Answers held (.put bucket key content) (.error e) held
  | other (answer : Except Error Datum) (held' : Objects) : Answers held .other answer held'

/-- A world with such a store, in which nothing but calls to its service changes what it
holds. -/
structure HoldsObjects (answer : Handler ((Client τ).sum Site) σ) (held : σ → Objects) : Prop where
  answers : ∀ method arguments s,
    let asked := answer (.inl (.call ObjectStore.service method arguments)) s
    Answers (held s) (requestOf method arguments) asked.1 (held asked.2)
  keeps : ∀ op s, (∀ method arguments, op ≠ .inl (.call ObjectStore.service method arguments)) →
    held (answer op s).2 = held s

/-- The bucket that a call has made. -/
def StoreEvent.made? : StoreEvent → Option String
  | ⟨.create bucket, .ok _⟩ => some bucket
  | _ => none

/-- The object that a call has stored. -/
def StoreEvent.stored? : StoreEvent → Option Stored
  | ⟨.put bucket key content, .ok _⟩ => some ⟨bucket, key, content⟩
  | _ => none

namespace Answers

variable {held held' : Objects} {e : StoreEvent}

/-- A call makes its bucket if that was missing, or leaves the buckets as they are. -/
theorem made_cases (answers : Answers held e.request e.answer held') (known : e.request ≠ .other) :
    (e.made? = none ∧ held'.buckets = held.buckets) ∨
      ∃ bucket, e.made? = some bucket ∧ bucket ∉ held.buckets ∧
        held'.buckets = insert bucket held.buckets := by
  obtain ⟨request, answer⟩ := e
  cases answers with
  | made d absent => exact .inr ⟨_, rfl, absent, rfl⟩
  | other => exact absurd rfl known
  | _ => exact .inl ⟨rfl, rfl⟩

theorem grows (answers : Answers held e.request e.answer held') (known : e.request ≠ .other) :
    held.buckets ⊆ held'.buckets := by
  rcases answers.made_cases known with ⟨-, same⟩ | ⟨bucket, -, -, more⟩
  · rw [same]
  · rw [more]
    exact Finset.subset_insert ..

theorem stored_eq (answers : Answers held e.request e.answer held') (known : e.request ≠ .other) :
    held'.objects = e.stored?.elim held.objects (holding held.objects) := by
  obtain ⟨request, answer⟩ := e
  cases answers with
  | other => exact absurd rfl known
  | _ => rfl

/-- What shows a bucket to be there is right. -/
theorem shown (answers : Answers held e.request e.answer held') {bucket : String}
    (shows : e.Shows bucket) : bucket ∈ held'.buckets := by
  obtain ⟨request, answer⟩ := e
  rcases shows with ⟨rfl, d, rfl⟩ | ⟨rfl, accepted⟩
  · cases answers with
    | present _ present => exact present
  · cases answers with
    | made d absent => exact Finset.mem_insert_self ..
    | owned present _ => exact present

/-- It goes on with every answer of the store, but for bytes that are sent to a bucket that is
missing. -/
theorem goesOn (answers : Answers held e.request e.answer held')
    (there : ∀ bucket key content, e.request = .put bucket key content → bucket ∈ held.buckets) :
    e.GoesOn := by
  obtain ⟨request, answer⟩ := e
  cases answers with
  | present d _ => exact .inl ⟨d, rfl⟩
  | missing _ code => exact .inr (tells_of_code code (by decide))
  | made d _ => exact .inl ⟨d, rfl⟩
  | owned _ code => exact .inr (tells_of_code code (by decide))
  | stored key content d _ => exact ⟨d, rfl⟩
  | rejected key content e absent => exact absurd (there _ _ _ rfl) absent
  | other => trivial

end Answers

/-! ## Calls one after the other -/

/-- The store answers calls one after the other. -/
inductive Follows : Objects → List StoreEvent → Objects → Prop
  | nil (held : Objects) : Follows held [] held
  | cons {held mid held' : Objects} {e : StoreEvent} {events : List StoreEvent} :
    Answers held e.request e.answer mid → Follows mid events held' →
    Follows held (e :: events) held'

namespace Follows

variable {held held' : Objects} {events : List StoreEvent}

theorem grows (follows : Follows held events held') (known : ∀ e ∈ events, e.request ≠ .other) :
    held.buckets ⊆ held'.buckets := by
  induction follows with
  | nil held => exact subset_rfl
  | cons answers _ ih =>
    obtain ⟨here, later⟩ := List.forall_mem_cons.mp known
    exact (answers.grows here).trans (ih later)

theorem shown (follows : Follows held events held') (known : ∀ e ∈ events, e.request ≠ .other)
    {e : StoreEvent} (mem : e ∈ events) {bucket : String} (shows : e.Shows bucket) :
    bucket ∈ held'.buckets := by
  induction follows with
  | nil held => cases mem
  | cons answers follows ih =>
    obtain ⟨-, later⟩ := List.forall_mem_cons.mp known
    rcases List.mem_cons.mp mem with rfl | mem
    · exact follows.grows later (answers.shown shows)
    · exact ih later mem

/-- Of each bucket that has come to be there, one call has made it, and no call has made any
other one. -/
theorem count_made (follows : Follows held events held')
    (known : ∀ e ∈ events, e.request ≠ .other) (bucket : String) :
    (events.filterMap StoreEvent.made?).count bucket =
      if bucket ∈ held'.buckets ∧ bucket ∉ held.buckets then 1 else 0 := by
  induction follows with
  | nil held => simp
  | @cons held mid held' e events answers follows ih =>
    obtain ⟨here, later⟩ := List.forall_mem_cons.mp known
    rcases answers.made_cases here with ⟨none, same⟩ | ⟨new, made, absent, more⟩
    · rw [List.filterMap_cons_none none, ih later, same]
    · rw [List.filterMap_cons_some made, List.count_cons, ih later, more]
      have kept := follows.grows later
      rw [more] at kept
      by_cases here : new = bucket
      · subst here
        simp [absent, kept (Finset.mem_insert_self new held.buckets)]
      · simp [here, Ne.symm here]

/-- The objects are those that were stored, on top of what was there. -/
theorem objects_eq (follows : Follows held events held')
    (known : ∀ e ∈ events, e.request ≠ .other) :
    held'.objects = (events.filterMap StoreEvent.stored?).foldl holding held.objects := by
  induction follows with
  | nil held => rfl
  | @cons held mid held' e events answers _ ih =>
    obtain ⟨here, later⟩ := List.forall_mem_cons.mp known
    rw [ih later, answers.stored_eq here]
    cases of_e : e.stored? with
    | none => rw [List.filterMap_cons_none of_e, Option.elim_none]
    | some x => rw [List.filterMap_cons_some of_e, Option.elim_some, List.foldl_cons]

end Follows

/-! ## A world with a store -/

/-- What an exchange with a client or at the site tells of the store. -/
def told? (e : Exchange ((Client τ).sum Site)) : Option StoreEvent := e.first?.bind storeEvent?

/-- What a trace tells of the store. -/
def told (tr : List (Exchange ((Client τ).sum Site))) : List StoreEvent := tr.filterMap told?

theorem told_eq (tr : List (Exchange ((Client τ).sum Site))) :
    told tr = storeEvents (ofFirst tr) :=
  List.filterMap_filterMap.symm

/-- A call to the store is what tells of it. -/
theorem exists_of_told {e : Exchange ((Client τ).sum Site)} {event : StoreEvent}
    (of_e : told? e = some event) : ∃ method arguments answer,
      e = ⟨.inl (.call ObjectStore.service method arguments), answer⟩ ∧
        event = ⟨requestOf method arguments, answer⟩ := by
  obtain ⟨op | op, answer⟩ := e
  · cases op with
    | call service method arguments =>
      change (if service = ObjectStore.service then some _ else none) = some event at of_e
      split at of_e
      next here =>
        subst here
        exact ⟨method, arguments, answer, rfl, (Option.some.inj of_e).symm⟩
      · cases of_e
    | _ => cases of_e
  · cases of_e

theorem mem_told_own {i : Nat} {event : StoreEvent}
    {tr : List (Nat × Exchange ((Client τ).sum Site))} (mem : event ∈ told (own i tr)) :
    event ∈ told (tr.map Prod.snd) := by
  obtain ⟨e, asked, of_e⟩ := List.mem_filterMap.mp mem
  exact List.mem_filterMap.mpr ⟨e, List.mem_map_of_mem (mem_own.mp asked), of_e⟩

theorem exists_of_mem_told {event : StoreEvent}
    {tr : List (Nat × Exchange ((Client τ).sum Site))} (mem : event ∈ told (tr.map Prod.snd)) :
    ∃ i e, (i, e) ∈ tr ∧ told? e = some event := by
  obtain ⟨e, asked, of_e⟩ := List.mem_filterMap.mp mem
  obtain ⟨⟨i, e'⟩, inside, rfl⟩ := List.mem_map.mp asked
  exact ⟨i, e', inside, of_e⟩

namespace HoldsObjects

variable {answer : Handler ((Client τ).sum Site) σ} {held : σ → Objects} {s s' : σ}

/-- Whatever is asked, the store answers the calls to it one after the other. -/
theorem follows (holds : HoldsObjects answer held) {tr : List (Exchange ((Client τ).sum Site))}
    (plays : answer.Plays s tr s') : Follows (held s) (told tr) (held s') := by
  induction plays with
  | nil s => exact .nil _
  | @cons s s' op tr _ ih =>
    rw [told]
    cases of_op : told? ⟨op, (answer op s).1⟩ with
    | none =>
      rw [List.filterMap_cons_none of_op]
      have same : held (answer op s).2 = held s := by
        refine holds.keeps op s fun method arguments here => ?_
        subst here
        cases of_op
      rw [← same]
      exact ih
    | some event =>
      rw [List.filterMap_cons_some of_op]
      obtain ⟨method, arguments, a, here, rfl⟩ := exists_of_told of_op
      obtain ⟨rfl, same⟩ := Exchange.mk.inj here
      rw [← eq_of_heq same]
      exact .cons (holds.answers method arguments s) ih

end HoldsObjects

/-! ## Tasks that publish -/

variable [Seconds τ]

/-- The tasks that publish contents into buckets over the clients. -/
def publishing (b : Backend) (items : List (String × Bytes)) :
    List (Prog ((Client τ).sum Site) (Except Error String)) :=
  items.map fun item =>
    b.overClients (Publisher.publish ObjectStore.scheme item.1 item.2).outcome

/-- What publications at the same time make of a store. -/
structure PublishedTogether (answer : Handler ((Client τ).sum Site) σ) (held : σ → Objects)
    (items : List (String × Bytes)) (s s' : σ)
    (tr : List (Nat × Exchange ((Client τ).sum Site))) (results : List (Except Error String)) :
    Prop where
  /-- No publication fails. -/
  results_eq : results = items.map fun item =>
    .ok (Publisher.uri ObjectStore.scheme item.1 (contentKey item.2))
  /-- Each bucket that was missing is made just once, and no other one is made. -/
  made_once : ∀ bucket, ((told (tr.map Prod.snd)).filterMap StoreEvent.made?).count bucket =
    if bucket ∈ items.map Prod.fst ∧ bucket ∉ (held s).buckets then 1 else 0
  /-- When bytes are sent to a bucket, it is there. -/
  put_there : ∀ before i e after event bucket key content, tr = before ++ (i, e) :: after →
    told? e = some event → event.request = .put bucket key content →
    ∀ mid, answer.Plays s (before.map Prod.snd) mid → bucket ∈ (held mid).buckets
  /-- In the end there are bytes under the key of each content, and these have that key. -/
  stored : ∀ item ∈ items, ∃ other ∈ items, other.1 = item.1 ∧
    contentKey other.2 = contentKey item.2 ∧
    (held s').objects (item.1, contentKey item.2) = some other.2
  /-- They are the content itself, unless the digest gives its value for another content as
  well. -/
  found : ∀ item ∈ items, (∀ other ∈ items, other.1 = item.1 →
      Digest.sha512Hex other.2 = Digest.sha512Hex item.2 → other.2 = item.2) →
    (held s').objects (item.1, contentKey item.2) = some item.2

section

variable {b : Backend} {answer : Handler ((Client τ).sum Site) σ} {held : σ → Objects}
  {items : List (String × Bytes)} {s s' : σ} {tr : List (Nat × Exchange ((Client τ).sum Site))}
  {results : List (Except Error String)}

/-- Each task publishes by the rule. -/
theorem publishesBy_of_interleaved
    (order : Interleaved answer (publishing b items) s tr results s') {i : Nat}
    {item : String × Bytes} (at_i : items[i]? = some item) :
    ∃ r, results[i]? = some r ∧ PublishesBy item.1 item.2 (told (own i tr)) r := by
  have task : (publishing b items : List (Prog ((Client τ).sum Site) _))[i]? = some
      (b.overClients (Publisher.publish ObjectStore.scheme item.1 item.2).outcome) := by
    rw [publishing, List.getElem?_map, at_i, Option.map_some]
  obtain ⟨r, gave, ran⟩ := order.runs task
  rw [told_eq]
  exact ⟨r, gave, runs_publish_overClients b ran⟩

/-- Every exchange is one of a task that publishes by the rule. -/
theorem exists_item (order : Interleaved answer (publishing b items) s tr results s') {i : Nat}
    {e : Exchange ((Client τ).sum Site)} (mem : (i, e) ∈ tr) :
    ∃ item ∈ items, ∃ r, PublishesBy item.1 item.2 (told (own i tr)) r := by
  have inside : i < items.length := by
    simpa only [publishing, List.length_map] using order.index_lt mem
  have at_i := List.getElem?_eq_getElem inside
  obtain ⟨r, -, publishes⟩ := publishesBy_of_interleaved order at_i
  exact ⟨_, List.mem_of_getElem? at_i, r, publishes⟩

/-- What is asked of the store is asked for one of the contents. -/
theorem request_of_mem (order : Interleaved answer (publishing b items) s tr results s')
    {event : StoreEvent} (mem : event ∈ told (tr.map Prod.snd)) :
    ∃ item ∈ items, event.request = .head item.1 ∨ event.request = .create item.1 ∨
      event.request = .put item.1 (contentKey item.2) item.2 := by
  obtain ⟨i, e, asked, of_e⟩ := exists_of_mem_told mem
  obtain ⟨item, inside, r, publishes⟩ := exists_item order asked
  exact ⟨item, inside, publishes.requests event
    (List.mem_filterMap.mpr ⟨e, mem_own.mpr asked, of_e⟩)⟩

theorem known_of_mem (order : Interleaved answer (publishing b items) s tr results s')
    {event : StoreEvent} (mem : event ∈ told (tr.map Prod.snd)) : event.request ≠ .other := by
  obtain ⟨item, -, same | same | same⟩ := request_of_mem order mem <;>
    exact fun other => nomatch same.symm.trans other

/-- Bytes are sent to a bucket only behind an answer that shows it to be there. -/
theorem shown_of_put (order : Interleaved answer (publishing b items) s tr results s')
    {before after : List (Nat × Exchange ((Client τ).sum Site))} {i : Nat}
    {e : Exchange ((Client τ).sum Site)} {event : StoreEvent} {bucket key : String}
    {content : Bytes} (split : tr = before ++ (i, e) :: after) (of_e : told? e = some event)
    (put : event.request = .put bucket key content) :
    ∃ event' ∈ told (before.map Prod.snd), event'.Shows bucket := by
  obtain ⟨item, -, r, publishes⟩ := exists_item order
    (split ▸ List.mem_append_right before List.mem_cons_self)
  have parts : told (own i tr) = told (own i before) ++ event :: told (own i after) := by
    rw [split, own_append, own_cons_self, told, List.filterMap_append,
      List.filterMap_cons_some of_e]
    rfl
  obtain ⟨event', mem, shows⟩ := publishes.shown parts put
  exact ⟨event', mem_told_own mem, shows⟩

/-- When bytes are sent to a bucket, it is there. -/
theorem HoldsObjects.put_there (holds : HoldsObjects answer held)
    (order : Interleaved answer (publishing b items) s tr results s')
    {before after : List (Nat × Exchange ((Client τ).sum Site))} {i : Nat}
    {e : Exchange ((Client τ).sum Site)} {event : StoreEvent} {bucket key : String}
    {content : Bytes} (split : tr = before ++ (i, e) :: after) (of_e : told? e = some event)
    (put : event.request = .put bucket key content) {mid : σ}
    (plays : answer.Plays s (before.map Prod.snd) mid) : bucket ∈ (held mid).buckets := by
  obtain ⟨event', mem, shows⟩ := shown_of_put order split of_e put
  refine (holds.follows plays).shown (fun event mem => known_of_mem order ?_) mem shows
  rw [split, List.map_append, told, List.filterMap_append]
  exact List.mem_append_left _ mem

/-- It goes on with every answer. -/
theorem HoldsObjects.goesOn (holds : HoldsObjects answer held)
    (order : Interleaved answer (publishing b items) s tr results s') {event : StoreEvent}
    (mem : event ∈ told (tr.map Prod.snd)) : event.GoesOn := by
  obtain ⟨i, e, asked, of_e⟩ := exists_of_mem_told mem
  obtain ⟨before, after, split⟩ := List.append_of_mem asked
  have plays := order.plays
  rw [split, List.map_append, List.map_cons] at plays
  obtain ⟨mid, began, rest⟩ := Handler.plays_append.mp plays
  obtain ⟨method, arguments, a, rfl, rfl⟩ := exists_of_told of_e
  obtain ⟨rfl, -⟩ := Handler.plays_cons.mp rest
  refine (holds.answers method arguments mid).goesOn fun bucket key content put => ?_
  exact holds.put_there order split of_e put began

/-- Each task stores its bytes and gives their address. -/
theorem HoldsObjects.task_ok (holds : HoldsObjects answer held)
    (order : Interleaved answer (publishing b items) s tr results s') {i : Nat}
    {item : String × Bytes} (at_i : items[i]? = some item) :
    results[i]? = some (.ok (Publisher.uri ObjectStore.scheme item.1 (contentKey item.2))) ∧
      ∃ d, ⟨.put item.1 (contentKey item.2) item.2, .ok d⟩ ∈ told (tr.map Prod.snd) := by
  obtain ⟨r, gave, publishes⟩ := publishesBy_of_interleaved order at_i
  obtain ⟨rfl, d, mem⟩ := publishes.ok fun event mem => holds.goesOn order (mem_told_own mem)
  exact ⟨gave, d, mem_told_own mem⟩

/-- A bucket is there in the end if it was there, or some content was to be published into it. -/
theorem HoldsObjects.bucket_iff (holds : HoldsObjects answer held)
    (order : Interleaved answer (publishing b items) s tr results s') (bucket : String) :
    bucket ∈ (held s').buckets ∧ bucket ∉ (held s).buckets ↔
      bucket ∈ items.map Prod.fst ∧ bucket ∉ (held s).buckets := by
  have follows := holds.follows order.plays
  have known : ∀ e ∈ told (tr.map Prod.snd), e.request ≠ .other := fun _ => known_of_mem order
  refine and_congr_left fun absent => ⟨fun present => ?_, fun asked => ?_⟩
  · have one := follows.count_made known bucket
    rw [if_pos ⟨present, absent⟩] at one
    have made := List.count_pos_iff.mp (one ▸ Nat.one_pos)
    obtain ⟨⟨request, a⟩, mem, of_e⟩ := List.mem_filterMap.mp made
    obtain ⟨item, inside, of_item⟩ := request_of_mem order mem
    have same : request = .create bucket := by
      unfold StoreEvent.made? at of_e
      split at of_e <;> cases of_e
      next here => exact congrArg StoreEvent.request here
    rcases of_item with other | here | other
    · cases other.symm.trans same
    · cases here.symm.trans same
      exact List.mem_map_of_mem inside
    · cases other.symm.trans same
  · obtain ⟨item, inside, rfl⟩ := List.mem_map.mp asked
    obtain ⟨i, place, rfl⟩ := List.getElem_of_mem inside
    obtain ⟨-, d, mem⟩ := holds.task_ok order (List.getElem?_eq_getElem place)
    obtain ⟨i, e, asked, of_e⟩ := exists_of_mem_told mem
    obtain ⟨before, after, split⟩ := List.append_of_mem asked
    obtain ⟨event, shown, shows⟩ := shown_of_put order split of_e rfl
    refine follows.shown known ?_ shows
    rw [split, List.map_append, told, List.filterMap_append]
    exact List.mem_append_left _ shown

/-- What calls have stored is the content of a publication under its key. -/
theorem exists_of_stored (order : Interleaved answer (publishing b items) s tr results s')
    {x : Stored} (mem : x ∈ (told (tr.map Prod.snd)).filterMap StoreEvent.stored?) :
    ∃ item ∈ items, x = ⟨item.1, contentKey item.2, item.2⟩ := by
  obtain ⟨⟨request, a⟩, mem, of_e⟩ := List.mem_filterMap.mp mem
  obtain ⟨item, inside, of_item⟩ := request_of_mem order mem
  refine ⟨item, inside, ?_⟩
  unfold StoreEvent.stored? at of_e
  split at of_e <;> cases of_e
  next here =>
    obtain ⟨rfl, rfl⟩ := StoreEvent.mk.inj here
    rcases of_item with other | other | here
    · cases other
    · cases other
    · cases here
      rfl

/-- In the place of a content there are bytes that were published with its key. -/
theorem HoldsObjects.stored (holds : HoldsObjects answer held)
    (order : Interleaved answer (publishing b items) s tr results s') {item : String × Bytes}
    (mem : item ∈ items) : ∃ other ∈ items, other.1 = item.1 ∧
      contentKey other.2 = contentKey item.2 ∧
      (held s').objects (item.1, contentKey item.2) = some other.2 := by
  obtain ⟨i, place, rfl⟩ := List.getElem_of_mem mem
  obtain ⟨-, d, put⟩ := holds.task_ok order (List.getElem?_eq_getElem place)
  have asked : (⟨items[i].1, contentKey items[i].2, items[i].2⟩ : Stored) ∈
      (told (tr.map Prod.snd)).filterMap StoreEvent.stored? := List.mem_filterMap.mpr ⟨_, put, rfl⟩
  obtain ⟨y, inside, same, found⟩ := exists_of_holding asked (held s).objects
  obtain ⟨other, there, rfl⟩ := exists_of_stored order inside
  obtain ⟨buckets, keys⟩ := Prod.mk.inj same
  refine ⟨other, there, buckets, keys, ?_⟩
  rw [(holds.follows order.plays).objects_eq fun _ => known_of_mem order]
  exact found

/-- What publications at the same time have made of a store when they are done. -/
theorem HoldsObjects.publishedTogether (holds : HoldsObjects answer held)
    (order : Interleaved answer (publishing b items) s tr results s') :
    PublishedTogether answer held items s s' tr results where
  results_eq := by
    refine List.ext_getElem? fun i => ?_
    rw [List.getElem?_map]
    by_cases inside : i < items.length
    · have at_i := List.getElem?_eq_getElem inside
      rw [(holds.task_ok order at_i).1, at_i, Option.map_some]
    · have outside := Nat.le_of_not_lt inside
      have length : results.length = items.length := by
        rw [order.length_eq, publishing, List.length_map]
      rw [List.getElem?_eq_none (length ▸ outside), List.getElem?_eq_none outside, Option.map_none]
  made_once := by
    intro bucket
    rw [(holds.follows order.plays).count_made (fun _ => known_of_mem order)]
    exact if_congr (holds.bucket_iff order bucket) rfl rfl
  put_there := by
    intro before i e after event bucket key content split of_e put mid plays
    exact holds.put_there order split of_e put plays
  stored := fun item mem => holds.stored order mem
  found := by
    intro item mem distinct
    obtain ⟨other, inside, bucket, key, found⟩ := holds.stored order mem
    rw [found, distinct other inside bucket ((String.append_left_inj _).mp key)]

end

/-- Whatever order the calls come in by which any contents are published into any buckets at the
same time, in a store that tells of a bucket that is missing, makes it then, tells of one that is
owned already, and takes bytes into every bucket that is there: the publications come to an end,
none of them fails, each bucket that was missing is made just once, no bytes are sent to a bucket
that is missing, and in the end each content is found under its key. -/
theorem publish_at_the_same_time (b : Backend) (answer : Handler ((Client τ).sum Site) σ)
    (held : σ → Objects) (holds : HoldsObjects answer held) (items : List (String × Bytes)) (s : σ) :
    (∃ tr results s', Interleaved answer (publishing b items) s tr results s') ∧
      ∀ tr results s', Interleaved answer (publishing b items) s tr results s' →
        PublishedTogether answer held items s s' tr results := by
  refine ⟨?_, fun tr results s' order => holds.publishedTogether order⟩
  obtain ⟨results, s', run⟩ := (uncut_attemptAll (fun item : String × Bytes =>
    uncut_publish_overClients (τ := τ) b ObjectStore.scheme item.1 item.2) items).run answer s
  obtain ⟨-, tr, order⟩ := interleaved_of_attemptAll run
  exact ⟨tr, _, s', order⟩

/-! ## Two tasks for one bucket -/

/-- What a store answers, and what it holds afterwards. -/
def storing (held : Objects) : StoreRequest → Except Error Datum × Objects
  | .head bucket =>
    if bucket ∈ held.buckets then (.ok .null, held) else (refusal "404" "Not Found", held)
  | .create bucket =>
    if bucket ∈ held.buckets then (refusal "BucketAlreadyOwnedByYou" "it is yours", held)
    else (.ok .null, { held with buckets := insert bucket held.buckets })
  | .put bucket key content =>
    if bucket ∈ held.buckets then
      (.ok .null, { held with objects := holding held.objects ⟨bucket, key, content⟩ })
    else (refusal "NoSuchBucket" "it is not there", held)
  | .other => (.ok .null, held)

/-- A world that is such a store and nothing else. -/
def objectStore : Handler ((Client Number).sum Site) Objects
  | .inl (.call service method arguments), held =>
    if service = ObjectStore.service then storing held (requestOf method arguments)
    else (Except.ok .null, held)
  | .inl (.page ..), held => (Except.ok none, held)
  | .inl .now, held => (Number.whole 0, held)
  | .inl (.connect ..), held | .inl (.reuse ..), held | .inl (.paginate ..), held
  | .inl (.waiter ..), held | .inl (.sleep _), held | .inl (.log _), held => ((), held)
  | .inr op, held => (refusing "" (.inr op), held)

theorem storing_answers (held : Objects) (request : StoreRequest) :
    Answers held request (storing held request).1 (storing held request).2 := by
  cases request with
  | head bucket =>
    by_cases there : bucket ∈ held.buckets
    · simp only [storing, if_pos there]
      exact .present _ there
    · simp only [storing, if_neg there]
      exact .missing there rfl
  | create bucket =>
    by_cases there : bucket ∈ held.buckets
    · simp only [storing, if_pos there]
      exact .owned there rfl
    · simp only [storing, if_neg there]
      exact .made _ there
  | put bucket key content =>
    by_cases there : bucket ∈ held.buckets
    · simp only [storing, if_pos there]
      exact .stored key content _ there
    · simp only [storing, if_neg there]
      exact .rejected key content _ there
  | other => exact .other _ _

theorem holdsObjects_objectStore : HoldsObjects objectStore id where
  answers := by
    intro method arguments s
    exact storing_answers s _
  keeps := by
    intro op s other
    cases op with
    | inl op =>
      cases op with
      | call service method arguments =>
        have elsewhere : service ≠ ObjectStore.service :=
          fun same => other method arguments (same ▸ rfl)
        exact congrArg Prod.snd (if_neg elsewhere)
      | _ => rfl
    | inr op => rfl

/-- A backend for tasks that look at nothing. -/
def noLooks : Backend := ⟨.text "eu-central-1", 0⟩

/-- Two contents for one bucket. -/
def twoContents : List (String × Bytes) := [("new", [1]), ("new", [2])]

/-- An order in which both tasks look for the bucket before one of them makes it. -/
def racing : List Nat := [0, 0, 1, 1, 1, 0, 1, 0, 1, 0, 1, 0, 1]

set_option maxRecDepth 100000 in
/-- Two tasks are both told that their bucket is missing and both ask for it to be made; one of
them is told that it is owned already, and both publish. -/
theorem racing_published : ∃ tr results s',
    Interleaved objectStore (publishing noLooks twoContents) ⟨∅, fun _ => none⟩ tr results s' ∧
    (told (tr.map Prod.snd)).map StoreEvent.request =
      [.head "new", .head "new", .create "new", .create "new", .put "new" (contentKey [1]) [1],
        .put "new" (contentKey [2]) [2]] ∧
    PublishedTogether objectStore id twoContents ⟨∅, fun _ => none⟩ s' tr results := by
  let start : Objects := ⟨∅, fun _ => none⟩
  have asked : (inOrder objectStore racing (publishing noLooks twoContents) start).map
      (fun run => (told (run.1.map Prod.snd)).map StoreEvent.request) =
        some [.head "new", .head "new", .create "new", .create "new",
          .put "new" (contentKey [1]) [1], .put "new" (contentKey [2]) [2]] := by decide +kernel
  obtain ⟨⟨tr, results, s'⟩, run, requests⟩ := Option.map_eq_some_iff.mp asked
  have order := interleaved_of_inOrder run
  exact ⟨tr, results, s', order, requests, (publish_at_the_same_time noLooks objectStore id
    holdsObjects_objectStore twoContents start).2 tr results s' order⟩

end NodePools.Aws
