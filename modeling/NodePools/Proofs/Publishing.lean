import Mathlib.Logic.Function.Basic
import NodePools.Proofs.Interpretation
import NodePools.Proofs.KeyedWrites
import NodePools.Proofs.Schedule

/-!
# Publishing one after the other

Bytes are published under a key that is made from them.  So what a store holds after any
number of publications says nothing of how often, in which order and with which failures
they were made: it is what was published without an error, each under its own key
(`Publisher.publish_content_addressed`).

`Stores` is all that is asked of the store: a put without an error stores the bytes in their
place, and nothing else changes what is there.  The objects that a trace leaves are then
those of its puts, the last one of a place counting (`Stores.after`); and as long as the
digest does not give one value for two of the contents, no put takes the place of other
bytes (`holding_of_mem`).

An address leads back to its bucket and its key, because keys have no slash
(`Publisher.uri_eq_uri_iff`).
-/

namespace NodePools

open Attempt (Stored storedBy? stored)
open Prog (Runs)

/-! ## A store that holds what is put into it -/

/-- The objects with one more in its place. -/
def holding (objects : String × String → Option Bytes) (x : Stored) :
    String × String → Option Bytes :=
  Function.update objects (x.bucket, x.key) (some x.content)

/-- What a store holds changes by a put without an error, which stores the bytes in their
place, and by nothing else. -/
def Stores {σ : Type} (answer : Handler Service σ) (objects : σ → String × String → Option Bytes) :
    Prop :=
  ∀ op s, objects (answer op s).2 =
    (storedBy? ⟨op, (answer op s).1⟩).elim (objects s) (holding (objects s))

/-- The objects after a trace are those of its puts, on top of what was there. -/
theorem Stores.after {σ : Type} {answer : Handler Service σ}
    {objects : σ → String × String → Option Bytes} (stores : Stores answer objects) {s s' : σ}
    {tr : List (Exchange Service)} (plays : answer.Plays s tr s') :
    objects s' = (stored tr).foldl holding (objects s) :=
  plays.foldl_view stores

theorem holding_eq : holding = written (fun x : Stored => (x.bucket, x.key)) Stored.content := rfl

/-- What is found among objects that were stored one after the other is one of them. -/
theorem mem_of_holding {xs : List Stored} {bucket key : String} {content : Bytes}
    (found : xs.foldl holding (fun _ => none) (bucket, key) = some content) :
    ⟨bucket, key, content⟩ ∈ xs := by
  rw [holding_eq] at found
  rcases of_written found with ⟨⟨bucket', key', content'⟩, mem, place, rfl⟩ | absent
  · obtain ⟨rfl, rfl⟩ := Prod.mk.inj place
    exact mem
  · cases absent

/-- In the place of an object that was stored are the bytes of an object with this place. -/
theorem exists_of_holding {xs : List Stored} {x : Stored} (mem : x ∈ xs)
    (objects : String × String → Option Bytes) :
    ∃ y ∈ xs, (y.bucket, y.key) = (x.bucket, x.key) ∧
      xs.foldl holding objects (x.bucket, x.key) = some y.content :=
  exists_of_written mem objects

/-- Each of the objects is found if none was stored in the place of other bytes. -/
theorem holding_of_mem {xs : List Stored} {x : Stored} (mem : x ∈ xs)
    (same : ∀ x ∈ xs, ∀ y ∈ xs, (x.bucket, x.key) = (y.bucket, y.key) → x.content = y.content)
    (objects : String × String → Option Bytes) :
    xs.foldl holding objects (x.bucket, x.key) = some x.content :=
  written_of_mem mem (fun y mem' place => same y mem' x mem place) objects

/-! ## Keys and addresses -/

theorem slash_not_mem_contentKey (content : Bytes) : '/' ∉ (contentKey content).toList := by
  have digits : ∀ n < 16, Nat.digitChar n ≠ '/' := by decide
  have digit (n : Nat) : Text.Hex.digit n ≠ '/' := digits _ (Nat.mod_lt _ (by decide))
  rw [contentKey, String.toList_append, List.mem_append, not_or]
  refine ⟨?_, by decide⟩
  rw [Digest.sha512Hex, Text.Hex.encode, String.toList_ofList, List.mem_flatMap]
  rintro ⟨b, -, mem⟩
  rcases List.mem_cons.mp mem with same | mem
  · exact digit _ same.symm
  · exact digit _ (List.mem_singleton.mp mem).symm

/-- What stands in front of the last of a separator and behind it is told by the whole. -/
theorem append_cons_inj_of_last {α : Type} {front front' back back' : List α} {a : α}
    (last : a ∉ back) (last' : a ∉ back') (same : front ++ a :: back = front' ++ a :: back') :
    front = front' ∧ back = back' := by
  rcases List.append_eq_append_iff.mp same with ⟨more, rfl, rest⟩ | ⟨more, rfl, rest⟩
  · cases more with
    | nil => exact ⟨(List.append_nil _).symm, (List.cons.inj rest).2⟩
    | cons _ more =>
      rw [(List.cons.inj rest).2] at last
      exact absurd (List.mem_append_right _ List.mem_cons_self) last
  · cases more with
    | nil => exact ⟨List.append_nil _, (List.cons.inj rest).2.symm⟩
    | cons _ more =>
      rw [(List.cons.inj rest).2] at last'
      exact absurd (List.mem_append_right _ List.mem_cons_self) last'

namespace Publisher

theorem toList_uri (scheme bucket key : String) :
    (uri scheme bucket key).toList =
      (scheme.toList ++ "://".toList) ++ (bucket.toList ++ '/' :: key.toList) := by
  have joined : uri scheme bucket key = scheme ++ "://" ++ bucket ++ "/" ++ key := rfl
  simp only [joined, String.toList_append, List.append_assoc]
  rfl

/-- An address tells the bucket, and the key if keys have no slash. -/
theorem uri_eq_uri_iff {scheme bucket bucket' key key' : String} (plain : '/' ∉ key.toList)
    (plain' : '/' ∉ key'.toList) :
    uri scheme bucket key = uri scheme bucket' key' ↔ bucket = bucket' ∧ key = key' := by
  constructor
  · intro same
    rw [← String.toList_inj, toList_uri, toList_uri, List.append_right_inj] at same
    obtain ⟨buckets, keys⟩ := append_cons_inj_of_last plain plain' same
    exact ⟨String.toList_inj.mp buckets, String.toList_inj.mp keys⟩
  · rintro ⟨rfl, rfl⟩
    rfl

/-- An error about publishing stays as it is, and any other one becomes one. -/
theorem storeError_eq (key bucket : String) (e : Error) :
    (∃ cause, e = .publish cause ∧ storeError key bucket e = e) ∨
      ((∀ cause, e ≠ .publish cause) ∧
        storeError key bucket e = .publish (.storeFailed key bucket e.message)) := by
  cases e with
  | publish cause => exact .inl ⟨cause, rfl, rfl⟩
  | _ => exact .inr ⟨nofun, rfl⟩

/-! ## Publications one after the other -/

/-- Publishes contents into buckets one after the other, whatever comes of each. -/
def publishAll (scheme : String) (items : List (String × Bytes)) :
    Prog Service (List ((String × Bytes) × Except Error String)) :=
  Settle.attemptAll (fun item => (publish scheme item.1 item.2).outcome) items

/-- The object that a publication has stored, if it did not fail. -/
def storedFor? : (String × Bytes) × Except Error String → Option Stored
  | ((bucket, content), .ok _) => some ⟨bucket, contentKey content, content⟩
  | (_, .error _) => none

section

variable {scheme bucket : String} {content : Bytes} {result : Except Error String}
  {tr : List (Exchange Service)} {items : List (String × Bytes)}
  {results : List ((String × Bytes) × Except Error String)}

theorem Publishes.stored_eq {cs : List (Exchange Service)}
    (publishes : Publishes scheme bucket content cs result) :
    Attempt.stored cs = (storedFor? ((bucket, content), result)).toList := by
  cases publishes <;> rfl

theorem stored_of_publish (run : Runs (publish scheme bucket content).outcome tr result) :
    stored tr = (storedFor? ((bucket, content), result)).toList := by
  rw [← (runs_publish run).stored_eq]
  exact (filterMap_calls (fun _ _ => rfl) tr).symm

/-- What publications store is what those of them stored that did not fail. -/
theorem stored_of_publishAll (run : Runs (publishAll scheme items) tr results) :
    stored tr = results.filterMap storedFor? := by
  have parts := (Settle.runs_attemptAll.mp run).2
  clear run
  induction parts with
  | nil => rfl
  | @cons e results part rest first _ ih =>
    have here : stored part = (storedFor? e).toList := stored_of_publish first
    rw [stored, List.filterMap_append, ← stored, ← stored, here, ih]
    cases of_e : storedFor? e with
    | none => rw [List.filterMap_cons_none of_e, Option.toList_none, List.nil_append]
    | some x => rw [List.filterMap_cons_some of_e, Option.toList_some, List.singleton_append]

theorem mem_storedFor {x : Stored} :
    x ∈ results.filterMap storedFor? ↔
      x.key = contentKey x.content ∧
        ∃ address, ((x.bucket, x.content), .ok address) ∈ results := by
  rw [List.mem_filterMap]
  constructor
  · rintro ⟨⟨⟨bucket, content⟩, result⟩, mem, told⟩
    cases result with
    | error e => cases told
    | ok address =>
      cases told
      exact ⟨rfl, address, mem⟩
  · rintro ⟨key, address, mem⟩
    obtain ⟨bucket, key', content⟩ := x
    obtain rfl : key' = contentKey content := key
    exact ⟨_, mem, rfl⟩

end

/-! ## What publications make of a store -/

section

variable {σ : Type} (answer : Handler Service σ) (objects : σ → String × String → Option Bytes)
  (scheme : String)

/-- What comes of a publication that does not fail: an address of the bucket and the key, that
no other bucket and key have, and under it the bytes are found as long as publications go
on. -/
structure Placed (s : σ) (bucket : String) (content : Bytes) (address : String)
    (done rest : List (Exchange Service)) : Prop where
  address_eq : address = uri scheme bucket (contentKey content)
  only : ∀ bucket' key', '/' ∉ key'.toList → uri scheme bucket' key' = address →
    bucket' = bucket ∧ key' = contentKey content
  stays : ∀ now later mid, rest = now ++ later → answer.Plays s (done ++ now) mid →
    objects mid (bucket, contentKey content) = some content

/-- What comes of a publication that fails, because the bucket was refused or the bytes
were: an error about publishing, which is that of the store if this is one already, and the
objects are as they were before. -/
structure Failed (s next : σ) (bucket : String) (content : Bytes) (e : Error)
    (cs : List (Exchange Service)) : Prop where
  told : ∃ cause, (cs = [.cloud (.ensureBucket bucket) (.error cause)] ∨
      cs = [.cloud (.ensureBucket bucket) (.ok ()),
        .cloud (.put bucket (contentKey content) content) (.error cause)]) ∧
    ((∃ why, cause = .publish why ∧ e = cause) ∨ (∀ why, cause ≠ .publish why) ∧
      e = .publish (.storeFailed (contentKey content) bucket cause.message))
  unchanged : objects next = objects s

/-- What publications one after the other make of an empty store. -/
structure ContentAddressed (s s' : σ) (tr : List (Exchange Service))
    (results : List ((String × Bytes) × Except Error String)) : Prop where
  /-- At every moment what is found has the key that is made from it. -/
  keyed : ∀ before after mid, tr = before ++ after → answer.Plays s before mid →
    ∀ bucket key content, objects mid (bucket, key) = some content → key = contentKey content
  /-- In the end there is what was published without an error, and nothing else. -/
  found_iff : ∀ bucket key content, objects s' (bucket, key) = some content ↔
    key = contentKey content ∧ ∃ address, ((bucket, content), .ok address) ∈ results
  /-- Nothing else about the publications matters to the objects. -/
  history_irrelevant : ∀ (t t' : σ) tr' items results', objects t = (fun _ => none) →
    Runs (publishAll scheme items) tr' results' → answer.Plays t tr' t' →
    (∀ item, (∃ address, (item, .ok address) ∈ results') ↔
      ∃ address, (item, .ok address) ∈ results) → objects t' = objects s'
  /-- Every publication either places its bytes or fails. -/
  each : ∀ front bucket content result back,
    results = front ++ ((bucket, content), result) :: back →
    ∃ before part after mid next, tr = before ++ part ++ after ∧
      Runs (publishAll scheme (front.map Prod.fst)) before front ∧
      Runs (publish scheme bucket content).outcome part result ∧
      answer.Plays s before mid ∧ answer.Plays mid part next ∧ answer.Plays next after s' ∧
      match result with
      | .ok address => Placed answer objects scheme s bucket content address (before ++ part) after
      | .error e => Failed objects mid next bucket content e (calls part)

end

section

variable {σ : Type} {answer : Handler Service σ} {objects : σ → String × String → Option Bytes}
  {scheme : String} {items : List (String × Bytes)} {s s' : σ} {tr : List (Exchange Service)}
  {results : List ((String × Bytes) × Except Error String)}

/-- What was stored at some moment of publications is under the key made from it, and its
publication did not fail. -/
theorem of_mem_stored (run : Runs (publishAll scheme items) tr results)
    {before after : List (Exchange Service)} (split : tr = before ++ after) {x : Stored}
    (mem : x ∈ stored before) :
    x.key = contentKey x.content ∧ ∃ address, ((x.bucket, x.content), .ok address) ∈ results := by
  rw [← mem_storedFor, ← stored_of_publishAll run, split, stored, List.filterMap_append]
  exact List.mem_append_left _ mem

/-- If the digest does not give one value for two of the contents published, what is stored in
one place is the same. -/
theorem content_eq_of_place (run : Runs (publishAll scheme items) tr results)
    (distinct : ∀ x ∈ items, ∀ y ∈ items,
      Digest.sha512Hex x.2 = Digest.sha512Hex y.2 → x.2 = y.2)
    {before after : List (Exchange Service)} (split : tr = before ++ after) :
    ∀ x ∈ stored before, ∀ y ∈ stored before,
      (x.bucket, x.key) = (y.bucket, y.key) → x.content = y.content := by
  intro x mem y mem' place
  obtain ⟨key, address, here⟩ := of_mem_stored run split mem
  obtain ⟨key', address', there⟩ := of_mem_stored run split mem'
  have published {item : String × Bytes} {result : Except Error String}
      (mem : (item, result) ∈ results) : item ∈ items := by
    rw [← (Settle.runs_attemptAll.mp run).1]
    exact List.mem_map_of_mem mem
  have digests : contentKey x.content = contentKey y.content := by
    rw [← key, ← key']
    exact (Prod.mk.inj place).2
  exact distinct _ (published here) _ (published there) ((String.append_left_inj _).mp digests)

/-- What is found after publications is what they stored, in whichever way they came to store
it. -/
theorem found_iff_of_stored (stores : Stores answer objects) (fresh : objects s = fun _ => none)
    (plays : answer.Plays s tr s') (run : Runs (publishAll scheme items) tr results)
    (same : ∀ x ∈ stored tr, ∀ y ∈ stored tr,
      (x.bucket, x.key) = (y.bucket, y.key) → x.content = y.content)
    (bucket key : String) (content : Bytes) :
    objects s' (bucket, key) = some content ↔
      key = contentKey content ∧ ∃ address, ((bucket, content), .ok address) ∈ results := by
  rw [stores.after plays, fresh]
  constructor
  · intro found
    exact of_mem_stored run (List.append_nil tr).symm (mem_of_holding found)
  · intro published
    refine holding_of_mem (x := ⟨bucket, key, content⟩) ?_ same _
    rw [stored_of_publishAll run]
    exact mem_storedFor.mpr published

/-- A publication without an error places its bytes. -/
theorem placed_of_run (stores : Stores answer objects) (fresh : objects s = fun _ => none)
    {bucket : String} {content : Bytes} {address : String}
    {before part after : List (Exchange Service)}
    (published : Runs (publish scheme bucket content).outcome part (.ok address))
    (same : ∀ now later, after = now ++ later → ∀ x ∈ stored (before ++ part ++ now),
      ∀ y ∈ stored (before ++ part ++ now),
        (x.bucket, x.key) = (y.bucket, y.key) → x.content = y.content) :
    Placed answer objects scheme s bucket content address (before ++ part) after where
  address_eq := by
    have publishes := runs_publish published
    generalize calls part = cs at publishes
    cases publishes
    rfl
  only := by
    have publishes := runs_publish published
    generalize calls part = cs at publishes
    cases publishes
    exact fun bucket' key' plain there =>
      (uri_eq_uri_iff plain (slash_not_mem_contentKey content)).mp there
  stays := by
    intro now later mid split plays
    rw [stores.after plays, fresh]
    refine holding_of_mem (x := ⟨bucket, contentKey content, content⟩) ?_ (same now later split) _
    have here : stored part = [⟨bucket, contentKey content, content⟩] :=
      stored_of_publish published
    rw [stored, List.filterMap_append, List.filterMap_append, ← stored, ← stored, here]
    exact List.mem_append_left _ (List.mem_append_right _ (List.mem_singleton_self _))

/-- A publication that fails tells why, and leaves the objects as they are. -/
theorem failed_of_run (stores : Stores answer objects) {mid next : σ} {bucket : String}
    {content : Bytes} {e : Error} {part : List (Exchange Service)}
    (plays : answer.Plays mid part next)
    (published : Runs (publish scheme bucket content).outcome part (.error e)) :
    Failed objects mid next bucket content e (calls part) where
  told := by
    have publishes := runs_publish published
    generalize calls part = cs at publishes
    have tells (cause : Error) :
        (∃ why, cause = .publish why ∧ storeError (contentKey content) bucket cause = cause) ∨
          (∀ why, cause ≠ .publish why) ∧ storeError (contentKey content) bucket cause =
            .publish (.storeFailed (contentKey content) bucket cause.message) :=
      storeError_eq _ _ cause
    cases publishes with
    | bucketRefused cause => exact ⟨cause, .inl rfl, tells cause⟩
    | notStored cause => exact ⟨cause, .inr rfl, tells cause⟩
  unchanged := by
    have none : stored part = [] := stored_of_publish published
    rw [stores.after plays, none]
    rfl

end

/-- What publications have made of an empty store when they are done. -/
theorem contentAddressed_of_run {σ : Type} {answer : Handler Service σ}
    {objects : σ → String × String → Option Bytes} {scheme : String}
    {items : List (String × Bytes)} {s s' : σ} {tr : List (Exchange Service)}
    {results : List ((String × Bytes) × Except Error String)} (stores : Stores answer objects)
    (fresh : objects s = fun _ => none) (run : Runs (publishAll scheme items) tr results)
    (plays : answer.Plays s tr s')
    (distinct : ∀ x ∈ items, ∀ y ∈ items,
      Digest.sha512Hex x.2 = Digest.sha512Hex y.2 → x.2 = y.2) :
    ContentAddressed answer objects scheme s s' tr results where
  keyed := by
    intro before after mid split began bucket key content found
    rw [stores.after began, fresh] at found
    exact (of_mem_stored run split (mem_of_holding found)).1
  found_iff := found_iff_of_stored stores fresh plays run
    (content_eq_of_place run distinct (List.append_nil tr).symm)
  history_irrelevant := by
    intro t t' tr' items' results' fresh' run' plays' succeeded
    have same : ∀ x ∈ stored tr, ∀ y ∈ stored tr,
        (x.bucket, x.key) = (y.bucket, y.key) → x.content = y.content :=
      content_eq_of_place run distinct (List.append_nil tr).symm
    have stored_in {x : Stored} (mem : x ∈ stored tr') : x ∈ stored tr := by
      obtain ⟨key, published⟩ := of_mem_stored run' (List.append_nil tr').symm mem
      rw [stored_of_publishAll run]
      exact mem_storedFor.mpr ⟨key, (succeeded _).mp published⟩
    funext place
    refine Option.ext fun content => ?_
    rw [found_iff_of_stored stores fresh plays run same,
      found_iff_of_stored stores fresh' plays' run' fun x mem y mem' =>
        same x (stored_in mem) y (stored_in mem'), succeeded]
  each := by
    intro front bucket content result back split
    rw [split] at run
    obtain ⟨before, part, after, rfl, first, here, -⟩ := Settle.runs_attemptAll_at run
    obtain ⟨next, began, ended⟩ := Handler.plays_append.mp plays
    obtain ⟨mid, began, went⟩ := Handler.plays_append.mp began
    refine ⟨before, part, after, mid, next, rfl, first, here, began, went, ended, ?_⟩
    cases result with
    | error e => exact failed_of_run stores went here
    | ok address =>
      refine placed_of_run stores fresh here fun now later rest => ?_
      rw [rest, ← List.append_assoc] at run
      exact content_eq_of_place run distinct rfl

/-- Contents that are published one after the other into an empty store, whatever it answers,
all come to an end; and what the store holds then is what was published without an error,
each under its own key and no other, as long as the digest does not give one value for two of
the contents. -/
theorem publish_content_addressed {σ : Type} (answer : Handler Service σ)
    (objects : σ → String × String → Option Bytes) (stores : Stores answer objects)
    (scheme : String) (items : List (String × Bytes)) (s : σ)
    (fresh : objects s = fun _ => none)
    (distinct : ∀ x ∈ items, ∀ y ∈ items,
      Digest.sha512Hex x.2 = Digest.sha512Hex y.2 → x.2 = y.2) :
    ∃ results s' tr, (publishAll scheme items).run answer s = (some results, s') ∧
      results.map Prod.fst = items ∧ Runs (publishAll scheme items) tr results ∧
      answer.Plays s tr s' ∧ ContentAddressed answer objects scheme s s' tr results := by
  obtain ⟨results, s', ran⟩ := (uncut_attemptAll (fun item : String × Bytes =>
    Attempt.uncut_publish scheme item.1 item.2) items).run answer s
  obtain ⟨tr, run, plays⟩ := Prog.run_eq_some_iff.mp ran
  exact ⟨results, s', tr, ran, (Settle.runs_attemptAll.mp run).1, run, plays,
    contentAddressed_of_run stores fresh run plays distinct⟩

/-- A store that refuses one bucket and all bytes of no length. -/
def choosy : (op : Service.Op) → Service.Answer op
  | .inl (.ensureBucket bucket) =>
    if bucket = "closed" then Except.error (.config (.described "refused")) else Except.ok ()
  | .inl (.put bucket key content) =>
    if content = [] then Except.error (.publish (.storeFailed key bucket "no bytes"))
    else Except.ok ()
  | op => refusing "" op

set_option maxRecDepth 100000 in
/-- Of five publications, of which the second and the fourth fail and the last repeats the
first, the store comes to hold two objects. -/
theorem choosy_content_addressed : ∃ results s' tr,
    Runs (publishAll "s3" [("open", [1, 2, 3]), ("closed", [1, 2, 3]), ("open", [4]), ("open", []),
      ("open", [1, 2, 3])]) tr results ∧
    ContentAddressed (scripted choosy) Ledger.objects "s3" ⟨∅, fun _ => none, fun _ => none, 0⟩
      s' tr results ∧
    results.map (fun e => e.2.toOption.isSome) = [true, false, true, false, true] := by
  let items : List (String × Bytes) :=
    [("open", [1, 2, 3]), ("closed", [1, 2, 3]), ("open", [4]), ("open", []), ("open", [1, 2, 3])]
  let start : Ledger := ⟨∅, fun _ => none, fun _ => none, 0⟩
  have distinct : ∀ x ∈ items, ∀ y ∈ items,
      Digest.sha512Hex x.2 = Digest.sha512Hex y.2 → x.2 = y.2 := by decide +kernel
  obtain ⟨results, s', tr, ran, -, run, -, addressed⟩ := publish_content_addressed
    (scripted choosy) Ledger.objects (fun _ _ => rfl) "s3" items start rfl distinct
  have ends : ((publishAll "s3" items).run (scripted choosy) start).1.map
      (fun results => results.map fun e => e.2.toOption.isSome) =
        some [true, false, true, false, true] := by decide +kernel
  rw [ran] at ends
  exact ⟨results, s', tr, run, addressed, Option.some.inj ends⟩

end Publisher
end NodePools
