import Mathlib.Logic.Function.Basic
import NodePools.Proofs.Convergence
import NodePools.Proofs.Interleaving
import NodePools.Proofs.Interpretation

/-!
# Applied stacks as a map

A service that holds a document for each name can be asked to create a stack and to update
one, and answers in several ways to each: that the stack is there already, that nothing is to
be updated, or that it refuses for a reason of its own (`Handles`).  `apply` makes one
operation of the two calls.  Over every such service it is an upsert (`Upsert`): either the
document takes its place and all other names stay as they are, or an error names the stack
and all names stay as they are.

`AppliedAs` says this of one application with the calls it makes, and
`applyAll_refines_upsert` of any number of them, one after the other.
-/

namespace NodePools.Aws.Stacks

open Prog (Runs Uncut)

variable {τ σ κ : Type}

/-! ## The document in a call -/

/-- What a stack is asked to be. -/
structure Document where
  name : String
  template : String
  tags : Fields Datum

/-- The tag that an entry of a call gives. -/
def tagIn? : Datum → Option (String × Datum)
  | .table fields =>
    match Fields.get? "Key" fields, Fields.get? "Value" fields with
    | some (.text key), some value => some (key, value)
    | _, _ => none
  | _ => none

/-- The document that the arguments of a call give. -/
def documentIn? (arguments : Fields Datum) : Option Document :=
  match Fields.get? "StackName" arguments, Fields.get? "TemplateBody" arguments,
    Fields.get? "Tags" arguments with
  | some (.text name), some (.text template), some (.list entries) =>
    some ⟨name, template, entries.filterMap tagIn?⟩
  | _, _, _ => none

/-- The document with which a stack is applied can be read off the call, whatever else the call
says behind it. -/
theorem documentIn_document (d : Document) (more : Fields Datum) :
    documentIn? (document d.name d.template d.tags ++ more) = some d := by
  have entries : ((Tags.toEntries d.tags).map fun e : TagEntry Datum =>
      Datum.table [("Key", .text (e.key.getD "")), ("Value", e.value.getD .null)]).filterMap
        tagIn? = d.tags := by
    rw [Tags.toEntries, List.map_map, List.filterMap_map]
    exact List.filterMap_some
  show some (Document.mk d.name d.template _) = some d
  rw [entries]

theorem documentIn_document' (d : Document) :
    documentIn? (document d.name d.template d.tags) = some d := by
  rw [← List.append_nil (document ..)]
  exact documentIn_document d []

/-! ## A service that holds documents by name -/

section

variable (kept : String → Fields Datum → κ)

/-- What is held when a document has taken its place. -/
def upserted (held : String → Option κ) (d : Document) : String → Option κ :=
  Function.update held d.name (some (kept d.template d.tags))

/-- What the service may answer to the call that creates a stack, and what it holds afterwards.
Of a template and tags it holds what is `kept` of them. -/
inductive AnswersCreation (held : String → Option κ) (d : Document) :
    Except Error Datum → (String → Option κ) → Prop
  | accepted (answer : Datum) : held d.name = none →
    AnswersCreation held d (.ok answer) (upserted kept held d)
  | there {e : ClientError} : (held d.name).isSome → e.codeText = "AlreadyExistsException" →
    AnswersCreation held d (.error (.client e)) held
  | refused {e : ClientError} : e.codeText ≠ "AlreadyExistsException" →
    AnswersCreation held d (.error (.client e)) held

/-- What the service may answer to the call that updates a stack, and what it holds afterwards.
Two documents are the same to it if what is kept of them is. -/
inductive AnswersUpdate (held : String → Option κ) (d : Document) :
    Except Error Datum → (String → Option κ) → Prop
  | accepted (answer : Datum) {old : κ} : held d.name = some old → old ≠ kept d.template d.tags →
    AnswersUpdate held d (.ok answer) (upserted kept held d)
  | same {e : ClientError} : held d.name = some (kept d.template d.tags) →
    Says "No updates are to be performed" e.detail → AnswersUpdate held d (.error (.client e)) held
  | refused {e : ClientError} : Omits "No updates are to be performed" e.detail →
    AnswersUpdate held d (.error (.client e)) held

/-- A world in which the service of the stacks holds documents by name, and in which nothing but
calls to this service changes what it holds. -/
structure HoldsDocuments (answer : Handler (Client τ) σ) (held : σ → String → Option κ) :
    Prop where
  creates : ∀ arguments d s, documentIn? arguments = some d →
    let asked := answer (.call service "create_stack" arguments) s
    AnswersCreation kept (held s) d asked.1 (held asked.2)
  updates : ∀ arguments d s, documentIn? arguments = some d →
    let asked := answer (.call service "update_stack" arguments) s
    AnswersUpdate kept (held s) d asked.1 (held asked.2)
  keeps : ∀ op s, (∀ method arguments, op ≠ .call service method arguments) →
    held (answer op s).2 = held s

/-! ## One application -/

/-- To apply a document is to put it in its place, or to fail for its stack. -/
inductive Upsert (held : String → Option κ) (d : Document) :
    Except Error Unit → (String → Option κ) → Prop
  | applied : Upsert held d (.ok ()) (upserted kept held d)
  | refused (reason : Datum) : Upsert held d (.error (.stack .apply (.text d.name) reason)) held

/-- What an application makes of what is held, by which calls, and how it ends. -/
structure AppliedAs (d : Document) (held : String → Option κ) (events : List (StackEvent τ))
    (r : Except Error Unit) (held' : String → Option κ) : Prop where
  upsert : Upsert kept held d r held'
  /-- It ends well unless the service has refused one of the calls. -/
  ok_iff : r = .ok () ↔ ¬∃ e, Rejected events e
  /-- What is there already stays as it is. -/
  again : held d.name = some (kept d.template d.tags) → held' = held
  creates : ∃ answer later, events = creating d.name d.template d.tags answer :: later
  /-- An update comes only behind the call that would have created the stack, if that one told
  that the stack is there, and has its arguments but for the protection. -/
  updates : ∀ before arguments answer after,
    events = before ++ .call "update_stack" arguments answer :: after →
    documentIn? arguments = some d ∧ ∃ e, e.codeText = "AlreadyExistsException" ∧
      before = [.call "create_stack" (arguments ++ [("EnableTerminationProtection", .bool true)])
        (.error (.client e))]

end

section

variable {kept : String → Fields Datum → κ} {answer : Handler (Client τ) σ}
  {held : σ → String → Option κ} {s s' : σ} {tr : List (Exchange (Client τ))}

theorem upserted_of_held {before : String → Option κ} {d : Document}
    (there : before d.name = some (kept d.template d.tags)) : upserted kept before d = before := by
  rw [upserted, ← there, Function.update_eq_self]

/-- An exchange that tells of a call to the service is this call. -/
theorem exchange_of_event {e : Exchange (Client τ)} {method : String} {arguments : Fields Datum}
    {a : Except Error Datum} (told : stackEvent? e = some (.call method arguments a)) :
    e = ⟨.call service method arguments, a⟩ := by
  obtain ⟨op, b⟩ := e
  cases op with
  | call service' method' arguments' =>
    rw [stackEvent?] at told
    split at told
    next here =>
      cases told
      rw [here]
    · cases told
  | _ => cases told

namespace HoldsDocuments

/-- What tells of no call to the service changes nothing that is held. -/
theorem unchanged_of_event (holds : HoldsDocuments kept answer held) {op : ClientOp τ} {s : σ}
    (silent : stackEvent? ⟨op, (answer op s).1⟩ = none) : held (answer op s).2 = held s := by
  refine holds.keeps op s fun method arguments same => ?_
  subst same
  cases silent

theorem unchanged (holds : HoldsDocuments kept answer held) (plays : answer.Plays s tr s')
    (silent : stackEvents tr = []) : held s' = held s := by
  induction plays with
  | nil s => rfl
  | cons _ ih =>
    obtain ⟨here, later⟩ := List.forall_mem_cons.mp (List.filterMap_eq_nil_iff.mp silent)
    rw [ih (List.filterMap_eq_nil_iff.mpr later), holds.unchanged_of_event here]

/-- The first call to the service is answered from what was held when the trace began. -/
theorem first (holds : HoldsDocuments kept answer held) (plays : answer.Plays s tr s')
    {method : String} {arguments : Fields Datum} {a : Except Error Datum}
    {later : List (StackEvent τ)} (events : stackEvents tr = .call method arguments a :: later) :
    ∃ s₁ tr', held s₁ = held s ∧ a = (answer (.call service method arguments) s₁).1 ∧
      answer.Plays (answer (.call service method arguments) s₁).2 tr' s' ∧
      stackEvents tr' = later := by
  induction plays with
  | nil s => cases events
  | @cons s s' op tr plays ih =>
    cases of_op : stackEvent? ⟨op, (answer op s).1⟩ with
    | none =>
      rw [stackEvents, List.filterMap_cons_none of_op] at events
      rw [← holds.unchanged_of_event of_op]
      exact ih events
    | some event =>
      rw [stackEvents, List.filterMap_cons_some of_op] at events
      obtain ⟨rfl, rfl⟩ := List.cons.inj events
      obtain ⟨rfl, answered⟩ := Exchange.mk.inj (exchange_of_event of_op)
      exact ⟨s, tr, rfl, (eq_of_heq answered).symm, plays, rfl⟩

variable {a : Except Error Datum} {later : List (StackEvent τ)} {d : Document}

theorem first_creating (holds : HoldsDocuments kept answer held) (plays : answer.Plays s tr s')
    (events : stackEvents tr = creating d.name d.template d.tags a :: later) :
    ∃ mid tr', AnswersCreation kept (held s) d a (held mid) ∧ answer.Plays mid tr' s' ∧
      stackEvents tr' = later := by
  obtain ⟨s₁, tr', same, rfl, plays, rest⟩ := holds.first plays events
  rw [← same]
  exact ⟨_, tr', holds.creates _ d s₁ (documentIn_document d _), plays, rest⟩

theorem first_updating (holds : HoldsDocuments kept answer held) (plays : answer.Plays s tr s')
    (events : stackEvents tr = updating d.name d.template d.tags a :: later) :
    ∃ mid tr', AnswersUpdate kept (held s) d a (held mid) ∧ answer.Plays mid tr' s' ∧
      stackEvents tr' = later := by
  obtain ⟨s₁, tr', same, rfl, plays, rest⟩ := holds.first plays events
  rw [← same]
  exact ⟨_, tr', holds.updates _ d s₁ (documentIn_document' d), plays, rest⟩

end HoldsDocuments

theorem mentions_of_says {needle : String} {d : Datum} (h : Says needle d) :
    mentions needle d = .ok true := by
  cases h with
  | part found => exact congrArg Except.ok (Text.occursIn_iff.mpr found)
  | item mem same => exact congrArg Except.ok (List.any_eq_true.mpr ⟨_, mem, same⟩)
  | key found => exact congrArg Except.ok found

variable {d : Document} {r : Except Error Unit}

/-- A call that creates a stack changes nothing unless it is accepted. -/
theorem AnswersCreation.unchanged {before after : String → Option κ} {e : Error}
    (h : AnswersCreation kept before d (.error e) after) : after = before := by
  cases h with
  | there | refused => rfl

/-- Over a service that holds documents by name an application is an upsert, and fails only if
one of its calls is refused. -/
theorem HoldsDocuments.upsert (holds : HoldsDocuments kept answer held) {region : Datum}
    (run : Runs (apply region d.name d.template d.tags : Action (Client τ) Unit).outcome tr r)
    (plays : answer.Plays s tr s') :
    Upsert kept (held s) d r (held s') ∧ (r = .ok () ∨ ∃ e, Rejected (stackEvents tr) e) := by
  have applies := runs_apply run
  generalize events : stackEvents tr = es at applies
  cases applies with
  | created a other =>
    obtain ⟨mid, rest, creates, plays, silent⟩ := holds.first_creating plays events
    rw [holds.unchanged plays silent]
    generalize held mid = after at creates
    cases creates with
    | accepted v absent => exact ⟨.applied, .inl rfl⟩
    | there present code => exact absurd code (other _ rfl)
    | refused code => exact ⟨.refused _, .inr ⟨_, .creation (List.mem_singleton_self _) code⟩⟩
  | updated e a there =>
    obtain ⟨mid, rest, creates, plays, events⟩ := holds.first_creating plays events
    obtain ⟨mid', rest', updates, plays, silent⟩ := holds.first_updating plays events
    rw [holds.unchanged plays silent]
    rw [creates.unchanged] at updates
    generalize held mid' = after at updates
    cases updates with
    | accepted v => exact ⟨.applied, .inl rfl⟩
    | same present said =>
      rw [Stacks.updated, show mentions noUpdates _ = .ok true from mentions_of_says said]
      have stays : Upsert kept (held s) d (.ok ()) (upserted kept (held s) d) := .applied
      rw [upserted_of_held present] at stays
      exact ⟨stays, .inl rfl⟩
    | refused omits =>
      rw [Stacks.updated, show mentions noUpdates _ = .ok false from mentions_of_omits omits]
      exact ⟨.refused _, .inr ⟨_, .update (List.mem_cons_of_mem _ List.mem_cons_self) omits⟩⟩

theorem Applies.creates {name template : String} {tags : Fields Datum}
    {events : List (StackEvent τ)} (applies : Applies name template tags events r) :
    ∃ a later, events = creating name template tags a :: later := by
  cases applies with
  | created a _ => exact ⟨a, [], rfl⟩
  | updated e a _ => exact ⟨_, _, rfl⟩

/-- A call that updates a stack has the document of the call before it, which told that the stack
is there. -/
theorem Applies.updates {name template : String} {tags arguments : Fields Datum}
    {before events after : List (StackEvent τ)} {a : Except Error Datum}
    (applies : Applies name template tags events r)
    (split : events = before ++ .call "update_stack" arguments a :: after) :
    arguments = document name template tags ∧ ∃ e, e.codeText = "AlreadyExistsException" ∧
      before = [creating name template tags (.error (.client e))] := by
  cases applies with
  | created b _ =>
    cases before with
    | nil => exact absurd (StackEvent.call.inj (List.cons.inj split).1).1 (by decide)
    | cons _ before => exact absurd (List.cons.inj split).2.symm (by simp)
  | updated e b there =>
    cases before with
    | nil => exact absurd (StackEvent.call.inj (List.cons.inj split).1).1 (by decide)
    | cons _ before =>
      obtain ⟨rfl, rest⟩ := List.cons.inj split
      cases before with
      | nil => exact ⟨(StackEvent.call.inj (List.cons.inj rest).1).2.1.symm, e, there, rfl⟩
      | cons _ before => exact absurd (List.cons.inj rest).2.symm (by simp)

/-- What is held already stays as it is when it is applied. -/
theorem Upsert.unchanged {before after : String → Option κ} (upsert : Upsert kept before d r after)
    (there : before d.name = some (kept d.template d.tags)) : after = before := by
  cases upsert with
  | applied => exact upserted_of_held there
  | refused reason => rfl

/-- An application over a service that holds documents by name. -/
theorem HoldsDocuments.appliedAs (holds : HoldsDocuments kept answer held) {region : Datum}
    (run : Runs (apply region d.name d.template d.tags : Action (Client τ) Unit).outcome tr r)
    (plays : answer.Plays s tr s') :
    AppliedAs kept d (held s) (stackEvents tr) r (held s') where
  upsert := (holds.upsert run plays).1
  ok_iff := by
    constructor
    · rintro rfl ⟨e, rejected⟩
      cases (runs_apply run).rejected rejected
    · exact (holds.upsert run plays).2.resolve_right
  again := (holds.upsert run plays).1.unchanged
  creates := (runs_apply run).creates
  updates := by
    intro before arguments a after split
    obtain ⟨rfl, e, there, rfl⟩ := (runs_apply run).updates split
    exact ⟨documentIn_document' d, e, there, rfl⟩

end

/-! ## Any number of applications -/

/-- Applies documents one after the other, whatever comes of each. -/
def applyAll (region : Datum) (ds : List Document) :
    Prog (Client τ) (List (Document × Except Error Unit)) :=
  Settle.attemptAll (fun d => (apply region d.name d.template d.tags).outcome) ds

/-- What is held after an application with a result. -/
def settled (kept : String → Fields Datum → κ) (held : String → Option κ) :
    Document × Except Error Unit → String → Option κ
  | (d, .ok ()) => upserted kept held d
  | (_, .error _) => held

theorem Upsert.settled_eq {kept : String → Fields Datum → κ} {before after : String → Option κ}
    {d : Document} {r : Except Error Unit} (upsert : Upsert kept before d r after) :
    settled kept before (d, r) = after := by
  cases upsert <;> rfl

theorem uncut_apply (region : Datum) (name template : String) (tags : Fields Datum) :
    Uncut (apply region name template tags : Action (Client τ) Unit).outcome := by
  refine Action.uncut_bind (Client.uncut_ask _) fun _ =>
    Action.uncut_bind (Client.uncut_ask _) fun answer => ?_
  split
  · exact Client.uncut_ask _
  · split
    · refine Action.uncut_bind (Client.uncut_ask _) fun answer => ?_
      split
      · exact Client.uncut_ask _
      · refine Action.uncut_bind (.done _) fun said => ?_
        split
        · exact Client.uncut_ask _
        · exact .done _
      · exact .done _
    · exact .done _
  · exact .done _

/-- What is held after applications one after the other is what those of them made of it that
ended well. -/
theorem HoldsDocuments.held_of_applyAll {kept : String → Fields Datum → κ}
    {answer : Handler (Client τ) σ} {held : σ → String → Option κ}
    (holds : HoldsDocuments kept answer held) {region : Datum} {ds : List Document} {s s' : σ}
    {tr : List (Exchange (Client τ))} {results : List (Document × Except Error Unit)}
    (run : Runs (applyAll region ds) tr results) (plays : answer.Plays s tr s') :
    held s' = results.foldl (settled kept) (held s) := by
  have parts := (Settle.runs_attemptAll.mp run).2
  clear run
  induction parts generalizing s with
  | nil =>
    cases plays
    rfl
  | cons part _ ih =>
    obtain ⟨mid, first, later⟩ := Handler.plays_append.mp plays
    rw [List.foldl_cons, (holds.upsert part first).1.settled_eq]
    exact ih later

/-- Over every service that holds documents by name, and may refuse any call without a change,
documents that are applied one after the other come to an end, each as an upsert: what is held
in the end is what was held in the beginning with the documents in their places whose
application ended well. -/
theorem applyAll_refines_upsert (kept : String → Fields Datum → κ) (answer : Handler (Client τ) σ)
    (held : σ → String → Option κ) (holds : HoldsDocuments kept answer held) (region : Datum)
    (ds : List Document) (s : σ) :
    ∃ results s', (applyAll region ds).run answer s = (some results, s') ∧
      results.map Prod.fst = ds ∧ held s' = results.foldl (settled kept) (held s) ∧
      ∀ front d r back, results = front ++ (d, r) :: back →
        ∃ before part after mid next, answer.Plays s before mid ∧ answer.Plays mid part next ∧
          answer.Plays next after s' ∧
          Runs (applyAll region (front.map Prod.fst)) before front ∧
          Runs (apply region d.name d.template d.tags).outcome part r ∧
          Runs (applyAll region (back.map Prod.fst)) after back ∧
          AppliedAs kept d (held mid) (stackEvents part) r (held next) := by
  obtain ⟨results, s', ran⟩ := (uncut_attemptAll (fun d : Document =>
    uncut_apply (τ := τ) region d.name d.template d.tags) ds).run answer s
  obtain ⟨tr, run, plays⟩ := Prog.run_eq_some_iff.mp ran
  refine ⟨results, s', ran, (Settle.runs_attemptAll.mp run).1, holds.held_of_applyAll run plays, ?_⟩
  rintro front d r back rfl
  obtain ⟨before, part, after, rfl, first, here, later⟩ := Settle.runs_attemptAll_at run
  obtain ⟨next, began, ended⟩ := Handler.plays_append.mp plays
  obtain ⟨mid, began, went⟩ := Handler.plays_append.mp began
  exact ⟨before, part, after, mid, next, began, went, ended, first, here, later,
    holds.appliedAs here went⟩

/-! ## A service with two kinds of refusals -/

/-- A template and tags, with the values of these as texts. -/
def asTexts (template : String) (tags : Fields Datum) : String × Fields String :=
  (template, tags.mapValues Datum.plain)

/-- What a service answers to the call that creates a stack, if it takes no empty template. -/
def onCreate (held : String → Option (String × Fields String)) (d : Document) :
    Except Error Datum × (String → Option (String × Fields String)) :=
  if (held d.name).isSome then (refusal "AlreadyExistsException" "it is there", held)
  else if d.template = "" then (refusal "ValidationError" "the template is empty", held)
  else (.ok .null, upserted asTexts held d)

/-- What it answers to the call that updates a stack. -/
def onUpdate (held : String → Option (String × Fields String)) (d : Document) :
    Except Error Datum × (String → Option (String × Fields String)) :=
  match held d.name with
  | none => (refusal "ValidationError" "it is not there", held)
  | some old =>
    if old = asTexts d.template d.tags then
      (refusal "ValidationError" "No updates are to be performed.", held)
    else if d.template = "" then (refusal "ValidationError" "the template is empty", held)
    else (.ok .null, upserted asTexts held d)

/-- A world that is such a service and nothing else. -/
def documents : Handler (Client Number) (String → Option (String × Fields String))
  | .call service method arguments, held =>
    if service = Stacks.service then
      match documentIn? arguments with
      | some d =>
        if method = "create_stack" then onCreate held d
        else if method = "update_stack" then onUpdate held d
        else (Except.ok .null, held)
      | none => (Except.ok .null, held)
    else (Except.ok .null, held)
  | .page .., held => (Except.ok none, held)
  | .now, held => (.whole 0, held)
  | .connect .., held | .reuse .., held | .paginate .., held | .waiter .., held | .sleep _, held
  | .log _, held => ((), held)

theorem onCreate_answers (held : String → Option (String × Fields String)) (d : Document) :
    AnswersCreation asTexts held d (onCreate held d).1 (onCreate held d).2 := by
  unfold onCreate
  split
  next there => exact .there there rfl
  next absent =>
    split
    · exact .refused (by decide)
    · exact .accepted _ (Option.not_isSome_iff_eq_none.mp absent)

theorem onUpdate_answers (held : String → Option (String × Fields String)) (d : Document) :
    AnswersUpdate asTexts held d (onUpdate held d).1 (onUpdate held d).2 := by
  have omits {message : String}
      (h : Text.occursIn "No updates are to be performed".toList message.toList = false) :
      Omits "No updates are to be performed" (.text message) :=
    .part fun found => Bool.false_ne_true (h.symm.trans (Text.occursIn_iff.mpr found))
  unfold onUpdate
  split
  · exact .refused (omits (by decide))
  next old present =>
    split
    next same =>
      exact .same (present.trans (congrArg some same)) (.part ⟨[], ['.'], by decide⟩)
    next other =>
      split
      · exact .refused (omits (by decide))
      · exact .accepted _ present other

theorem holdsDocuments_documents : HoldsDocuments asTexts documents id where
  creates := by
    intro arguments d s about
    simp only [documents, if_true, about, id]
    exact onCreate_answers s d
  updates := by
    intro arguments d s about
    simp only [documents, if_true, about, id]
    exact onUpdate_answers s d
  keeps := by
    intro op s other
    cases op with
    | call service' method arguments =>
      have : service' ≠ service := fun same => other method arguments (same ▸ rfl)
      simp only [documents, if_neg this, id]
    | _ => rfl

/-- Six documents for three stacks. -/
def sixDocuments : List Document :=
  [⟨"a", "v1", []⟩, ⟨"a", "v1", []⟩, ⟨"b", "", []⟩, ⟨"a", "", []⟩,
    ⟨"c", "v1", [("k", .text "v")]⟩, ⟨"a", "v2", []⟩]

/-- Of the six documents the second is there already, the third and the fourth are refused when
their stack is to be created and to be updated, and the last one takes the place of the first. -/
theorem applyAll_sixDocuments : ∃ results s',
    (applyAll (.text "eu-central-1") sixDocuments).run documents (fun _ => none) =
      (some results, s') ∧
    results.map (fun e => e.2.toOption.isSome) = [true, true, false, false, true, true] ∧
    s' = results.foldl (settled asTexts) (fun _ => none) ∧
    ["a", "b", "c"].map s' = [some ("v2", []), none, some ("v1", [("k", "v")])] := by
  obtain ⟨results, s', ran, -, folded, -⟩ := applyAll_refines_upsert asTexts documents id
    holdsDocuments_documents (.text "eu-central-1") sixDocuments (fun _ => none)
  have ends : ((applyAll (.text "eu-central-1") sixDocuments).run documents fun _ => none).1.map
      (fun results => results.map fun e => e.2.toOption.isSome) =
        some [true, true, false, false, true, true] := by decide +kernel
  have held : ["a", "b", "c"].map
      ((applyAll (.text "eu-central-1") sixDocuments).run documents fun _ => none).2 =
        [some ("v2", []), none, some ("v1", [("k", "v")])] := by decide +kernel
  rw [ran] at ends held
  exact ⟨results, s', ran, Option.some.inj ends, folded, held⟩

end NodePools.Aws.Stacks
