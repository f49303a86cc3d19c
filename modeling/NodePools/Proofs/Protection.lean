import Mathlib.Data.List.Induction
import NodePools.Proofs.Convergence

/-!
# Whether a stack is protected

A stack is created with a protection against its deletion, and to delete it the protection is
taken from it first.  An update says nothing of it.  So what protects a stack depends on all
that was done with it: a deletion that is broken off behind its first call leaves the stack
without protection, and nothing gives it back but to create the stack anew
(`protected_iff_not_brokenOff`).  In particular a stack may be applied without an error and
not be protected (`applied_unprotected`).

`Served` is what is known of the service: a stack can only be created where there is none, and
only where there is one is it told to be there already.
-/

namespace NodePools.Aws.Stacks

open Prog (Runs)

variable {τ : Type} {name : String}

/-! ## Operations on a stack -/

/-- What is to be done with a stack. -/
inductive Wish where
  | apply (region : Datum) (template : String) (tags : Fields Datum)
  | delete (region : Datum)

/-- What does it. -/
def Wish.action (name : String) : Wish → Action (Client τ) Unit
  | .apply region template tags => Stacks.apply region name template tags
  | .delete region => Stacks.delete region name

/-- An operation on the stack of a name: what was to be done, what was asked for it with the
answers, and how it ended. -/
structure Operation (τ : Type) (name : String) where
  wish : Wish
  trace : List (Exchange (Client τ))
  result : Except Error Unit
  ran : Runs (wish.action name).outcome trace result

/-- What operations tell of stacks. -/
def toldBy (operations : List (Operation τ name)) : List (StackEvent τ) :=
  operations.flatMap fun o => stackEvents o.trace

theorem toldBy_concat (operations : List (Operation τ name)) (last : Operation τ name) :
    toldBy (operations ++ [last]) = toldBy operations ++ stackEvents last.trace := by
  rw [toldBy, toldBy, List.flatMap_append, List.flatMap_singleton]

/-! ## The service -/

/-- How the service answers a call about a stack, and whether the stack is there before and
after the call.  What is refused has no effect, but a stack whose deletion was accepted may be
gone at once, or when its end is awaited. -/
inductive Serves : Bool → StackEvent τ → Bool → Prop
  | created (arguments : Fields Datum) (d : Datum) :
    Serves false (.call "create_stack" arguments (.ok d)) true
  | alreadyThere (arguments : Fields Datum) {e : ClientError} :
    e.codeText = "AlreadyExistsException" →
    Serves true (.call "create_stack" arguments (.error (.client e))) true
  | notCreated (present : Bool) (arguments : Fields Datum) {e : ClientError} :
    e.codeText ≠ "AlreadyExistsException" →
    Serves present (.call "create_stack" arguments (.error (.client e))) present
  | updated (arguments : Fields Datum) (d : Datum) :
    Serves true (.call "update_stack" arguments (.ok d)) true
  | protectionSet (arguments : Fields Datum) (d : Datum) :
    Serves true (.call "update_termination_protection" arguments (.ok d)) true
  | refused (present : Bool) {method : String} (arguments : Fields Datum) (e : ClientError) :
    method ∈ ["update_stack", "update_termination_protection", "delete_stack"] →
    Serves present (.call method arguments (.error (.client e))) present
  | deleted {present after : Bool} (arguments : Fields Datum) (d : Datum) :
    (after = true → present = true) → Serves present (.call "delete_stack" arguments (.ok d)) after
  | gone (present : Bool) (arguments : Fields Datum) (d : Datum) :
    Serves present (.call "wait" arguments (.ok d)) false
  | notGone {present after : Bool} (arguments : Fields Datum) (e : Error) :
    (after = true → present = true) → Serves present (.call "wait" arguments (.error e)) after

/-- How the service answers calls about a stack one after the other. -/
inductive Served : Bool → List (StackEvent τ) → Bool → Prop
  | nil (present : Bool) : Served present [] present
  | cons {before mid after : Bool} {e : StackEvent τ} {events : List (StackEvent τ)} :
    Serves before e mid → Served mid events after → Served before (e :: events) after

theorem served_append {before after : Bool} {first second : List (StackEvent τ)} :
    Served before (first ++ second) after ↔
      ∃ mid, Served before first mid ∧ Served mid second after := by
  induction first generalizing before with
  | nil =>
    constructor
    · intro h
      exact ⟨before, .nil before, h⟩
    · rintro ⟨mid, h, rest⟩
      cases h
      exact rest
  | cons e first ih =>
    constructor
    · intro h
      cases h with
      | cons here rest =>
        obtain ⟨mid, inside, later⟩ := ih.mp rest
        exact ⟨mid, .cons here inside, later⟩
    · rintro ⟨mid, h, later⟩
      cases h with
      | cons here inside => exact .cons here (ih.mpr ⟨mid, inside, later⟩)

/-! ## Protection -/

/-- What a call that is accepted sets the protection of a stack to. -/
def setting? : StackEvent τ → Option Bool
  | .call method arguments (.ok _) =>
    if method = "create_stack" ∨ method = "update_termination_protection" then
      match Fields.get? "EnableTerminationProtection" arguments with
      | some (.bool on) => some on
      | _ => none
    else none
  | _ => none

/-- What the last accepted call that sets it has set the protection of a stack to. -/
def protection (events : List (StackEvent τ)) : Option Bool :=
  (events.filterMap setting?).getLast?

theorem protection_append (first second : List (StackEvent τ)) :
    protection (first ++ second) = (protection second).or (protection first) := by
  rw [protection, List.filterMap_append, List.getLast?_append]
  rfl

section

variable (name template : String) (tags : Fields Datum) (d : Datum) (answer : Except Error Datum)

@[simp] theorem setting?_error (method : String) (arguments : Fields Datum) (e : Error) :
    setting? (.call method arguments (.error e) : StackEvent τ) = none := rfl

@[simp] theorem setting?_creating :
    setting? (creating name template tags (.ok d) : StackEvent τ) = some true := by
  simp [setting?, creating, document, Fields.get?]

@[simp] theorem setting?_updating :
    setting? (updating name template tags answer : StackEvent τ) = none := by
  cases answer with
  | error e => rfl
  | ok d => simp [setting?, updating]

@[simp] theorem setting?_unprotecting :
    setting? (unprotecting name (.ok d) : StackEvent τ) = some false := by
  simp [setting?, unprotecting, Fields.get?]

@[simp] theorem setting?_deleting : setting? (deleting name answer : StackEvent τ) = none := by
  cases answer with
  | error e => rfl
  | ok d => simp [setting?, deleting]

@[simp] theorem setting?_awaitingEnd :
    setting? (awaitingEnd name answer : StackEvent τ) = none := by
  cases answer with
  | error e => rfl
  | ok d => simp [setting?, awaitingEnd]

end

/-! ## What an operation does -/

/-- Among what is told, a stack is created. -/
def Creates (events : List (StackEvent τ)) : Prop :=
  ∃ arguments d, .call "create_stack" arguments (.ok d) ∈ events

/-- Among what is told, the protection is taken from a stack. -/
def Unprotects (name : String) (events : List (StackEvent τ)) : Prop :=
  ∃ d, unprotecting name (.ok d) ∈ events

/-- What is done in one operation: the stack is created with protection; or its protection is
taken from it, and it is gone unless the operation fails; or neither, and the stack does not
come to be there. -/
inductive Effect (name : String) (events : List (StackEvent τ)) (r : Except Error Unit)
    (before after : Bool) : Prop
  | creates : Creates events → ¬Unprotects name events → protection events = some true →
    Effect name events r before after
  | unprotects : ¬Creates events → Unprotects name events → (r = .ok () → after = false) →
    protection events = some false → Effect name events r before after
  | leaves : ¬Creates events → ¬Unprotects name events → (after = true → before = true) →
    protection events = none → Effect name events r before after

section

variable {template : String} {tags : Fields Datum} {events : List (StackEvent τ)}
  {r : Except Error Unit} {before after : Bool}

/-- A call that is refused does not make a stack. -/
theorem Serves.of_error {method : String} {arguments : Fields Datum} {e : Error}
    (serves : Serves before (.call method arguments (.error e) : StackEvent τ) after)
    (there : after = true) : before = true := by
  cases serves with
  | alreadyThere | notCreated | refused => exact there
  | notGone _ _ before => exact before there

/-- After a call that creates a stack it is there, if the call is accepted or the service says
that it is there already. -/
theorem Serves.of_creating {answer : Except Error Datum}
    (serves : Serves before (creating name template tags answer : StackEvent τ) after)
    (made : ∀ e, answer = .error e → ∃ e', e = .client e' ∧ e'.codeText = existsCode) :
    after = true := by
  generalize told : creating name template tags answer = event at serves
  cases serves with
  | created | alreadyThere => rfl
  | notCreated _ _ other =>
    cases told
    obtain ⟨e', same, code⟩ := made _ rfl
    cases same
    cases other code
  | refused _ _ _ mem =>
    cases told
    simp at mem
  | updated | protectionSet => rfl
  | deleted | gone | notGone => simp [creating] at told

theorem Serves.of_updating {answer : Except Error Datum}
    (serves : Serves true (updating name template tags answer : StackEvent τ) after) :
    after = true := by
  generalize told : updating name template tags answer = event at serves
  cases serves with
  | alreadyThere | notCreated | updated | protectionSet | refused => rfl
  | deleted | gone | notGone => simp [updating] at told

theorem Serves.of_awaitingEnd {d : Datum}
    (serves : Serves before (awaitingEnd name (.ok d) : StackEvent τ) after) : after = false := by
  generalize told : awaitingEnd name (.ok d) = event at serves
  cases serves with
  | gone => rfl
  | _ => simp [awaitingEnd] at told

theorem Applies.effect (applies : Applies name template tags events r)
    (served : Served before events after) : Effect name events r before after := by
  cases applies with
  | created answer other =>
    cases served with
    | cons here rest =>
    cases rest
    rcases answer with e | d
    · exact .leaves (by simp [Creates, creating]) (by simp [Unprotects, unprotecting, creating])
        here.of_error (by simp [protection, creating])
    · exact .creates ⟨_, d, List.mem_singleton_self _⟩
        (by simp [Unprotects, unprotecting, creating]) (by simp [protection])
  | updated e answer exist =>
    cases served with
    | cons here rest =>
    refine .leaves (by simp [Creates, creating, updating])
      (by simp [Unprotects, unprotecting, creating, updating]) (fun _ => ?_)
      (by simp [protection, creating])
    refine here.of_error (here.of_creating ?_)
    rintro - ⟨⟩
    exact ⟨e, rfl, exist⟩

/-- A stack that is applied without an error is there. -/
theorem Applies.there (applies : Applies name template tags events (.ok ()))
    (served : Served before events after) : after = true := by
  cases applies.upserts with
  | created d =>
    cases served with
    | cons here rest =>
    cases rest
    exact here.of_creating nofun
  | updated d exist | unchanged exist _ =>
    cases served with
    | cons here rest =>
    cases rest with
    | cons here' rest' =>
    cases rest'
    obtain rfl : _ = true := here.of_creating (by rintro - ⟨⟩; exact ⟨_, rfl, exist⟩)
    exact here'.of_updating

theorem Deletes.effect (deletes : Deletes name events r) (served : Served before events after) :
    Effect name events r before after := by
  cases deletes with
  | keptProtected e =>
    cases served with
    | cons here rest =>
    cases rest
    exact .leaves (by simp [Creates, unprotecting]) (by simp [Unprotects, unprotecting])
      here.of_error (by simp [protection, unprotecting])
  | refused d e =>
    exact .unprotects (by simp [Creates, unprotecting, deleting]) ⟨d, List.mem_cons_self ..⟩ nofun
      (by simp [protection])
  | awaited d d' answer =>
    refine .unprotects (by simp [Creates, unprotecting, deleting, awaitingEnd])
      ⟨d, List.mem_cons_self ..⟩ (fun ok => ?_) (by simp [protection])
    rcases answer with e | d''
    · cases ok
    cases served with
    | cons _ rest =>
    cases rest with
    | cons _ rest =>
    cases rest with
    | cons here rest =>
    cases rest
    exact here.of_awaitingEnd

end

/-! ## Sequences of operations -/

namespace Operation

variable {o : Operation τ name} {before after : Bool}

theorem effect (served : Served before (stackEvents o.trace) after) :
    Effect name (stackEvents o.trace) o.result before after := by
  have ran := o.ran
  cases wish : o.wish with
  | apply region template tags =>
    rw [wish] at ran
    exact (runs_apply ran).effect served
  | delete region =>
    rw [wish] at ran
    exact (runs_delete ran).effect served

/-- An operation fails when it has taken the protection from the stack. -/
def BreaksOff (o : Operation τ name) : Prop :=
  Unprotects name (stackEvents o.trace) ∧ ∃ e, o.result = .error e

end Operation

/-- A deletion was broken off, and since then the stack has not been created. -/
def BrokenOff (operations : List (Operation τ name)) : Prop :=
  ∃ earlier broken later, operations = earlier ++ broken :: later ∧ broken.BreaksOff ∧
    ∀ o ∈ later, ¬Creates (stackEvents o.trace)

variable {operations : List (Operation τ name)} {last : Operation τ name} {present : Bool}

theorem not_brokenOff_nil : ¬BrokenOff ([] : List (Operation τ name)) := by
  rintro ⟨earlier, broken, later, split, -⟩
  cases earlier <;> cases split

theorem brokenOff_concat : BrokenOff (operations ++ [last]) ↔
    last.BreaksOff ∨ BrokenOff operations ∧ ¬Creates (stackEvents last.trace) := by
  constructor
  · rintro ⟨earlier, broken, later, split, breaks, kept⟩
    rcases split_append split with ⟨later', rfl⟩ | ⟨earlier', rfl, rest⟩
    · obtain rfl : later' ++ [last] = later := by simpa using split
      exact .inr ⟨⟨earlier, broken, later', rfl, breaks, fun o mem =>
        kept o (List.mem_append_left _ mem)⟩, kept last (List.mem_append_right _ (.head _))⟩
    · cases earlier' with
      | nil =>
        obtain ⟨rfl, -⟩ := List.cons.inj rest
        exact .inl breaks
      | cons _ earlier' => cases earlier' <;> cases rest
  · rintro (breaks | ⟨⟨earlier, broken, later, rfl, breaks, kept⟩, silent⟩)
    · exact ⟨operations, last, [], rfl, breaks, nofun⟩
    · refine ⟨earlier, broken, later ++ [last], by simp, breaks, fun o mem => ?_⟩
      rcases List.mem_append.mp mem with mem | mem
      · exact kept o mem
      · obtain rfl := List.mem_singleton.mp mem
        exact silent

/-- What is known of the protection of a stack after operations: a deletion that was broken off
has left it without, and otherwise it is protected as long as it is there. -/
structure Tracked (operations : List (Operation τ name)) (present : Bool) : Prop where
  bare : BrokenOff operations → protection (toldBy operations) = some false
  guarded : present = true → protection (toldBy operations) = some true ∨ BrokenOff operations

theorem Tracked.step {after : Bool} (tracked : Tracked operations present)
    (served : Served present (stackEvents last.trace) after) :
    Tracked (operations ++ [last]) after := by
  have told := protection_append (toldBy operations) (stackEvents last.trace)
  rw [← toldBy_concat] at told
  cases last.effect served with
  | creates made kept on =>
    rw [on, Option.some_or] at told
    refine ⟨fun broken => ?_, fun _ => .inl told⟩
    rcases brokenOff_concat.mp broken with ⟨unprotects, -⟩ | ⟨-, silent⟩
    · exact absurd unprotects kept
    · exact absurd made silent
  | unprotects silent taken ended off =>
    rw [off, Option.some_or] at told
    refine ⟨fun _ => told, fun there => .inr (brokenOff_concat.mpr (.inl ⟨taken, ?_⟩))⟩
    cases result : last.result with
    | error e => exact ⟨e, rfl⟩
    | ok => cases there.symm.trans (ended result)
  | leaves silent kept stays none =>
    rw [none, Option.none_or] at told
    have same : BrokenOff (operations ++ [last]) ↔ BrokenOff operations := by
      rw [brokenOff_concat]
      constructor
      · rintro (⟨unprotects, -⟩ | ⟨broken, -⟩)
        · exact absurd unprotects kept
        · exact broken
      · intro broken
        exact .inr ⟨broken, silent⟩
    exact ⟨fun broken => told.trans (tracked.bare (same.mp broken)), fun there =>
      (tracked.guarded (stays there)).imp told.trans same.mpr⟩

theorem tracked (served : Served false (toldBy operations) present) :
    Tracked operations present := by
  induction operations using List.reverseRecOn generalizing present with
  | nil =>
    cases served
    exact ⟨fun broken => absurd broken not_brokenOff_nil, nofun⟩
  | append_singleton operations last ih =>
    rw [toldBy_concat] at served
    obtain ⟨mid, earlier, here⟩ := served_append.mp served
    exact (ih earlier).step here

/-- A stack that is applied without an error is protected if and only if no deletion was broken
off since it was created. -/
theorem protected_iff_not_brokenOff {region : Datum} {template : String} {tags : Fields Datum}
    (served : Served false (toldBy (operations ++ [last])) present)
    (wish : last.wish = .apply region template tags) (ok : last.result = .ok ()) :
    protection (toldBy (operations ++ [last])) = some true ↔ ¬BrokenOff (operations ++ [last]) := by
  have known := tracked served
  rw [toldBy_concat] at served
  obtain ⟨mid, -, here⟩ := served_append.mp served
  have ran := last.ran
  rw [wish, ok] at ran
  have there : present = true := (runs_apply ran).there here
  constructor
  · intro on broken
    cases on.symm.trans (known.bare broken)
  · intro kept
    exact (known.guarded there).resolve_right kept

/-! ## A stack that is applied and not protected -/

namespace Operation

/-- What the service says if a stack to be created is there already. -/
def thereAlready : ClientError := ⟨"CreateStack", some (.text existsCode), none, none⟩

/-- What the service says to a deletion that it puts off. -/
def putOff : ClientError := ⟨"DeleteStack", some (.text "Throttling"), none, none⟩

section

variable (name)

/-- A stack is created. -/
def creation : Operation Nat name where
  wish := .apply (.text "eu-central-1") "Resources: {}" []
  trace := [⟨.reuse service (.text "eu-central-1"), ()⟩,
    ⟨.call service "create_stack" (document name "Resources: {}" [] ++
      [("EnableTerminationProtection", .bool true)]), .ok (.table [])⟩,
    ⟨.log ⟨.info, none, s!"Creating stack {name}"⟩, ()⟩]
  result := .ok ()
  ran := by
    iterate 3 refine .ask _ ?_
    exact .done _

/-- A stack that is there is updated. -/
def change : Operation Nat name where
  wish := .apply (.text "eu-central-1") "Resources: {}" []
  trace := [⟨.reuse service (.text "eu-central-1"), ()⟩,
    ⟨.call service "create_stack" (document name "Resources: {}" [] ++
      [("EnableTerminationProtection", .bool true)]), .error (.client thereAlready)⟩,
    ⟨.call service "update_stack" (document name "Resources: {}" []), .ok (.table [])⟩,
    ⟨.log ⟨.info, none, s!"Updating stack {name}"⟩, ()⟩]
  result := .ok ()
  ran := by
    iterate 4 refine .ask _ ?_
    exact .done _

/-- A stack is to be deleted, and the call that deletes it is put off. -/
def brokenDeletion : Operation Nat name where
  wish := .delete (.text "eu-central-1")
  trace := [⟨.reuse service (.text "eu-central-1"), ()⟩,
    ⟨.call service "update_termination_protection"
      [("StackName", .text name), ("EnableTerminationProtection", .bool false)], .ok (.table [])⟩,
    ⟨.call service "delete_stack" [("StackName", .text name)], .error (.client putOff)⟩]
  result := .error (.stack .delete (.text name) putOff.detail)
  ran := by
    iterate 3 refine .ask _ ?_
    exact .done _

/-- A stack is deleted. -/
def deletion : Operation Nat name where
  wish := .delete (.text "eu-central-1")
  trace := [⟨.reuse service (.text "eu-central-1"), ()⟩,
    ⟨.call service "update_termination_protection"
      [("StackName", .text name), ("EnableTerminationProtection", .bool false)], .ok (.table [])⟩,
    ⟨.call service "delete_stack" [("StackName", .text name)], .ok (.table [])⟩,
    ⟨.log ⟨.info, none, s!"Deleting stack {name}"⟩, ()⟩,
    ⟨.waiter service "stack_delete_complete", ()⟩,
    ⟨.call service "wait" [("StackName", .text name), ("WaiterConfig", .table
      [("Delay", .whole deleteDelay), ("MaxAttempts", .whole deleteAttempts)])],
      .ok (.table [])⟩]
  result := .ok ()
  ran := by
    iterate 6 refine .ask _ ?_
    exact .done _

end

end Operation

open Operation

/-- A stack is created, its deletion is put off, and it is applied again without an error: it
is there, and not protected. -/
theorem applied_unprotected :
    Served false (toldBy [creation "nodepool-a-kube-1", brokenDeletion "nodepool-a-kube-1",
      change "nodepool-a-kube-1"]) true ∧
    (∃ region template tags, (change "nodepool-a-kube-1").wish = .apply region template tags) ∧
    (change "nodepool-a-kube-1").result = .ok () ∧
    protection (toldBy [creation "nodepool-a-kube-1", brokenDeletion "nodepool-a-kube-1",
      change "nodepool-a-kube-1"]) = some false := by
  refine ⟨.cons (.created _ _) (.cons (.protectionSet _ _) (.cons (.refused _ _ _ (by simp))
    (.cons (.alreadyThere _ rfl) (.cons (.updated _ _) (.nil _))))), ⟨_, _, _, rfl⟩, rfl, ?_⟩
  decide

/-- When the deletion is made up for, the stack that is created next is protected. -/
theorem created_anew_protected :
    Served false (toldBy ([creation "nodepool-a-kube-1", brokenDeletion "nodepool-a-kube-1",
      deletion "nodepool-a-kube-1"] ++ [creation "nodepool-a-kube-1"])) true ∧
    ¬BrokenOff ([creation "nodepool-a-kube-1", brokenDeletion "nodepool-a-kube-1",
      deletion "nodepool-a-kube-1"] ++ [creation "nodepool-a-kube-1"]) ∧
    protection (toldBy ([creation "nodepool-a-kube-1", brokenDeletion "nodepool-a-kube-1",
      deletion "nodepool-a-kube-1"] ++ [creation "nodepool-a-kube-1"])) = some true := by
  have served : Served false (toldBy ([creation "nodepool-a-kube-1",
      brokenDeletion "nodepool-a-kube-1", deletion "nodepool-a-kube-1"] ++
      [creation "nodepool-a-kube-1"])) true :=
    .cons (.created _ _) (.cons (.protectionSet _ _) (.cons (.refused _ _ _ (by simp))
      (.cons (.protectionSet _ _) (.cons (.deleted _ _ fun _ => rfl)
        (.cons (.gone true _ _) (.cons (.created _ _) (.nil _)))))))
  have kept : ¬BrokenOff ([creation "nodepool-a-kube-1", brokenDeletion "nodepool-a-kube-1",
      deletion "nodepool-a-kube-1"] ++ [creation "nodepool-a-kube-1"]) := by
    rw [brokenOff_concat]
    rintro (⟨-, e, failed⟩ | ⟨-, silent⟩)
    · cases failed
    · exact silent ⟨_, _, List.mem_singleton_self _⟩
  exact ⟨served, kept, (protected_iff_not_brokenOff served rfl rfl).mpr kept⟩

end NodePools.Aws.Stacks
