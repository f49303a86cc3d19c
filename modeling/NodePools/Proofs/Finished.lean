import Mathlib.Data.List.Infix
import NodePools.Proofs.Attempt

/-!
# What an attempt leaves behind

An attempt that has come to its end has passed the first steps and no others
(`Goes.passed_prefix`); before a call that only one step makes, the steps in
front of that one have been passed (`Goes.upTo`).  The converter gave it at most
one payload, it stored at most one object, which is that payload under the key
made from it, and it applied at most one stack, with the document that it
rendered.

The last three are cases of one statement: what a step gives stands in the calls of an
attempt once if the attempt passed the step, and else not at all (`Gives.once`).
-/

namespace NodePools.Attempt

/-- An attempt that has come to its end. -/
structure Finished (p : Provisioner) (values : Values) where
  pool : NodePool
  passed : List Step
  calls : List (Exchange Service)
  last : Progress
  failure : Option Error
  goes : Goes p values pool Step.all .start passed calls last failure

section

variable {p : Provisioner} {values : Values} {pool : NodePool} {step : Step}
  {steps passed : List Step} {g g' last : Progress} {cs : List (Exchange Service)}
  {failure : Option Error}

/-- A step that ends well changes at most what it is for. -/
structure Unchanged (step : Step) (g g' : Progress) : Prop where
  price : step ≠ .price → g'.price = g.price
  rendered : step ≠ .userData → g'.rendered = g.rendered
  payload : step ≠ .convert → g'.payload = g.payload
  document : step ≠ .document → g'.document = g.document
  status : step ≠ .wait → g'.status = g.status

theorem Takes.unchanged (takes : Takes p values pool step g cs (.ok g')) :
    Unchanged step g g' := by
  generalize told : Except.ok g' = r at takes
  cases takes with
  | unpriced =>
    cases told
    constructor <;> simp
  | bucketRefused | unknownStrategy => cases told
  | priced _ answer =>
    rcases answer with e | info
    · cases told
    · simp only [bind, Except.bind] at told
      split at told <;> cases told
      constructor <;> simp
  | userData | document =>
    simp only [bind, Except.bind] at told
    split at told <;> cases told
    constructor <;> simp
  | convert _ answer | publish _ answer | apply _ answer | wait _ answer =>
    cases answer <;> cases told
    constructor <;> simp

/-- The steps passed come first among the steps, and all are passed if none fails. -/
theorem Goes.passed_prefix (goes : Goes p values pool steps g passed cs last failure) :
    (failure = none ∧ passed = steps) ∨
      ∃ e step later, failure = some e ∧ steps = passed ++ step :: later := by
  induction goes with
  | arrived g => exact .inl ⟨rfl, rfl⟩
  | stopped _ => exact .inr ⟨_, _, _, rfl, rfl⟩
  | passed _ _ ih =>
    rcases ih with ⟨rfl, rfl⟩ | ⟨e, step, later, rfl, rfl⟩
    · exact .inl ⟨rfl, rfl⟩
    · exact .inr ⟨e, step, later, rfl, rfl⟩

/-- Steps in two parts either come to their end in the first part, with a failure, or go
through all of it and then through the second part. -/
theorem Goes.split {before after : List Step}
    (goes : Goes p values pool (before ++ after) g passed cs last failure) :
    (∃ e, failure = some e ∧ Goes p values pool before g passed cs last failure) ∨
      ∃ mid later cs₁ cs₂, cs = cs₁ ++ cs₂ ∧ Goes p values pool before g before cs₁ mid none ∧
        Goes p values pool after mid later cs₂ last failure := by
  induction before generalizing g passed cs with
  | nil => exact .inr ⟨g, passed, [], cs, rfl, .arrived g, goes⟩
  | cons step before ih =>
    cases goes with
    | stopped takes => exact .inl ⟨_, rfl, .stopped takes⟩
    | passed takes rest =>
      rcases ih rest with ⟨e, failed, first⟩ | ⟨mid, later, cs₁, cs₂, rfl, first, second⟩
      · exact .inl ⟨e, failed, .passed takes first⟩
      · exact .inr ⟨mid, later, _, cs₂, (List.append_assoc ..).symm, .passed takes first, second⟩

/-- Every call is one that a step makes. -/
theorem Goes.of_mem (goes : Goes p values pool steps g passed cs last failure)
    {e : Exchange Service} (mem : e ∈ cs) :
    ∃ step ∈ steps, ∃ g cs r, Takes p values pool step g cs r ∧ e ∈ cs := by
  induction goes with
  | arrived g => cases mem
  | stopped takes => exact ⟨_, List.mem_cons_self, _, _, _, takes, mem⟩
  | passed takes _ ih =>
    rcases List.mem_append.mp mem with mem | mem
    · exact ⟨_, List.mem_cons_self, _, _, _, takes, mem⟩
    · obtain ⟨step, inside, found⟩ := ih mem
      exact ⟨step, List.mem_cons_of_mem _ inside, found⟩

/-- A stack is applied in one step, and nothing else is asked in this step. -/
theorem Takes.of_apply {name document : String} {tags : Tags} {answer : Except Error Unit}
    (takes : Takes p values pool step g cs r)
    (mem : .cloud (.apply name document tags) answer ∈ cs) :
    step = .apply ∧ name = stackName p.cluster pool ∧ document = g.document ∧
      tags = Tags.encode p.cluster.id pool ∧ cs = [.cloud (.apply name document tags) answer] := by
  cases takes with
  | unpriced | unknownStrategy | userData | document => cases mem
  | priced | convert | bucketRefused | wait => cases List.mem_singleton.mp mem
  | publish =>
    rcases List.mem_cons.mp mem with mem | mem
    · cases mem
    · cases List.mem_singleton.mp mem
  | apply =>
    cases List.mem_singleton.mp mem
    exact ⟨rfl, rfl, rfl, rfl, rfl⟩

/-- Before a call that is made in one step only, the steps in front of that one have been
passed. -/
theorem Goes.upTo {before after : List Step} {here : Step} {e : Exchange Service}
    {front back : List (Exchange Service)}
    (only : ∀ {step g cs r}, Takes p values pool step g cs r → e ∈ cs → step = here)
    (goes : Goes p values pool (before ++ here :: after) g passed (front ++ e :: back) last failure)
    (first : here ∉ before) (once : here ∉ after) :
    ∃ mid asked now rest cs r, front = asked ++ now ∧ cs = now ++ e :: rest ∧
      Goes p values pool before g before asked mid none ∧ Takes p values pool here mid cs r := by
  have not_in {steps passed : List Step} {g last : Progress} {cs : List (Exchange Service)}
      {failure : Option Error} (others : here ∉ steps)
      (goes : Goes p values pool steps g passed cs last failure) : e ∉ cs := by
    intro mem
    obtain ⟨step, inside, _, _, _, takes, found⟩ := goes.of_mem mem
    exact others (only takes found ▸ inside)
  have inside (front back : List (Exchange Service)) : e ∈ front ++ e :: back :=
    List.mem_append_right _ List.mem_cons_self
  rcases goes.split with ⟨_, _, stopped⟩ | ⟨mid, later, asked, cs₂, whole, begun, goes⟩
  · exact absurd (inside ..) (not_in first stopped)
  rcases split_append whole.symm with ⟨_, rfl⟩ | ⟨now, rfl, rfl⟩
  · exact absurd (inside ..) (not_in first begun)
  generalize of_cs : now ++ e :: back = cs₂ at goes
  cases goes with
  | stopped takes => exact ⟨_, asked, now, back, _, _, rfl, of_cs.symm, begun, takes⟩
  | passed takes goes =>
    rcases split_append of_cs.symm with ⟨rest, rfl⟩ | ⟨_, _, rfl⟩
    · exact ⟨_, asked, now, rest, _, _, rfl, rfl, begun, takes⟩
    · exact absurd (inside ..) (not_in once goes)

/-! ## What one step gives -/

/-- What one step gives: it is read off the calls of that step, if the step ends well,
and off no other calls. -/
def Gives (p : Provisioner) (values : Values) (pool : NodePool) {α : Type} (here : Step)
    (read : Exchange Service → Option α) (given : Progress → α) : Prop :=
  ∀ step g cs r, Takes p values pool step g cs r → cs.filterMap read =
    if step = here then
      match r with
      | .ok g' => [given g']
      | .error _ => []
    else []

section

variable {α : Type} {here : Step} {read : Exchange Service → Option α} {given : Progress → α}

theorem Gives.other (gives : Gives p values pool here read given) {r : Except Error Progress}
    (other : step ≠ here) (takes : Takes p values pool step g cs r) : cs.filterMap read = [] := by
  rw [gives _ _ _ _ takes, if_neg other]

theorem Gives.nowhere (gives : Gives p values pool here read given)
    (goes : Goes p values pool steps g passed cs last failure) (others : here ∉ steps) :
    cs.filterMap read = [] := by
  induction goes with
  | arrived g => rfl
  | stopped takes => exact gives.other (fun same => others (same ▸ List.mem_cons_self)) takes
  | passed takes _ ih =>
    have none := gives.other (fun same => others (same ▸ List.mem_cons_self)) takes
    rw [List.filterMap_append, none, ih fun mem => others (List.mem_cons_of_mem _ mem),
      List.append_nil]

theorem Goes.unchanged (goes : Goes p values pool steps g passed cs last failure)
    (kept : ∀ step ∈ steps, ∀ g cs g', Takes p values pool step g cs (.ok g') →
      given g' = given g) : given last = given g := by
  induction goes with
  | arrived g => rfl
  | stopped takes => rfl
  | passed takes _ ih =>
    rw [ih fun step mem => kept step (List.mem_cons_of_mem _ mem)]
    exact kept _ List.mem_cons_self _ _ _ takes

/-- Of steps among which one gives something that later ones leave as it is, that is read
off the calls once if the step is passed, as it stands in the end, and else not at all. -/
theorem Gives.once (gives : Gives p values pool here read given) {before after : List Step}
    (goes : Goes p values pool (before ++ here :: after) g passed cs last failure)
    (first : here ∉ before) (once : here ∉ after)
    (kept : ∀ step ∈ after, ∀ g cs g', Takes p values pool step g cs (.ok g') →
      given g' = given g) :
    cs.filterMap read = if here ∈ passed then [given last] else [] := by
  induction before generalizing g passed cs with
  | nil =>
    cases goes with
    | stopped takes => rw [gives _ _ _ _ takes, if_pos rfl, if_neg List.not_mem_nil]
    | passed takes rest =>
      rw [List.filterMap_append, gives _ _ _ _ takes, if_pos rfl, gives.nowhere rest once,
        rest.unchanged kept, if_pos List.mem_cons_self, List.append_nil]
  | cons step before ih =>
    have other : step ≠ here := fun same => first (same ▸ List.mem_cons_self)
    cases goes with
    | stopped takes => rw [gives.other other takes, if_neg List.not_mem_nil]
    | passed takes rest =>
      rw [List.filterMap_append, gives.other other takes, List.nil_append,
        ih rest fun mem => first (List.mem_cons_of_mem _ mem)]
      simp only [List.mem_cons, Ne.symm other, false_or]

end

/-! ## The stacks that attempts apply -/

/-- A stack as it was applied. -/
structure Applied where
  name : String
  document : String
  tags : Tags
deriving Repr, DecidableEq

/-- The stack that an exchange applied without an error. -/
def appliedBy? : Exchange Service → Option Applied
  | ⟨.inl (.apply name document tags), .ok ()⟩ => some ⟨name, document, tags⟩
  | _ => none

/-- The stacks that were applied without an error, in the order of the trace. -/
def applied (tr : List (Exchange Service)) : List Applied := tr.filterMap appliedBy?

@[simp] theorem applied_nil : applied [] = [] := rfl

@[simp] theorem applied_append (tr₁ tr₂ : List (Exchange Service)) :
    applied (tr₁ ++ tr₂) = applied tr₁ ++ applied tr₂ :=
  List.filterMap_append ..

/-- Log records apply nothing. -/
theorem applied_calls (tr : List (Exchange Service)) : applied (calls tr) = applied tr :=
  filterMap_calls (fun _ _ => rfl) tr

/-- The stack that a document gives a pool. -/
def stackOf (p : Provisioner) (pool : NodePool) (document : String) : Applied :=
  ⟨stackName p.cluster pool, document, Tags.encode p.cluster.id pool⟩

theorem gives_applied (p : Provisioner) (values : Values) (pool : NodePool) :
    Gives p values pool .apply appliedBy? fun g => stackOf p pool g.document := by
  intro step g cs r takes
  cases takes with
  | apply _ answer => cases answer <;> rfl
  | _ => rfl

/-- What an attempt gives. -/
def Finished.result (a : Finished p values) : Except Error String := conclusion a.last a.failure

/-- The stack that an attempt applied, if it came so far. -/
def Finished.applied? (a : Finished p values) : Option Applied :=
  if .apply ∈ a.passed then some (stackOf p a.pool a.last.document) else none

theorem Finished.of_applied? {a : Finished p values} {x : Applied} (h : a.applied? = some x) :
    x = stackOf p a.pool a.last.document := by
  unfold Finished.applied? at h
  split at h
  · exact (Option.some.inj h).symm
  · cases h

theorem Finished.applied_calls (a : Finished p values) :
    applied a.calls = a.applied?.toList := by
  have goes : Goes p values a.pool
      ([.price, .userData, .convert, .publish, .document] ++ .apply :: [.wait]) .start a.passed
      a.calls a.last a.failure := a.goes
  have document : ∀ step ∈ [Step.wait], ∀ g cs g', Takes p values a.pool step g cs (.ok g') →
      stackOf p a.pool g'.document = stackOf p a.pool g.document := by
    intro step mem g cs g' takes
    rw [takes.unchanged.document (ne_of_mem_of_not_mem mem (by decide))]
  rw [applied, (gives_applied p values a.pool).once goes (by decide) (by decide) document,
    Finished.applied?]
  split <;> rfl

/-! ## The payloads that attempts convert and store -/

/-- An object with its place. -/
structure Stored where
  bucket : String
  key : String
  content : Bytes
deriving Repr, DecidableEq

/-- The object that an exchange stored without an error. -/
def storedBy? : Exchange Service → Option Stored
  | ⟨.inl (.put bucket key content), .ok ()⟩ => some ⟨bucket, key, content⟩
  | _ => none

/-- The objects that were stored without an error, in the order of the trace. -/
def stored (tr : List (Exchange Service)) : List Stored := tr.filterMap storedBy?

/-- The payload that an exchange got from the converter. -/
def convertedBy? : Exchange Service → Option Bytes
  | ⟨.inr (.convert _), .ok payload⟩ => some payload
  | _ => none

/-- The payloads got from the converter, in the order of the trace. -/
def converted (tr : List (Exchange Service)) : List Bytes := tr.filterMap convertedBy?

/-- Where a payload is stored. -/
def objectOf (p : Provisioner) (payload : Bytes) : Stored :=
  ⟨p.profiles.bucket, contentKey payload, payload⟩

theorem gives_stored (p : Provisioner) (values : Values) (pool : NodePool) :
    Gives p values pool .publish storedBy? fun g => objectOf p g.payload := by
  intro step g cs r takes
  cases takes with
  | publish _ answer => cases answer <;> rfl
  | _ => rfl

theorem gives_converted (p : Provisioner) (values : Values) (pool : NodePool) :
    Gives p values pool .convert convertedBy? Progress.payload := by
  intro step g cs r takes
  cases takes with
  | convert _ answer => cases answer <;> rfl
  | _ => rfl

/-- An attempt stores its payload if it comes so far. -/
theorem Finished.stored_calls (a : Finished p values) :
    stored a.calls = if .publish ∈ a.passed then [objectOf p a.last.payload] else [] := by
  have goes : Goes p values a.pool
      ([.price, .userData, .convert] ++ .publish :: [.document, .apply, .wait]) .start a.passed
      a.calls a.last a.failure := a.goes
  refine (gives_stored p values a.pool).once goes (by decide) (by decide) ?_
  intro step mem g cs g' takes
  rw [takes.unchanged.payload (ne_of_mem_of_not_mem mem (by decide))]

/-- The payload of an attempt is what the converter gave. -/
theorem Finished.converted_calls (a : Finished p values) :
    converted a.calls = if .convert ∈ a.passed then [a.last.payload] else [] := by
  have goes : Goes p values a.pool
      ([.price, .userData] ++ .convert :: [.publish, .document, .apply, .wait]) .start a.passed
      a.calls a.last a.failure := a.goes
  refine (gives_converted p values a.pool).once goes (by decide) (by decide) ?_
  intro step mem g cs g' takes
  exact takes.unchanged.payload (ne_of_mem_of_not_mem mem (by decide))

/-- What an attempt stores is under the key made from it, and the converter gave it. -/
theorem Finished.of_mem_stored {a : Finished p values} {x : Stored} (mem : x ∈ stored a.calls) :
    x = objectOf p x.content ∧ x.content ∈ converted a.calls := by
  rw [a.stored_calls] at mem
  split at mem
  next published =>
    have begins : a.passed <+: Step.all := by
      rcases a.goes.passed_prefix with ⟨-, all⟩ | ⟨e, step, later, -, all⟩
      · exact all ▸ List.prefix_rfl
      · exact ⟨_, all.symm⟩
    have before : ∀ passed ∈ Step.all.inits, Step.publish ∈ passed → Step.convert ∈ passed := by
      decide
    obtain rfl := List.mem_singleton.mp mem
    rw [a.converted_calls, if_pos (before _ ((List.mem_inits _ _).mpr begins) published)]
    exact ⟨rfl, List.mem_singleton_self _⟩
  · cases mem

end

end NodePools.Attempt
