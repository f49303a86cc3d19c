import NodePools.Proofs.Schedule
import NodePools.Proofs.Skeleton

/-!
# What a machine boots from is there

A stack document tells the machines of its pool, by the user data in it, where they find
their configuration.  `BootReference` is what stands behind such a document: the texts of
the two templates, what the converter made of the first of them, and the key under which
that is to be found.

The main statement is `applied_document_boots`: in a store that deletes nothing, whenever
the stack of a pool is applied, what its document refers to is there, and stays there
while the attempts of the other pools go on and store things of their own.  The steps of
an attempt come in their order, so an attempt that applies has published before; and what
others publish under the same key is the same, because keys are made from content.
-/

namespace NodePools

open Attempt Provisioner

namespace Attempt

variable {p : Provisioner} {values : Values} {pool : NodePool} {step : Step} {passed : List Step}
  {g g' last : Progress} {cs : List (Exchange Service)} {r : Except Error Progress}

/-! ## What a step has given -/

/-- What is made of a value is there if the value is. -/
theorem eq_of_return {α β : Type} {x : Except Error α} {f : α → β} {b : β}
    (h : Except.ok b = (do return f (← x) : Except Error β)) : ∃ a, x = .ok a ∧ b = f a := by
  cases x with
  | error e => cases h
  | ok a => exact ⟨a, rfl, Except.ok.inj h⟩

theorem Takes.of_userData (takes : Takes p values pool .userData g cs (.ok g')) :
    ∃ rendered, templateText p pool Profiles.userDataFile
      (Profiles.userDataContext p.cluster pool (seen values g.price)) = .ok rendered ∧
        g' = { g with rendered } := by
  generalize told : Except.ok g' = r at takes
  cases takes with
  | userData => exact eq_of_return told

theorem Takes.of_convert (takes : Takes p values pool .convert g cs (.ok g')) :
    ∃ payload, cs = [.site (.convert g.rendered) (.ok payload)] ∧ g' = { g with payload } := by
  generalize told : Except.ok g' = r at takes
  cases takes with
  | convert _ answer =>
    rcases answer with e | payload <;> cases told
    exact ⟨payload, rfl, rfl⟩

theorem Takes.of_publish (takes : Takes p values pool .publish g cs (.ok g')) :
    .cloud (.put p.profiles.bucket (contentKey g.payload) g.payload) (.ok ()) ∈ cs ∧ g' = g := by
  generalize told : Except.ok g' = r at takes
  cases takes with
  | bucketRefused => cases told
  | publish _ answer =>
    rcases answer with e | ⟨⟩ <;> cases told
    exact ⟨List.mem_cons_of_mem _ (List.mem_singleton_self _), rfl⟩

theorem Takes.of_document (takes : Takes p values pool .document g cs (.ok g')) :
    ∃ document, templateText p pool Profiles.stackFile
      (Profiles.stackContext p.cluster pool (seen values g.price)
        (Bootstrap.encodeUserData (address p g.payload) p.profiles.version)) = .ok document ∧
        g' = { g with document } := by
  generalize told : Except.ok g' = r at takes
  cases takes with
  | document => exact eq_of_return told

/-- When the payload has been given, the converter made it from the user data. -/
theorem Goes.converts (goes : Goes p values pool [.price, .userData, .convert] .start passed cs
    last none) :
    templateText p pool Profiles.userDataFile
      (Profiles.userDataContext p.cluster pool (seen values last.price)) = .ok last.rendered ∧
    .site (.convert last.rendered) (.ok last.payload) ∈ cs := by
  cases goes with
  | passed _ goes =>
  cases goes with
  | passed text goes =>
  cases goes with
  | passed made goes =>
  cases goes with
  | arrived =>
  obtain ⟨rendered, found, rfl⟩ := text.of_userData
  obtain ⟨payload, rfl, rfl⟩ := made.of_convert
  refine ⟨found, ?_⟩
  exact List.mem_append_right _ (List.mem_append_right _ (List.mem_append_left _
    (List.mem_singleton_self _)))

/-- When the document has been given, the payload has been published before, and the document
was rendered with the address of the payload. -/
theorem Goes.prepares
    (goes : Goes p values pool [.price, .userData, .convert, .publish, .document] .start passed cs
      last none) :
    templateText p pool Profiles.userDataFile
      (Profiles.userDataContext p.cluster pool (seen values last.price)) = .ok last.rendered ∧
    .site (.convert last.rendered) (.ok last.payload) ∈ cs ∧
    .cloud (.put p.profiles.bucket (contentKey last.payload) last.payload) (.ok ()) ∈ cs ∧
    templateText p pool Profiles.stackFile
      (Profiles.stackContext p.cluster pool (seen values last.price)
        (Bootstrap.encodeUserData (address p last.payload) p.profiles.version)) =
          .ok last.document := by
  have parts : Goes p values pool ([.price, .userData, .convert] ++ [.publish, .document]) .start
    passed cs last none := goes
  rcases parts.split with ⟨e, failed, _⟩ | ⟨mid, _, cs₁, cs₂, rfl, first, goes⟩
  · cases failed
  obtain ⟨text, made⟩ := first.converts
  cases goes with
  | passed published goes =>
  cases goes with
  | passed document goes =>
  cases goes with
  | arrived =>
  obtain ⟨put, rfl⟩ := published.of_publish
  obtain ⟨document, found, rfl⟩ := document.of_document
  exact ⟨text, List.mem_append_left _ made,
    List.mem_append_right _ (List.mem_append_left _ put), found⟩

/-! ## What an attempt stores -/

/-- The object that an exchange asked to store, whatever came of it. -/
def putBy? : Exchange Service → Option Stored
  | ⟨.inl (.put bucket key content), _⟩ => some ⟨bucket, key, content⟩
  | _ => none

theorem Takes.of_put {e : Exchange Service} {x : Stored} (by_e : putBy? e = some x)
    (takes : Takes p values pool step g cs r) (mem : e ∈ cs) :
    step = .publish ∧ x = objectOf p g.payload := by
  cases takes with
  | unpriced | unknownStrategy | userData | document => cases mem
  | priced | convert | bucketRefused | apply | wait =>
    obtain rfl := List.mem_singleton.mp mem
    cases by_e
  | publish =>
    rcases List.mem_cons.mp mem with rfl | mem
    · cases by_e
    · obtain rfl := List.mem_singleton.mp mem
      cases by_e
      exact ⟨rfl, rfl⟩

/-- Whatever an attempt asks to store is what the converter gave, under the key made from it. -/
theorem Finished.of_put {a : Finished p values} {e : Exchange Service} {x : Stored}
    (mem : e ∈ a.calls) (by_e : putBy? e = some x) :
    x = objectOf p x.content ∧ x.content ∈ converted a.calls := by
  obtain ⟨front, back, split⟩ := List.append_of_mem mem
  have goes : Goes p values a.pool
      ([.price, .userData, .convert] ++ .publish :: [.document, .apply, .wait]) .start a.passed
      a.calls a.last a.failure := a.goes
  rw [split] at goes
  obtain ⟨mid, asked, now, rest, cs, r, rfl, rfl, first, takes⟩ :=
    goes.upTo (fun takes mem => (takes.of_put by_e mem).1) (by decide) (by decide)
  obtain ⟨-, rfl⟩ := takes.of_put by_e (List.mem_append_right _ List.mem_cons_self)
  have made := first.converts.2
  refine ⟨rfl, List.mem_filterMap.mpr ⟨.site (.convert mid.rendered) (.ok mid.payload), ?_, rfl⟩⟩
  rw [split]
  exact List.mem_append_left _ (List.mem_append_left _ made)

end Attempt

/-! ## A store that deletes nothing -/

section

variable {σ : Type} {answer : Handler Service σ} {objects : σ → String × String → Option Bytes}
  {s s' : σ} {tr : List (Exchange Service)}

/-- A world with a store in which nothing is lost: what is stored without an error is there
afterwards, and what is there stays until something else is stored in its place. -/
structure Retains (answer : Handler Service σ) (objects : σ → String × String → Option Bytes) :
    Prop where
  stores : ∀ s bucket key content,
    (answer (.inl (.put bucket key content)) s).1 = Except.ok () →
      objects (answer (.inl (.put bucket key content)) s).2 (bucket, key) = some content
  keeps : ∀ s op place content, objects s place = some content →
    objects (answer op s).2 place = some content ∨
      ∃ new, op = .inl (.put place.1 place.2 new) ∧ objects (answer op s).2 place = some new

/-- What is there is there after any requests that store nothing else in its place. -/
theorem Retains.kept (retains : Retains answer objects) {bucket key : String} {content : Bytes}
    (plays : answer.Plays s tr s') (there : objects s (bucket, key) = some content)
    (same : ∀ e ∈ tr, ∀ x, putBy? e = some x → x.bucket = bucket → x.key = key →
      x.content = content) : objects s' (bucket, key) = some content := by
  induction plays with
  | nil s => exact there
  | @cons s s' op tr _ ih =>
    obtain ⟨here, later⟩ := List.forall_mem_cons.mp same
    refine ih ?_ later
    rcases retains.keeps s op _ _ there with kept | ⟨new, rfl, now⟩
    · exact kept
    · have content : new = content := here _ rfl rfl rfl
      rw [now, content]

/-- What was stored is there if nothing else was stored in its place. -/
theorem Retains.held (retains : Retains answer objects) {bucket key : String} {content : Bytes}
    (plays : answer.Plays s tr s') (mem : .cloud (.put bucket key content) (.ok ()) ∈ tr)
    (same : ∀ e ∈ tr, ∀ x, putBy? e = some x → x.bucket = bucket → x.key = key →
      x.content = content) : objects s' (bucket, key) = some content := by
  obtain ⟨before, after, rfl⟩ := List.append_of_mem mem
  obtain ⟨mid, -, plays⟩ := Handler.plays_append.mp plays
  obtain ⟨told, plays⟩ := Handler.plays_cons.mp plays
  refine retains.kept plays (retains.stores _ _ _ _ told.symm) fun e inside => ?_
  exact same e (List.mem_append_right _ (List.mem_cons_of_mem _ inside))

end

/-! ## The reference in a stack document -/

/-- What stands behind the stack document of a pool: the texts of its two templates, what the
user data was converted to, and where the document says that this is to be found. -/
structure BootReference (p : Provisioner) (values : Values) (pool : NodePool) where
  price : Datum
  rendered : String
  payload : Bytes
  key : String
  userData : String
  document : String
  /-- The user data is what the template of the profile gives for the pool. -/
  of_rendered : templateText p pool Profiles.userDataFile
    (Profiles.userDataContext p.cluster pool (seen values price)) = .ok rendered
  /-- The stack document was rendered with what the machines are given. -/
  of_document : templateText p pool Profiles.stackFile
    (Profiles.stackContext p.cluster pool (seen values price) userData) = .ok document
  /-- What the machines are given is a document with the address and the version. -/
  of_userData : Bootstrap.readUserData? userData = some (Bootstrap.skeletonDocument
    (p.profiles.scheme ++ "://" ++ p.profiles.bucket ++ "/" ++ key) p.profiles.version)

/-- The reference in the document of an attempt that has prepared one. -/
def Attempt.Goes.reference {p : Provisioner} {values : Values} {pool : NodePool}
    {passed : List Step} {cs : List (Exchange Service)} {last : Progress}
    (goes : Goes p values pool [.price, .userData, .convert, .publish, .document] .start passed cs
      last none) : BootReference p values pool where
  price := last.price
  rendered := last.rendered
  payload := last.payload
  key := contentKey last.payload
  userData := Bootstrap.encodeUserData (address p last.payload) p.profiles.version
  document := last.document
  of_rendered := goes.prepares.1
  of_document := goes.prepares.2.2.2
  of_userData := by
    rw [Bootstrap.readUserData?_encodeUserData, address, Publisher.uri]
    rfl

section

variable {σ : Type} {p : Provisioner} {values : Values} {answer : Handler Service σ} {s s' : σ}
  {tr : List (Option Nat × Exchange Service)} {r : Except Error Unit}

/-- The calls of an attempt stand in the trace under its place. -/
theorem Accounted.asked {attempts : List (Finished p values)}
    (account : Accounted p values tr r attempts) {i : Nat} {a : Finished p values}
    (found : attempts[i]? = some a) {e : Exchange Service} (mem : e ∈ a.calls) :
    (some i, e) ∈ tr := by
  rw [← account.own_calls i a found] at mem
  exact mem_own.mp (List.mem_filter.mp mem).1

/-- Whatever a run asks to store is what the converter gave, under the key made from it. -/
theorem Provisioner.Provisions.of_put (run : Provisions p values answer s tr r s')
    {e : Exchange Service} {x : Stored} (mem : e ∈ tr.map Prod.snd) (by_e : putBy? e = some x) :
    x = objectOf p x.content ∧ x.content ∈ converted (tr.map Prod.snd) := by
  obtain ⟨attempts, account⟩ := run.accounted
  have call : e.isCall := by
    unfold putBy? at by_e
    split at by_e
    · rfl
    · cases by_e
  obtain ⟨a, inside, of_a⟩ := account.exists_attempt (List.mem_filter.mpr ⟨mem, call⟩)
  obtain ⟨object, given⟩ := Finished.of_put of_a by_e
  obtain ⟨i, place, rfl⟩ := List.getElem_of_mem inside
  obtain ⟨e', mem', by_e'⟩ := List.mem_filterMap.mp given
  have asked := account.asked (List.getElem?_eq_getElem place) mem'
  exact ⟨object, List.mem_filterMap.mpr ⟨e', List.mem_map_of_mem asked, by_e'⟩⟩

/-- What an attempt asks before it applies its stack prepares the document that it applies. -/
theorem Attempt.Finished.prepared {a : Finished p values} {front back : List (Exchange Service)}
    {name document : String} {tags : Tags} {told : Except Error Unit}
    (split : a.calls = front ++ .cloud (.apply name document tags) told :: back) :
    name = stackName p.cluster a.pool ∧ tags = Tags.encode p.cluster.id a.pool ∧
      ∃ last, last.document = document ∧
        Goes p values a.pool [.price, .userData, .convert, .publish, .document] .start
          [.price, .userData, .convert, .publish, .document] front last none := by
  have goes : Goes p values a.pool
      ([.price, .userData, .convert, .publish, .document] ++ .apply :: [.wait]) .start a.passed
      a.calls a.last a.failure := a.goes
  rw [split] at goes
  obtain ⟨last, asked, now, rest, cs, r, rfl, rfl, first, takes⟩ :=
    goes.upTo (fun takes mem => (takes.of_apply mem).1) (by decide) (by decide)
  obtain ⟨-, rfl, rfl, rfl, alone⟩ := takes.of_apply (List.mem_append_right _ List.mem_cons_self)
  obtain rfl : now = [] := by
    cases now with
    | nil => rfl
    | cons e now => simp at alone
  rw [List.append_nil]
  exact ⟨rfl, rfl, last, rfl, first⟩

end

/-- In a world in which nothing stored is lost, whenever the stack of a pool is applied,
whatever comes of that, the document that is applied refers to the payload that the
converter made of the pool's user data; and exactly this payload is there when the stack is
applied and after every later request of the run, as long as the digest does not give one
value for two of the payloads got from the converter. -/
theorem applied_document_boots {σ : Type} (p : Provisioner) (values : Values)
    (answer : Handler Service σ) (objects : σ → String × String → Option Bytes)
    (retains : Retains answer objects) {s s' : σ} {tr : List (Option Nat × Exchange Service)}
    {r : Except Error Unit} (run : Provisions p values answer s tr r s')
    (distinct : ∀ x ∈ converted (tr.map Prod.snd), ∀ y ∈ converted (tr.map Prod.snd),
      Digest.sha512Hex x = Digest.sha512Hex y → x = y)
    {before after : List (Option Nat × Exchange Service)} {whose : Option Nat}
    {name document : String} {tags : Tags} {told : Except Error Unit}
    (split : tr = before ++ (whose, .cloud (.apply name document tags) told) :: after) :
    ∃ i pool, whose = some i ∧ p.cluster.targets[i]? = some pool ∧
      name = stackName p.cluster pool ∧ tags = Tags.encode p.cluster.id pool ∧
      ∃ x : BootReference p values pool, x.document = document ∧
        (some i, .site (.convert x.rendered) (.ok x.payload)) ∈ before ∧
        ∀ now rest, (whose, .cloud (.apply name document tags) told) :: after = now ++ rest →
          ∃ mid, answer.Plays s ((before ++ now).map Prod.snd) mid ∧
            objects mid (p.profiles.bucket, x.key) = some x.payload := by
  obtain ⟨attempts, account⟩ := run.accounted
  obtain ⟨i, inside, rfl⟩ := account.no_others (whose, .cloud (.apply name document tags) told)
    (split ▸ List.mem_append_right _ List.mem_cons_self) rfl
  have found := List.getElem?_eq_getElem inside
  have own_calls := account.own_calls i _ found
  have own_split : (attempts[i]).calls = calls (own (some i) before) ++
      .cloud (.apply name document tags) told :: calls (own (some i) after) := by
    rw [← own_calls, split, own_append, own_cons_self, calls_append]
    rfl
  obtain ⟨named, tagged, last, rfl, goes⟩ := Finished.prepared own_split
  have asked {e : Exchange Service} (mem : e ∈ calls (own (some i) before)) :
      (some i, e) ∈ before := mem_own.mp (List.mem_filter.mp mem).1
  obtain ⟨-, made, put, -⟩ := goes.prepares
  refine ⟨i, (attempts[i]).pool, rfl, ?_, named, tagged, goes.reference, rfl, asked made,
    fun now rest parts => ?_⟩
  · rw [← account.pools, List.getElem?_map, found]
    rfl
  have whole : tr = before ++ now ++ rest := by rw [split, parts, List.append_assoc]
  have plays := run.plays
  rw [whole, List.map_append] at plays
  obtain ⟨mid, plays, -⟩ := Handler.plays_append.mp plays
  refine ⟨mid, plays, retains.held plays
    (List.mem_map_of_mem (List.mem_append_left _ (asked put))) fun e mem x by_e _ key => ?_⟩
  -- Another payload under this key would have the digest of this one.
  have mem : e ∈ tr.map Prod.snd := by
    rw [whole, List.map_append]
    exact List.mem_append_left _ mem
  obtain ⟨object, given⟩ := run.of_put mem by_e
  have convert : (some i, .site (.convert last.rendered) (.ok last.payload)) ∈ tr :=
    split ▸ List.mem_append_left _ (asked made)
  have payload : last.payload ∈ converted (tr.map Prod.snd) :=
    List.mem_filterMap.mpr ⟨_, List.mem_map_of_mem convert, rfl⟩
  rw [object] at key
  exact distinct _ given _ payload ((String.append_left_inj _).mp key)

/-! ## Two pools with one payload -/

/-- Only a request to store an object stores it. -/
theorem eq_of_storedBy? {e : Exchange Service} {x : Stored} (h : storedBy? e = some x) :
    e = .cloud (.put x.bucket x.key x.content) (.ok ()) := by
  unfold storedBy? at h
  split at h
  · cases h
    rfl
  · cases h

/-- A store that does as it says and answers as a script tells loses nothing. -/
theorem retains_scripted (told : (op : Service.Op) → Service.Answer op) :
    Retains (scripted told) Ledger.objects where
  stores s bucket key content ok := by
    have ok : told (.inl (.put bucket key content)) = Except.ok () := ok
    simp only [scripted, Ledger.after, ok]
    exact Function.update_self ..
  keeps s op place content there := by
    simp only [scripted, Ledger.after]
    rcases of_op : storedBy? ⟨op, told op⟩ with _ | x
    · exact .inl there
    by_cases same : place = (x.bucket, x.key)
    · obtain rfl : op = .inl (.put x.bucket x.key x.content) :=
        congrArg Exchange.op (eq_of_storedBy? of_op)
      subst same
      exact .inr ⟨x.content, rfl, Function.update_self ..⟩
    · exact .inl ((Function.update_of_ne same ..).trans there)

/-- A stack that is there in the end and was not there before has been applied. -/
theorem exists_of_applied {tr : List (Exchange Service)} {l : Ledger} {name : String}
    (fresh : l.applied name = none)
    (there : ((tr.foldl Ledger.after l).applied name).isSome) :
    ∃ document tags, .cloud (.apply name document tags) (.ok ()) ∈ tr := by
  induction tr generalizing l with
  | nil =>
    rw [List.foldl_nil, fresh] at there
    cases there
  | cons e tr ih =>
    by_cases still : (l.after e).applied name = none
    · obtain ⟨document, tags, mem⟩ := ih still there
      exact ⟨document, tags, List.mem_cons_of_mem _ mem⟩
    · simp only [Ledger.after] at still
      rcases of_e : appliedBy? e with _ | a
      · rw [of_e] at still
        exact absurd fresh still
      · rw [of_e] at still
        by_cases same : name = a.name
        · subst same
          unfold appliedBy? at of_e
          split at of_e
          · cases of_e
            exact ⟨_, _, List.mem_cons_self⟩
          · cases of_e
        · exact absurd ((Function.update_of_ne same ..).trans fresh) still

set_option maxRecDepth 100000 in
/-- The machines of a pool find their configuration although another pool is refused its
stack. -/
theorem twoWorkers_boots : Retains (scripted (refusing "nodepool-bidding-kube")) Ledger.objects ∧
    ∃ tr r l' before after document tags,
      Provisions twoWorkers [] (scripted (refusing "nodepool-bidding-kube")) ⟨∅, fun _ => none,
        fun _ => none, 0⟩ tr r l' ∧
      (∀ x ∈ converted (tr.map Prod.snd), ∀ y ∈ converted (tr.map Prod.snd),
        Digest.sha512Hex x = Digest.sha512Hex y → x = y) ∧
      tr = before ++
        (some 1, .cloud (.apply "nodepool-plain-kube" document tags) (.ok ())) :: after ∧
      ∃ x : BootReference twoWorkers [] ⟨"plain", "worker", "m5.large", .none, 0, 9⟩,
        x.document = document ∧ x.payload = [1, 2, 3] ∧
          l'.objects ("bucket", x.key) = some [1, 2, 3] := by
  let answer := scripted (refusing "nodepool-bidding-kube")
  refine ⟨retains_scripted _, ?_⟩
  obtain ⟨r, l', ran⟩ := (uncut_provision twoWorkers []).run answer
    ⟨∅, fun _ => none, fun _ => none, 0⟩
  obtain ⟨tr, run⟩ := provisions_of_run ran
  obtain ⟨heeds, rfl⟩ := plays_scripted run.plays
  have there : (((twoWorkers.provision []).outcome.run answer ⟨∅, fun _ => none,
      fun _ => none, 0⟩).2.applied "nodepool-plain-kube").isSome := by decide +kernel
  rw [ran] at there
  obtain ⟨document, tags, mem⟩ := exists_of_applied rfl there
  obtain ⟨⟨whose, e⟩, asked, rfl⟩ := List.mem_map.mp mem
  obtain ⟨before, after, split⟩ := List.append_of_mem asked
  have one : ∀ x ∈ converted (tr.map Prod.snd), x = [1, 2, 3] := fun x mem =>
    converted_refusing heeds mem
  have distinct : ∀ x ∈ converted (tr.map Prod.snd), ∀ y ∈ converted (tr.map Prod.snd),
      Digest.sha512Hex x = Digest.sha512Hex y → x = y := fun x mem y mem' _ => by
    rw [one x mem, one y mem']
  obtain ⟨i, pool, rfl, found, name, -, x, document_eq, made, stays⟩ :=
    applied_document_boots twoWorkers [] answer _ (retains_scripted _) run distinct split
  obtain ⟨rfl, rfl⟩ : i = 1 ∧ pool = ⟨"plain", "worker", "m5.large", .none, 0, 9⟩ := by
    match i, found with
    | 0, found =>
      cases found
      exact absurd name (by decide)
    | 1, found =>
      cases found
      exact ⟨rfl, rfl⟩
  have payload : x.payload = [1, 2, 3] := by
    have mem : (some 1, .site (.convert x.rendered) (.ok x.payload)) ∈ tr :=
      split ▸ List.mem_append_left _ made
    exact one _ (List.mem_filterMap.mpr ⟨_, List.mem_map_of_mem mem, rfl⟩)
  obtain ⟨mid, plays, held⟩ := stays _ [] (List.append_nil _).symm
  rw [← split] at plays
  obtain rfl := (plays_scripted plays).2
  refine ⟨tr, r, _, before, after, document, tags, run, distinct, split, x, document_eq, payload,
    ?_⟩
  rw [← payload]
  exact held

end NodePools
