import NodePools.Proofs.Interpretation
import NodePools.Proofs.Listing
import NodePools.Proofs.Neighbours
import NodePools.Proofs.ScalingGroup

/-!
# A pass that drains before it deletes

Over the clients, a pass of reconciling lists stacks, and then scales the pool of each orphan
to nothing and deletes its stack.  The pool is read back from the tags of the stack, and the
scaler makes the name of the stack anew from it; that this is the name under which the stack
is deleted afterwards is known of stacks that runs of this library have made
(`name_eq_of_listed`), and of no others.

So no stack is deleted before its own scaling group was seen empty, by a look that began before
the deadline that was fixed when the group had been resized, and a stack of which this is not
seen in time stops the pass (`reconcile_drains_before_deleting`).
-/

namespace NodePools.Aws

variable {τ : Type} [Seconds τ]

/-! ## Actions over clients and programs -/

/-- Over the clients and the converter program, an action asks what is in a trace and ends with
a result. -/
abbrev Attendants.Runs (a : Attendants) (b : Backend) {α : Type} (x : Action Service α)
    (tr : List (Exchange ((Client τ).sum Converting))) (r : Except Error α) : Prop :=
  Prog.Runs (a.overPrograms b x.outcome) tr r

variable {a : Attendants} {b : Backend} {tr : List (Exchange ((Client τ).sum Converting))}

/-- A request to the cloud is what is asked of the clients for it. -/
theorem over_cloud (op : CloudOp) :
    (a.overPrograms b (Service.cloud op) : Prog ((Client τ).sum Converting) _) =
      .inFirst (b.meaning op) :=
  Prog.bind_done _

theorem runs_over_cloud {op : CloudOp} {r : op.Answer}
    (run : Prog.Runs (a.overPrograms b (Service.cloud op)) tr r) :
    ∃ es, Prog.Runs (b.meaning op) es r ∧ tr = es.map Exchange.inFirst := by
  rw [over_cloud] at run
  exact Prog.runs_inFirst run

/-- To scale a pool is what the scaler does. -/
theorem over_scale {s : Scaler} (scaled : a.scaler = some s) (pool : NodePool) (replicas : Int) :
    (a.overPrograms b (Service.scale pool replicas).outcome : Prog ((Client τ).sum Converting) _) =
      .inFirst (s.scale b.looks pool replicas).outcome := by
  refine (Prog.bind_done _).trans ?_
  simp only [Prog.either, Attendants.meaning, scaled]
  rfl

theorem runs_over_scale {s : Scaler} (scaled : a.scaler = some s) {pool : NodePool}
    {replicas : Int} {r : Except Error Unit} (run : a.Runs b (Service.scale pool replicas) tr r) :
    ∃ es : List (Exchange (Client τ)),
      Prog.Runs (s.scale b.looks pool replicas).outcome es r ∧ tr = es.map Exchange.inFirst := by
  rw [Attendants.Runs, over_scale scaled] at run
  exact Prog.runs_inFirst run

/-- A log record at the clients. -/
def noted (record : Record) : Exchange (Client τ) := ⟨.log record, ()⟩

/-- A log record does not fail, and nothing else is asked for it. -/
theorem runs_over_log {level : Level} {cluster : Option String} {message : String}
    {r : Except Error Unit} (run : a.Runs b (Service.log level cluster message) tr r) :
    r = .ok () ∧ ∃ record, tr = [Exchange.inFirst (noted record)] := by
  obtain ⟨part, ⟨⟩, rest, rfl, logged, done⟩ := Prog.runs_bind.mp run
  obtain ⟨⟨⟩, asked, rfl, more⟩ := Prog.runs_ask.mp logged
  obtain ⟨rfl, -⟩ := Prog.runs_done.mp more
  obtain ⟨rfl, rfl⟩ := Prog.runs_done.mp done
  exact ⟨rfl, _, rfl⟩

/-- What follows a log record is asked behind it. -/
theorem runs_over_log_bind {α : Type} {level : Level} {cluster : Option String} {message : String}
    {k : Unit → Action Service α} {r : Except Error α}
    (run : a.Runs b (Service.log level cluster message >>= k) tr r) :
    ∃ record rest, tr = Exchange.inFirst (noted record) :: rest ∧ a.Runs b (k ()) rest r := by
  rcases Action.runs_interpret_bind.mp run with ⟨e, rfl, failed⟩ |
    ⟨tr₁, ⟨⟩, rest, rfl, logged, later⟩
  · cases (runs_over_log failed).1
  · obtain ⟨-, record, rfl⟩ := runs_over_log logged
    exact ⟨record, rest, rfl, later⟩

/-- An action for each of two lists of items is one for each of the first, and then one for
each of the second. -/
theorem runs_over_forM_append {α : Type} {f : α → Action Service PUnit} {front back : List α}
    {r : Except Error PUnit} :
    a.Runs b ((front ++ back).forM f) tr r ↔
      (∃ e, r = .error e ∧ a.Runs b (front.forM f) tr (.error e)) ∨
      ∃ tr₁ tr₂, tr = tr₁ ++ tr₂ ∧ a.Runs b (front.forM f) tr₁ (.ok ()) ∧
        a.Runs b (back.forM f) tr₂ r := by
  have split : (front ++ back).forM f = front.forM f >>= fun _ => back.forM f :=
    List.forM_append
  rw [split]
  refine Action.runs_interpret_bind.trans (or_congr_right ?_)
  exact exists_congr fun tr₁ => ⟨fun ⟨⟨⟩, tr₂, parts⟩ => ⟨tr₂, parts⟩,
    fun ⟨tr₂, parts⟩ => ⟨(), tr₂, parts⟩⟩

/-- Over the clients and the converter program, an action asks what is in a trace and is cut
off. -/
abbrev Attendants.Cuts (a : Attendants) (b : Backend) {α : Type} (x : Action Service α)
    (tr : List (Exchange ((Client τ).sum Converting))) : Prop :=
  Prog.Cuts (a.overPrograms b x.outcome) tr

theorem cuts_over_cloud {op : CloudOp} (cuts : Prog.Cuts (a.overPrograms b (Service.cloud op)) tr) :
    ∃ es, Prog.Cuts (b.meaning op) es ∧ tr = es.map Exchange.inFirst := by
  rw [over_cloud] at cuts
  exact Prog.cuts_inFirst cuts

theorem cuts_over_scale {s : Scaler} (scaled : a.scaler = some s) {pool : NodePool}
    {replicas : Int} (cuts : a.Cuts b (Service.scale pool replicas) tr) :
    ∃ es : List (Exchange (Client τ)),
      Prog.Cuts (s.scale b.looks pool replicas).outcome es ∧ tr = es.map Exchange.inFirst := by
  rw [Attendants.Cuts, over_scale scaled] at cuts
  exact Prog.cuts_inFirst cuts

/-- What follows a log record is cut off behind it. -/
theorem cuts_over_log_bind {α : Type} {level : Level} {cluster : Option String} {message : String}
    {k : Unit → Action Service α}
    (cuts : a.Cuts b (Service.log level cluster message >>= k) tr) :
    ∃ record rest, tr = Exchange.inFirst (noted record) :: rest ∧ a.Cuts b (k ()) rest := by
  rcases Action.cuts_interpret_bind.mp cuts with here | ⟨tr₁, ⟨⟩, rest, rfl, logged, later⟩
  · rcases Prog.cuts_bind.mp here with here | ⟨_, _, _, rfl, -, done⟩
    · obtain ⟨_, asked, -⟩ := Prog.cuts_inFirst here
      exact absurd asked (Prog.Uncut.request _).not_cuts
    · cases done
  · obtain ⟨-, record, rfl⟩ := runs_over_log logged
    exact ⟨record, rest, rfl, later⟩

/-! ## The turn of one stack -/

variable {p : Provisioner} {s : Scaler} {x : Stack} {r : Except Error Unit}

/-- The error of a drain is one about scaling. -/
theorem exists_scaling_drainError (pool : String) (e : Error) :
    ∃ cause, Provisioner.drainError pool e = .scaling cause := by
  cases e <;> exact ⟨_, rfl⟩

/-- How a stack is taken down in its turn, told by what is asked of the clients: its pool is
scaled to nothing, and if this does not fail the stack is deleted under the name that it was
listed with. -/
inductive Turn (b : Backend) (s : Scaler) (x : Stack) :
    List (Exchange (Client τ)) → Except Error Unit → Prop
  | notDrained (record : Record) {scaling : List (Exchange (Client τ))} {e : Error} :
    Prog.Runs (s.scale b.looks (Tags.decode x.tags) 0).outcome scaling (.error e) →
    Turn b s x ([noted record] ++ scaling)
      (.error (Provisioner.drainError (Tags.decode x.tags).name e))
  | drained (record record' : Record) {scaling deleting : List (Exchange (Client τ))}
    {r : Except Error Unit} :
    Prog.Runs (s.scale b.looks (Tags.decode x.tags) 0).outcome scaling (.ok ()) →
    Prog.Runs (Stacks.delete b.region x.name).outcome deleting r →
    Turn b s x ([noted record] ++ scaling ++ [noted record'] ++ deleting) r

theorem turn_of_run (scaled : a.scaler = some s) (run : a.Runs b (p.decommission x) tr r) :
    Turn b s x (ofFirst tr) r := by
  obtain ⟨record, rest, rfl, taken⟩ := runs_over_log_bind run
  rcases Action.runs_interpret_bind.mp taken with ⟨e, rfl, drain⟩ |
    ⟨tr₁, ⟨⟩, tr₂, rfl, drain, later⟩
  · obtain ⟨answer, asked, told⟩ := Action.runs_interpret_mapError.mp drain
    obtain ⟨scaling, ran, rfl⟩ := runs_over_scale scaled asked
    cases answer with
    | error cause =>
      cases told
      rw [ofFirst_inFirst_cons, ofFirst_map_inFirst]
      exact .notDrained record ran
    | ok _ => cases told
  · obtain ⟨answer, asked, told⟩ := Action.runs_interpret_mapError.mp drain
    obtain ⟨scaling, ran, rfl⟩ := runs_over_scale scaled asked
    cases answer with
    | error cause => cases told
    | ok _ =>
      obtain ⟨record', last, rfl, delete⟩ := runs_over_log_bind later
      obtain ⟨deleting, deleted, rfl⟩ := runs_over_cloud delete
      have turn := Turn.drained (b := b) (s := s) (x := x) record record' ran deleted
      simp only [List.append_assoc, List.cons_append, List.nil_append] at turn
      simpa only [ofFirst_inFirst_cons, ofFirst_append, ofFirst_map_inFirst] using turn

namespace Turn

variable {cs : List (Exchange (Client τ))}

theorem deletionCalls_of_scale (record : Record) {scaling : List (Exchange (Client τ))}
    {r : Except Error Unit}
    (ran : Prog.Runs (s.scale b.looks (Tags.decode x.tags) 0).outcome scaling r) :
    deletionCalls ([noted record] ++ scaling) = [] := by
  have silent : deletionCalls scaling = [] :=
    (s.silent_scale b.looks (Tags.decode x.tags) 0).runs ran
  exact silent

/-- Before a stack is deleted in its turn, its scaling group is emptied; and it is deleted by
the name that it was listed with. -/
theorem deletion (turn : Turn b s x cs r) {before after : List (Exchange (Client τ))}
    {e : Exchange (Client τ)} {arguments : Fields Datum} (split : cs = before ++ e :: after)
    (deletes : deletion? e = some arguments) :
    arguments = [("StackName", .text x.name)] ∧
      Emptied s.timeout (stackName s.cluster (Tags.decode x.tags)) before := by
  have mem : arguments ∈ deletionCalls cs := by
    rw [split]
    exact List.mem_filterMap.mpr ⟨e, List.mem_append_right _ List.mem_cons_self, deletes⟩
  cases turn with
  | notDrained record ran =>
    rw [deletionCalls_of_scale record ran] at mem
    cases mem
  | drained record record' ran deleted =>
    have silent := deletionCalls_of_scale record ran
    rcases split_append split with ⟨back, front⟩ | ⟨front, rfl, -⟩
    · have none : deletionCalls (before ++ e :: back) = [] := by
        rw [← front, deletionCalls_append, silent]
        rfl
      have nothing := List.filterMap_eq_nil_iff.mp none e
        (List.mem_append_right _ List.mem_cons_self)
      cases deletes.symm.trans nothing
    · rw [deletionCalls_append, deletionCalls_append, silent] at mem
      refine ⟨?_, ?_⟩
      · rcases Stacks.deletionCalls_of_delete deleted with ⟨nothing, -⟩ | one
        · rw [nothing] at mem
          cases mem
        · rw [one] at mem
          exact List.mem_singleton.mp mem
      · exact (Scaler.emptied_of_scale ran).mono
          ⟨[noted record], [noted record'] ++ front, (List.append_assoc ..).symm⟩

/-- A stack of which the scaling group is not emptied is not deleted, and its turn ends with an
error about scaling. -/
theorem stops (turn : Turn b s x cs r)
    (full : ¬Emptied s.timeout (stackName s.cluster (Tags.decode x.tags)) cs) :
    deletionCalls cs = [] ∧ ∃ cause, r = .error (.scaling cause) := by
  cases turn with
  | notDrained record ran =>
    obtain ⟨cause, same⟩ := exists_scaling_drainError (Tags.decode x.tags).name _
    exact ⟨deletionCalls_of_scale record ran, cause, congrArg Except.error same⟩
  | @drained record record' scaling deleting _ ran deleted =>
    exact absurd ((Scaler.emptied_of_scale ran).mono
      ⟨[noted record], [noted record'] ++ deleting, (List.append_assoc ..).symm⟩) full

end Turn

/-! ## The name of a stack -/

/-- What is listed are live stacks: each has the name and the tags of one. -/
def Lives (listed live : List Stack) : Prop :=
  ∀ x ∈ listed, ∃ y ∈ live, y.name = x.name ∧ ∀ key, Fields.get? key y.tags = Fields.get? key x.tags

/-- If what carries the tags of a cluster was applied for it, a listed stack that carries them
has the name that the scaler makes of its tags. -/
theorem name_eq_of_listed {runs : List Cluster} {c : Cluster} {listed live : List Stack}
    (applied : ∀ y ∈ live, Tags.holdAll y.tags (Tags.owner c.id) = true → AppliedFor runs c.id y)
    (lives : Lives listed live) (mem : x ∈ listed)
    (owned : Tags.holdAll x.tags (Tags.owner c.id) = true) :
    stackName c (Tags.decode x.tags) = x.name := by
  obtain ⟨y, there, name, tags⟩ := lives x mem
  have decoded : Tags.decode x.tags = Tags.decode y.tags := by
    simp only [Tags.decode, tags]
  have held : Tags.holdAll y.tags (Tags.owner c.id) = true := by
    rw [Tags.holdAll_owner, tags, tags]
    exact Tags.holdAll_owner.mp owned
  rw [decoded, ← name]
  exact ((applied y there held).name_eq rfl).symm

/-! ## Turn after turn -/

/-- How a pass over the clients takes down stacks one after the other, behind what it has
asked at first. -/
structure DrainsFirst (a : Attendants) (b : Backend) (p : Provisioner) (timeout : Number)
    (doomed : List Stack) (first tr : List (Exchange ((Client τ).sum Converting)))
    (r : Except Error Unit) : Prop where
  /-- Whatever deletes a stack deletes one of them by its name, when those in front of it have
  been taken down and its own scaling group was emptied since. -/
  drained : ∀ before e after arguments, ofFirst tr = before ++ e :: after →
    deletion? e = some arguments → ∃ front x back done turn, doomed = front ++ x :: back ∧
      arguments = [("StackName", .text x.name)] ∧
      a.Runs b (front.forM p.decommission) done (.ok ()) ∧
      before = ofFirst first ++ ofFirst done ++ turn ∧ Emptied timeout x.name turn
  /-- When those in front of a stack have been taken down and its scaling group is not emptied
  afterwards, nothing more is deleted, and the pass fails with an error about scaling. -/
  stops : ∀ front x back done rest, doomed = front ++ x :: back → tr = first ++ done ++ rest →
    a.Runs b (front.forM p.decommission) done (.ok ()) → ¬Emptied timeout x.name (ofFirst rest) →
    deletionCalls (ofFirst rest) = [] ∧ ∃ cause, r = .error (.scaling cause)

theorem deletion_after_emptied (scaled : a.scaler = some s) {doomed : List Stack}
    (named : ∀ x ∈ doomed, stackName s.cluster (Tags.decode x.tags) = x.name)
    {r : Except Error PUnit} (run : a.Runs b (doomed.forM p.decommission) tr r)
    {before after : List (Exchange (Client τ))} {e : Exchange (Client τ)}
    {arguments : Fields Datum} (split : ofFirst tr = before ++ e :: after)
    (deletes : deletion? e = some arguments) :
    ∃ front x back done turn, doomed = front ++ x :: back ∧
      arguments = [("StackName", .text x.name)] ∧
      a.Runs b (front.forM p.decommission) done (.ok ()) ∧ before = ofFirst done ++ turn ∧
      Emptied s.timeout x.name turn := by
  induction doomed generalizing tr before with
  | nil =>
    obtain ⟨rfl, -⟩ := Prog.runs_done.mp run
    cases before <;> cases split
  | cons x rest ih =>
    obtain ⟨here, later⟩ := List.forall_mem_cons.mp named
    have of_turn {tr : List (Exchange ((Client τ).sum Converting))} {r : Except Error Unit}
        {after : List (Exchange (Client τ))} (run : a.Runs b (p.decommission x) tr r)
        (split : ofFirst tr = before ++ e :: after) : ∃ front y back done turn,
          x :: rest = front ++ y :: back ∧ arguments = [("StackName", .text y.name)] ∧
          a.Runs b (front.forM p.decommission) done (.ok ()) ∧ before = ofFirst done ++ turn ∧
          Emptied s.timeout y.name turn := by
      obtain ⟨arguments_eq, emptied⟩ := (turn_of_run scaled run).deletion split deletes
      rw [here] at emptied
      exact ⟨[], x, rest, [], before, rfl, arguments_eq, .done _, rfl, emptied⟩
    rcases Action.runs_interpret_bind.mp run with ⟨cause, -, failed⟩ |
      ⟨tr₁, ⟨⟩, tr₂, rfl, gone, others⟩
    · exact of_turn failed split
    · rw [ofFirst_append] at split
      rcases split_append split with ⟨back, inside⟩ | ⟨front, rfl, inside⟩
      · exact of_turn gone inside
      · obtain ⟨front, y, back, done, turn, rfl, arguments_eq, passed, rfl, emptied⟩ :=
          ih later others inside
        refine ⟨x :: front, y, back, tr₁ ++ done, turn, rfl, arguments_eq, ?_, ?_, emptied⟩
        · exact Action.runs_interpret_bind.mpr (.inr ⟨tr₁, (), done, rfl, gone, passed⟩)
        · rw [ofFirst_append, List.append_assoc]

theorem stops_of_full (scaled : a.scaler = some s) {front back : List Stack}
    (named : stackName s.cluster (Tags.decode x.tags) = x.name) {r : Except Error PUnit}
    {done rest : List (Exchange ((Client τ).sum Converting))}
    (run : a.Runs b ((front ++ x :: back).forM p.decommission) (done ++ rest) r)
    (passed : a.Runs b (front.forM p.decommission) done (.ok ()))
    (full : ¬Emptied s.timeout x.name (ofFirst rest)) :
    deletionCalls (ofFirst rest) = [] ∧ ∃ cause, r = .error (.scaling cause) := by
  rw [← named] at full
  rcases runs_over_forM_append.mp run with ⟨e, -, failed⟩ | ⟨tr₁, tr₂, same, first, later⟩
  · cases (failed.prefix_unique passed (List.append_nil _)).2.1
  · obtain ⟨rfl, -, rfl⟩ := passed.prefix_unique first same
    rcases Action.runs_interpret_bind.mp later with ⟨e, rfl, failed⟩ |
      ⟨tr₃, ⟨⟩, tr₄, rfl, gone, -⟩
    · exact (turn_of_run scaled failed).stops full
    · have kept : ¬Emptied s.timeout (stackName s.cluster (Tags.decode x.tags)) (ofFirst tr₃) := by
        refine mt (fun emptied => emptied.mono ?_) full
        rw [ofFirst_append]
        exact (List.prefix_append ..).isInfix
      obtain ⟨-, cause, failed⟩ := (turn_of_run scaled gone).stops kept
      cases failed

/-- The turn of a stack is cut off only while its scaling group is still busy, and before it is
deleted. -/
theorem stillBusy_of_cuts (scaled : a.scaler = some s) (cuts : a.Cuts b (p.decommission x) tr) :
    StillBusy s.timeout (stackName s.cluster (Tags.decode x.tags)) b.looks (ofFirst tr) ∧
      deletionCalls (ofFirst tr) = [] := by
  obtain ⟨record, rest, rfl, taken⟩ := cuts_over_log_bind cuts
  rcases Action.cuts_interpret_bind.mp taken with here | ⟨tr₁, ⟨⟩, tr₂, rfl, -, later⟩
  · obtain ⟨scaling, busy, rfl⟩ :=
      cuts_over_scale scaled (Action.cuts_interpret_mapError.mp here)
    rw [ofFirst_inFirst_cons, ofFirst_map_inFirst]
    have silent : deletionCalls scaling = [] :=
      (s.silent_scale b.looks (Tags.decode x.tags) 0).cuts busy
    exact ⟨(Scaler.stillBusy_of_cuts_scale busy).mono (List.suffix_cons _ _), silent⟩
  · obtain ⟨record', last, rfl, deleting⟩ := cuts_over_log_bind later
    obtain ⟨_, deleted, -⟩ := cuts_over_cloud deleting
    exact absurd deleted (Stacks.uncut_delete b.region x.name).not_cuts

/-- If it is cut off to take down stacks, some have been taken down, and it is cut off in the
turn of the next one. -/
theorem cuts_decommission_all {doomed : List Stack}
    (cuts : a.Cuts b (doomed.forM p.decommission) tr) :
    ∃ front x back done rest, doomed = front ++ x :: back ∧ tr = done ++ rest ∧
      a.Runs b (front.forM p.decommission) done (.ok ()) ∧ a.Cuts b (p.decommission x) rest := by
  induction doomed generalizing tr with
  | nil => cases cuts
  | cons x doomed ih =>
    rcases Action.cuts_interpret_bind.mp cuts with here | ⟨tr₁, ⟨⟩, tr₂, rfl, gone, later⟩
    · exact ⟨[], x, doomed, [], tr, rfl, rfl, .done _, here⟩
    · obtain ⟨front, y, back, done, rest, rfl, rfl, passed, stuck⟩ := ih later
      refine ⟨x :: front, y, back, tr₁ ++ done, rest, rfl, (List.append_assoc ..).symm, ?_, stuck⟩
      exact Action.runs_interpret_bind.mpr (.inr ⟨tr₁, (), done, rfl, gone, passed⟩)

theorem drainsFirst_of_run (scaled : a.scaler = some s) {doomed : List Stack}
    (named : ∀ x ∈ doomed, stackName s.cluster (Tags.decode x.tags) = x.name)
    {first rest : List (Exchange ((Client τ).sum Converting))}
    (silent : deletionCalls (ofFirst first) = []) {r : Except Error PUnit}
    (run : a.Runs b (doomed.forM p.decommission) rest r) :
    DrainsFirst a b p s.timeout doomed first (first ++ rest) r where
  drained := by
    intro before e after arguments split deletes
    rw [ofFirst_append] at split
    rcases split_append split with ⟨back, inside⟩ | ⟨later, rfl, inside⟩
    · have mem : e ∈ ofFirst first := inside ▸ List.mem_append_right _ List.mem_cons_self
      cases deletes.symm.trans (List.filterMap_eq_nil_iff.mp silent e mem)
    · obtain ⟨front, x, back, done, turn, parts, arguments_eq, passed, rfl, emptied⟩ :=
        deletion_after_emptied scaled named run inside deletes
      exact ⟨front, x, back, done, turn, parts, arguments_eq, passed,
        (List.append_assoc ..).symm, emptied⟩
  stops := by
    intro front x back done others parts whole passed full
    subst parts
    rw [List.append_assoc, List.append_cancel_left_eq] at whole
    subst whole
    exact stops_of_full scaled
      (named x (List.mem_append_right _ List.mem_cons_self)) run passed full

/-! ## A whole pass -/

/-- What a pass asks before it takes down the first stack: the list of the stacks of the cluster
and, if there is anything to take down, that this is recorded. -/
def Opens (a : Attendants) (b : Backend) (p : Provisioner) (listed : List Stack)
    (first : List (Exchange ((Client τ).sum Converting))) : Prop :=
  ∃ listing, a.Runs b (Service.list (Tags.owner p.cluster.id)) listing (.ok listed) ∧
    (first = listing ∨ ∃ record, first = listing ++ [Exchange.inFirst (noted record)])

section

variable {listed : List Stack} {first : List (Exchange ((Client τ).sum Converting))}

theorem runs_of_runs_list {tags : Tags} {r : Except Error (List Stack)}
    (run : a.Runs b (Service.list tags) tr r) : Prog.Runs (b.list tags).outcome (ofFirst tr) r := by
  obtain ⟨es, ran, rfl⟩ := runs_over_cloud run
  rw [ofFirst_map_inFirst]
  exact ran

/-- Nothing is deleted before the first stack is taken down. -/
theorem Opens.silent (opens : Opens a b p listed first) : deletionCalls (ofFirst first) = [] := by
  obtain ⟨listing, found, rfl | ⟨record, rfl⟩⟩ := opens
  · exact (b.silent_list _).runs (runs_of_runs_list found)
  · have silent : deletionCalls (ofFirst listing) = [] :=
      (b.silent_list _).runs (runs_of_runs_list found)
    rw [ofFirst_append, deletionCalls_append, silent]
    rfl

theorem Opens.holdAll (opens : Opens a b p listed first) (mem : x ∈ listed) :
    Tags.holdAll x.tags (Tags.owner p.cluster.id) = true := by
  obtain ⟨listing, found, -⟩ := opens
  exact Backend.holdAll_of_list (runs_of_runs_list found) mem

/-- A pass that comes to an end fails to list, or takes down the orphans of what is listed. -/
theorem runs_over_reconcile (run : a.Runs b p.reconcile tr r) :
    (∃ e, r = .error e ∧ a.Runs b (Service.list (Tags.owner p.cluster.id)) tr (.error e)) ∨
    ∃ listed first rest, Opens a b p listed first ∧ tr = first ++ rest ∧
      a.Runs b ((orphans listed p.cluster.pools).forM p.decommission) rest r := by
  rcases Action.runs_interpret_bind.mp run with failed | ⟨listing, listed, later, rfl, found, taken⟩
  · exact .inl failed
  dsimp only at taken
  split at taken
  · obtain ⟨record, rest, rfl, takes⟩ := runs_over_log_bind taken
    exact .inr ⟨listed, _, rest, ⟨listing, found, .inr ⟨record, rfl⟩⟩,
      (List.append_assoc listing [_] rest).symm, takes⟩
  · exact .inr ⟨listed, listing, later, ⟨listing, found, .inl rfl⟩, rfl, taken⟩

/-- A pass that is cut off is so while it lists, or while it takes down the orphans of what is
listed. -/
theorem cuts_over_reconcile (cuts : a.Cuts b p.reconcile tr) :
    a.Cuts b (Service.list (Tags.owner p.cluster.id)) tr ∨
    ∃ listed first rest, Opens a b p listed first ∧ tr = first ++ rest ∧
      a.Cuts b ((orphans listed p.cluster.pools).forM p.decommission) rest := by
  rcases Action.cuts_interpret_bind.mp cuts with here | ⟨listing, listed, later, rfl, found, taken⟩
  · exact .inl here
  dsimp only at taken
  split at taken
  · obtain ⟨record, rest, rfl, takes⟩ := cuts_over_log_bind taken
    exact .inr ⟨listed, _, rest, ⟨listing, found, .inr ⟨record, rfl⟩⟩,
      (List.append_assoc listing [_] rest).symm, takes⟩
  · exact .inr ⟨listed, listing, later, ⟨listing, found, .inl rfl⟩, rfl, taken⟩

end

/-- Let a pass of reconciling over the clients scale with the scaler for its cluster, and let
it list stacks that are live after any runs of this library, of which none carried the tags of
the cluster at the start.  Whatever the clients answer and however long they take, the pass
either fails to list and deletes nothing, or drains before it deletes.  It comes to an end
unless there are more pages than may be read, or it drains before it deletes up to a stack
whose scaling group is still busy after as many looks as may be, all before the deadline. -/
theorem reconcile_drains_before_deleting {σ : Type} (a : Attendants) (b : Backend)
    (p : Provisioner) (s : Scaler) (scaled : a.scaler = some s)
    (same : s.cluster.id = p.cluster.id) {world : Handler Service σ} {live : σ → List Stack}
    (only : OnlyApplied world live) {runs : List Cluster} {start now : σ}
    {past : List (Nat × Exchange Service)}
    (fresh : ∀ x ∈ live start, Tags.holdAll x.tags (Tags.owner p.cluster.id) = false)
    (reached : Shared world runs start past now)
    {tr : List (Exchange ((Client τ).sum Converting))}
    (lives : ∀ listed first rest, Opens a b p listed first → tr = first ++ rest →
      Lives listed (live now)) :
    (∀ r, a.Runs b p.reconcile tr r →
      (∃ e, r = .error e ∧ a.Runs b (Service.list (Tags.owner p.cluster.id)) tr (.error e) ∧
        deletionCalls (ofFirst tr) = []) ∨
      ∃ listed first rest, Opens a b p listed first ∧ tr = first ++ rest ∧
        DrainsFirst a b p s.timeout (orphans listed p.cluster.pools) first tr r) ∧
    (a.Cuts b p.reconcile tr →
      (pagesAsked (ofFirst tr) = b.looks ∧ deletionCalls (ofFirst tr) = []) ∨
      ∃ listed first front x back done rest, Opens a b p listed first ∧
        orphans listed p.cluster.pools = front ++ x :: back ∧ tr = first ++ done ++ rest ∧
        a.Runs b (front.forM p.decommission) done (.ok ()) ∧
        DrainsFirst a b p s.timeout front first (first ++ done) (.ok ()) ∧
        StillBusy s.timeout x.name b.looks (ofFirst rest) ∧
        deletionCalls (ofFirst rest) = []) := by
  have named {listed : List Stack} {first rest : List (Exchange ((Client τ).sum Converting))}
      (opens : Opens a b p listed first) (split : tr = first ++ rest) :
      ∀ x ∈ orphans listed p.cluster.pools,
        stackName s.cluster (Tags.decode x.tags) = x.name := by
    intro x mem
    have inside : x ∈ listed := (List.mem_filter.mp mem).1
    have applied : ∀ y ∈ live now, Tags.holdAll y.tags (Tags.owner s.cluster.id) = true →
        AppliedFor runs s.cluster.id y := by
      intro y there owned
      rw [same] at owned ⊢
      exact reached.appliedFor only fresh there owned
    refine name_eq_of_listed applied (lives listed first rest opens split) inside ?_
    rw [same]
    exact opens.holdAll inside
  refine ⟨fun r run => ?_, fun cuts => ?_⟩
  · rcases runs_over_reconcile run with ⟨e, rfl, failed⟩ | ⟨listed, first, rest, opens, rfl, taken⟩
    · exact .inl ⟨e, rfl, failed, (b.silent_list _).runs (runs_of_runs_list failed)⟩
    · exact .inr ⟨listed, first, rest, opens, rfl,
        drainsFirst_of_run scaled (named opens rfl) opens.silent taken⟩
  · rcases cuts_over_reconcile cuts with here | ⟨listed, first, rest, opens, split, taken⟩
    · obtain ⟨es, listing, rfl⟩ := cuts_over_cloud here
      rw [ofFirst_map_inFirst]
      exact .inl ⟨b.pagesAsked_of_cuts_list listing, (b.silent_list _).cuts listing⟩
    · have names := named opens split
      obtain ⟨front, x, back, done, rest, parts, rfl, passed, stuck⟩ := cuts_decommission_all taken
      obtain ⟨busy, silent⟩ := stillBusy_of_cuts scaled stuck
      rw [names x (parts ▸ List.mem_append_right _ List.mem_cons_self)] at busy
      have drains := drainsFirst_of_run scaled
        (fun y mem => names y (parts ▸ List.mem_append_left _ mem)) opens.silent passed
      exact .inr ⟨listed, first, front, x, back, done, rest, opens, parts,
        split.trans (List.append_assoc ..).symm, passed, drains, busy, silent⟩

/-! ## The pass of one cluster -/

/-- What answers a client when one stack is listed, whose scaling group has a machine at the
first look and none at the second.  The clock goes on with every request. -/
def shrinking (past : Nat) : (op : ClientOp Number) → op.Answer
  | .call _ method _ =>
    if method = "describe_stack_resources" then
      Except.ok (.table [("StackResources", .list [.table [("PhysicalResourceId", .text "old")]])])
    else if method = "describe_auto_scaling_groups" then
      Except.ok (.table [("AutoScalingGroups", .list [.table
        [("Instances", .list (if past < 12 then [.text "machine"] else []))]])])
    else Except.ok (.table [])
  | .page _ number =>
    Except.ok (if number = 0 then some (.table [("Stacks", .list [.table
      [("StackName", .text "nodepool-old-kube"), ("StackStatus", .text "CREATE_COMPLETE"),
        ("Tags", .list ((Tags.encode "kube" (.identified "old" "worker")).map fun (k, v) =>
          .table [("Key", .text k), ("Value", .text v)]))]])]) else none)
  | .now => Number.whole past
  | .connect .. | .reuse .. | .paginate .. | .waiter .. | .sleep _ | .log _ => ()

/-- The name of a stack that a request deletes. -/
def deletedName? : ClientOp Number → Option String
  | .call _ "delete_stack" [("StackName", .text name)] => some name
  | _ => none

/-- A world of clients that counts its requests and remembers what was deleted. -/
def remembering : Handler ((Client Number).sum Converting) (Nat × List String)
  | .inl op, (past, gone) => (shrinking past op, past + 1, gone ++ (deletedName? op).toList)
  | .inr (.find _), s => (true, s)
  | .inr (.run ..), s => (RunOutcome.timedOut, s)
  | .inr (.log _), s => ((), s)

/-- Attendants of a cluster of which one pool is left, with the scaler for it. -/
def withScaler : Attendants where
  prices := ⟨[]⟩
  converter := .standard
  scaler := some ⟨(oneWorker "kube" "plain").cluster, .whole 1, .whole 900⟩

/-- The stacks that were listed without an error. -/
def listed? : Option (Except Error (List Stack)) → Option (List Stack)
  | some (.ok listed) => some listed
  | _ => none

/-- What a listing gives in a world is what it gives when it is run there. -/
theorem eq_of_listed? {a : Attendants} {b : Backend} {tags : Tags} {s s' : Nat × List String}
    {listing rest : List (Exchange ((Client Number).sum Converting))} {listed known : List Stack}
    (told :
      listed? ((a.overPrograms b (Service.list tags).outcome).run remembering s).1 = some known)
    (plays : remembering.Plays s (listing ++ rest) s')
    (run : a.Runs b (Service.list tags) listing (.ok listed)) : listed = known := by
  obtain ⟨mid, here, -⟩ := Handler.plays_append.mp plays
  rw [Prog.run_eq_some_iff.mpr ⟨listing, run, here⟩] at told
  exact Option.some.inj told

set_option maxRecDepth 100000 in
/-- The stack of a pool that is no longer desired is drained and deleted. -/
theorem oneWorker_drains_old : ∃ tr r s' listed first,
    withScaler.Runs ⟨.text "eu-central-1", 5⟩ (oneWorker "kube" "plain").reconcile tr r ∧
    remembering.Plays (0, []) tr s' ∧ s'.2 = ["nodepool-old-kube"] ∧
    DrainsFirst withScaler ⟨.text "eu-central-1", 5⟩ (oneWorker "kube" "plain") (.whole 900)
      (orphans listed (oneWorker "kube" "plain").cluster.pools) first tr r := by
  let b : Backend := ⟨.text "eu-central-1", 5⟩
  let old := oneWorker "kube" "old"
  let p := oneWorker "kube" "plain"
  obtain ⟨made, provisioned⟩ := provisions_of_run
    (run_of_wentWell (old.provision []).outcome tending [] (by decide +kernel))
  have reached := (Shared.start tending []).next (.provision rfl provisioned) List.prefix_rfl
    provisioned.plays
  have live : liveAfter old [] = [⟨"nodepool-old-kube",
      Tags.encode "kube" (.identified "old" "worker"), "CREATE_COMPLETE"⟩] := by decide +kernel
  have known : listed? ((withScaler.overPrograms b (Service.list (Tags.owner "kube")).outcome).run
      remembering (0, [])).1 = some [⟨"nodepool-old-kube",
        Tags.encode "kube" (.identified "old" "worker"), "CREATE_COMPLETE"⟩] := by decide +kernel
  have ended := run_of_wentWell (withScaler.overPrograms b p.reconcile.outcome) remembering (0, [])
    (by decide +kernel)
  have gone : ((withScaler.overPrograms b p.reconcile.outcome).run remembering (0, [])).2.2 =
      ["nodepool-old-kube"] := by decide +kernel
  obtain ⟨tr, run, plays⟩ := Prog.run_eq_some_iff.mp ended
  have lives : ∀ listed first rest, Opens withScaler b p listed first → tr = first ++ rest →
      Lives listed (liveAfter old []) := by
    rintro listed first rest ⟨listing, found, which⟩ rfl x mem
    have split : ∃ more, first = listing ++ more := by
      rcases which with rfl | ⟨record, rfl⟩
      · exact ⟨[], (List.append_nil _).symm⟩
      · exact ⟨_, rfl⟩
    obtain ⟨more, rfl⟩ := split
    rw [List.append_assoc] at plays
    rw [eq_of_listed? known plays found] at mem
    exact ⟨x, live ▸ mem, rfl, fun _ => rfl⟩
  rcases (reconcile_drains_before_deleting withScaler b p _ rfl rfl keeps_tending.onlyApplied
    (fun x (mem : x ∈ []) => (nomatch mem)) reached lives).1 _ run
    with ⟨e, failed, -⟩ | ⟨listed, first, rest, -, -, drains⟩
  · cases failed
  · exact ⟨tr, _, _, listed, first, run, plays, gone, drains⟩

end NodePools.Aws
