import NodePools.Proofs.BootReference
import NodePools.Proofs.Regions

/-!
# The price that a pool bids

A pool that bids for spare capacity bids the price on demand in the region of its cluster, and
fails before anything is asked of stacks if there is none.  Its stack is made in the region of the
settings, which is that of the cluster only if the settings name no other one
(`bids_in_cluster_region`).
-/

namespace NodePools

/-- A table has a price for an instance type in a region. -/
def PriceTable.Charges (table : PriceTable) (instanceType region : String) (price : Datum) : Prop :=
  price ≠ .null ∧
    ∃ info, table.find? instanceType = some info ∧ info.pricing.get? region = some price

theorem onDemandPrice_eq_ok {table : PriceTable} {instanceType region : String} {price : Datum} :
    onDemandPrice (table.find? instanceType) instanceType region = .ok price ↔
      table.Charges instanceType region price := by
  rw [PriceTable.Charges]
  unfold onDemandPrice
  cases table.find? instanceType with
  | none => exact ⟨nofun, fun ⟨_, _, absent, _⟩ => nomatch absent⟩
  | some info =>
    dsimp only
    split
    next absent =>
      refine ⟨nofun, ?_⟩
      rintro ⟨-, _, ⟨⟩, found⟩
      cases absent.symm.trans found
    next void =>
      refine ⟨nofun, ?_⟩
      rintro ⟨given, _, ⟨⟩, found⟩
      cases void.symm.trans found
      exact absurd rfl given
    next listed given found =>
      constructor
      · rintro ⟨⟩
        exact ⟨given, info, rfl, found⟩
      · rintro ⟨-, _, ⟨⟩, found'⟩
        cases found.symm.trans found'
        rfl

namespace Attempt

variable {p : Provisioner} {values : Values} {pool : NodePool} {steps passed : List Step}
  {g last : Progress} {cs : List (Exchange Service)} {r : Except Error Progress}
  {failure : Option Error} {table : PriceTable}

/-- What is known of instance types is told by a table. -/
def ToldBy (table : PriceTable) (cs : List (Exchange Service)) : Prop :=
  ∀ instanceType answer, .site (.instanceInfo instanceType) answer ∈ cs →
    answer = .ok (table.find? instanceType)

theorem ToldBy.left {later : List (Exchange Service)} (told : ToldBy table (cs ++ later)) :
    ToldBy table cs :=
  fun instanceType answer mem => told instanceType answer (List.mem_append_left later mem)

/-- A pool that bids looks its instance type up, and takes the price for the region of the cluster
or fails without one. -/
theorem Takes.of_price (bids : pool.discountStrategy.name = "spot_max_price")
    (takes : Takes p values pool .price g cs r) (told : ToldBy table cs) :
    cs = [.site (.instanceInfo pool.instanceType) (.ok (table.find? pool.instanceType))] ∧
      ((∃ price, table.Charges pool.instanceType p.cluster.region price ∧
          r = .ok { g with price }) ∨
        ∃ e, (∀ price, ¬table.Charges pool.instanceType p.cluster.region price) ∧
          r = .error (.config e)) := by
  cases takes with
  | unpriced _ none => exact absurd (none.symm.trans bids) (by decide)
  | unknownStrategy _ _ other => exact absurd bids other
  | priced _ answer =>
    obtain rfl := told _ _ (List.mem_singleton_self _)
    refine ⟨rfl, ?_⟩
    cases found : onDemandPrice (table.find? pool.instanceType) pool.instanceType
        p.cluster.region with
    | ok price =>
      refine .inl ⟨price, onDemandPrice_eq_ok.mp found, ?_⟩
      simp only [bind, Except.bind, found]
      rfl
    | error e =>
      refine .inr ⟨e, fun price charges => ?_, ?_⟩
      · cases found.symm.trans (onDemandPrice_eq_ok.mpr charges)
      · simp only [bind, Except.bind, found]
        rfl

/-- A pool that bids comes beyond its price only with the one for the region of the cluster. -/
theorem Goes.charged (bids : pool.discountStrategy.name = "spot_max_price")
    (goes : Goes p values pool (.price :: steps) g passed cs last none) (later : .price ∉ steps)
    (told : ToldBy table cs) : table.Charges pool.instanceType p.cluster.region last.price := by
  cases goes with
  | @passed _ _ _ _ g' _ _ _ _ takes rest =>
    have kept : last.price = g'.price := rest.unchanged fun step mem _ _ _ takes =>
      takes.unchanged.price (ne_of_mem_of_not_mem mem later)
    obtain ⟨-, ⟨price, charges, made⟩ | ⟨e, -, failed⟩⟩ := takes.of_price bids told.left
    · cases made
      exact kept ▸ charges
    · cases failed

/-- A pool that bids fails at once without a price for the region of the cluster. -/
theorem Goes.not_charged (bids : pool.discountStrategy.name = "spot_max_price")
    (goes : Goes p values pool (.price :: steps) g passed cs last failure)
    (told : ToldBy table cs)
    (none : ∀ price, ¬table.Charges pool.instanceType p.cluster.region price) :
    cs = [.site (.instanceInfo pool.instanceType) (.ok (table.find? pool.instanceType))] ∧
      ∃ e, failure = some (.config e) := by
  cases goes with
  | stopped takes =>
    obtain ⟨asked, ⟨price, charges, -⟩ | ⟨e, -, failed⟩⟩ := takes.of_price bids told
    · exact absurd charges (none price)
    · cases failed
      exact ⟨asked, e, rfl⟩
  | passed takes rest =>
    obtain ⟨-, ⟨price, charges, -⟩ | ⟨e, -, failed⟩⟩ := takes.of_price bids told.left
    · exact absurd charges (none price)
    · cases failed

end Attempt

namespace Aws

open Attempt Stacks
open Prog (Runs)

variable {τ σ : Type} {b : Backend} {p : Provisioner} {values : Values}
  {answer : Handler ((Client τ).sum Site) σ} {s s' : σ} {pool : NodePool} {table : PriceTable}

/-- A document of a pool is what its template gives when the price that it sees is a given one. -/
def SeesPrice (p : Provisioner) (values : Values) (pool : NodePool) (price : Datum)
    (document : String) : Prop :=
  ∃ userData, templateText p pool Profiles.stackFile
    (Profiles.stackContext p.cluster pool (seen values price) userData) = .ok document

/-- The world tells prices by a table. -/
def TellsPrices (table : PriceTable) (answer : Handler ((Client τ).sum Site) σ) : Prop :=
  ∀ instanceType s,
    (answer (.inr (.instanceInfo instanceType)) s).1 = Except.ok (table.find? instanceType)

/-- In a world that tells prices by a table, what the attempts of a run know of instance types is
told by it. -/
theorem toldBy_of_plays {tr : List (Option Nat × Exchange ((Client τ).sum Site))}
    (plays : answer.Plays s (tr.map Prod.snd) s') (told : TellsPrices table answer)
    {i : Option Nat} {es : List (Exchange Service)}
    (kept : ∀ op known, Exchange.site op known ∈ es → ⟨.inr op, known⟩ ∈ own i tr) :
    ToldBy table (calls es) := by
  have heeds : ∀ e ∈ tr.map Prod.snd, ∀ instanceType known,
      e = ⟨.inr (.instanceInfo instanceType), known⟩ →
        known = Except.ok (table.find? instanceType) := by
    refine plays.forall_mem fun op s => ?_
    rintro instanceType known ⟨⟩
    exact told instanceType s
  intro instanceType known mem
  have asked := kept _ _ (List.mem_filter.mp mem).1
  exact heeds _ (List.mem_map_of_mem (mem_own.mp asked)) instanceType known rfl

/-- A method that makes a stack what a template says. -/
def Applying (method : String) : Prop := method = "create_stack" ∨ method = "update_stack"

variable [Seconds τ]

/-- In an attempt, a call that creates or updates a stack applies the stack of the pool, and carries
its document. -/
theorem apply_of_shows {a : Finished p values} {e : Exchange Service} (mem : e ∈ a.calls)
    {part : List (StackEvent τ)} (shows : Shows e part) {method : String}
    {arguments : Fields Datum} {reply : Except Error Datum}
    (inside : .call method arguments reply ∈ part) (applying : Applying method) :
    ∃ name document tags r, e = .cloud (.apply name document tags) r ∧
      Fields.get? "TemplateBody" arguments = some (.text document) := by
  obtain ⟨step, -, g, cs, r, takes, mem⟩ := a.goes.of_mem mem
  have silent (none : Shows e part → part = []) : ∃ name document tags r,
      e = .cloud (.apply name document tags) r ∧
        Fields.get? "TemplateBody" arguments = some (.text document) := by
    rw [none shows] at inside
    cases inside
  cases takes with
  | unpriced | unknownStrategy | userData | document => cases mem
  | priced | convert | bucketRefused =>
    obtain rfl := List.mem_singleton.mp mem
    exact silent id
  | publish =>
    rcases List.mem_cons.mp mem with rfl | mem
    · exact silent id
    · obtain rfl := List.mem_singleton.mp mem
      exact silent id
  | apply =>
    obtain rfl := List.mem_singleton.mp mem
    refine ⟨_, _, _, _, rfl, ?_⟩
    rcases Applies.of_mem shows inside with ⟨_, same, -⟩ | ⟨_, same, -⟩
    · obtain ⟨-, rfl, -⟩ := StackEvent.call.inj same
      rfl
    · obtain ⟨-, rfl, -⟩ := StackEvent.call.inj same
      rfl
  | wait =>
    obtain rfl := List.mem_singleton.mp mem
    rw [Applying, Awaits.method_of_mem shows inside] at applying
    exact absurd applying (by decide)

/-- In a run in which a table tells the prices, a pool that bids makes its stack with the price
for the region of the cluster, and fails without asking anything of stacks if there is none. -/
theorem Backend.Provisions.bids {r : Except Error Unit}
    {tr : List (Option Nat × Exchange ((Client τ).sum Site))}
    (run : b.Provisions p values answer s tr r s') (told : TellsPrices table answer)
    {i : Nat} (found : p.cluster.targets[i]? = some pool)
    (bids : pool.discountStrategy.name = "spot_max_price") :
    (∀ method arguments reply, .call method arguments reply ∈ eventsOf (own (some i) tr) →
      Applying method →
      ∃ price document, table.Charges pool.instanceType p.cluster.region price ∧
        SeesPrice p values pool price document ∧
        Fields.get? "TemplateBody" arguments = some (.text document)) ∧
    ((∀ price, ¬table.Charges pool.instanceType p.cluster.region price) →
      eventsOf (own (some i) tr) = [] ∧ ∃ e, Lists r pool (.config e)) := by
  obtain ⟨result, ran, -, lists⟩ := run.attempt found
  obtain ⟨es, made, shows, kept⟩ := runs_overClients b ran
  obtain ⟨passed, last, failure, goes, rfl⟩ := provisionPool_goes p values pool made
  have table_tells := toldBy_of_plays run.plays told kept
  refine ⟨fun method arguments reply inside applying => ?_, fun none => ?_⟩
  · obtain ⟨e, mem, part, of_e, inside⟩ := shows.of_mem inside
    let a : Finished p values := ⟨pool, passed, calls es, last, failure, goes⟩
    obtain ⟨name, document, tags, told, rfl, carries⟩ :=
      apply_of_shows (a := a) mem of_e inside applying
    -- what came before the stack was applied has settled the price
    obtain ⟨front, back, split⟩ := List.append_of_mem mem
    obtain ⟨-, -, last, rfl, goes⟩ := Finished.prepared (a := a) split
    have charged := goes.charged bids (by decide) (split ▸ table_tells).left
    exact ⟨last.price, last.document, charged, ⟨_, goes.prepares.2.2.2⟩, carries⟩
  · obtain ⟨asked, e, rfl⟩ := goes.not_charged bids table_tells none
    rw [asked] at shows
    exact ⟨shows.singleton, e, lists _ rfl⟩

/-- What is told of a request to the clients: the service and the region of a client that is made,
and the template with which a stack is created. -/
def notice : ClientOp Number → List (String × String)
  | .reuse service region => [(service, region.plain)]
  | .call _ method arguments =>
    if method = "create_stack" then
      [("TemplateBody", ((Fields.get? "TemplateBody" arguments).getD .null).plain)]
    else []
  | _ => []

/-- A world in which all goes well and the catalogue tells the prices.  Its state is what it was
asked. -/
def noting : Handler ((Client Number).sum Site) (List (String × String))
  | .inl op, past =>
    (answering (described "") (described "") (fun _ => described "CREATE_COMPLETE") 1 0 op,
      past ++ notice op)
  | .inr (.instanceInfo instanceType), past =>
    (Except.ok (PriceTable.catalogue.find? instanceType), past)
  | .inr op, past => (refusing "" (.inr op), past)

end Aws

end NodePools
