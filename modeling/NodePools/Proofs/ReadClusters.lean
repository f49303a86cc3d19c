import Mathlib.Data.List.Forall2
import NodePools.Proofs.Attempt
import NodePools.Proofs.ConfigErrors

/-!
# Clusters that were read

What is read as a cluster can be relied on (`read_clusters`): it has an identifier and a region,
its pools are read from the entries one for one (`ReadPool`), and they have names, no two of them
the same.  So a document in which two entries have a name in common is not read, also where one
name is a number and the other one the text of this number.

A value that counts as given has a text that is not empty (`written_ne_empty`), whatever kind of
value it is, and this is why names are never empty.  A strategy that was read is one of two, and
this is why a price is never refused for its strategy (`priced_of_runs`).
-/

namespace NodePools

/-! ## Texts that are not empty -/

theorem append_ne_empty_left {s : String} (nonempty : s ≠ "") (t : String) : s ++ t ≠ "" :=
  fun empty => nonempty (String.append_eq_empty_iff.mp empty).1

theorem append_ne_empty_right (s : String) {t : String} (nonempty : t ≠ "") : s ++ t ≠ "" :=
  fun empty => nonempty (String.append_eq_empty_iff.mp empty).2

theorem ofList_ne_empty {cs : List Char} (nonempty : cs ≠ []) : String.ofList cs ≠ "" :=
  fun empty => nonempty (String.ofList_eq_empty_iff.mp empty)

theorem toString_ne_empty (n : Int) : toString n ≠ "" := by
  cases n with
  | ofNat m => exact Nat.repr_ne_empty
  | negSucc m => exact append_ne_empty_left (by decide) _

theorem zeroPadded_ne_empty (width n : Nat) : zeroPadded width n ≠ "" :=
  ofList_ne_empty (List.append_ne_nil_of_right_ne_nil _ Nat.toDigits_ne_nil)

namespace Decimal

theorem plain_ne_empty (digits : List Char) (power : Int) :
    doubleLayout.plain digits power ≠ "" := by
  rw [Layout.plain]
  split
  · exact append_ne_empty_right _ (by decide)
  · dsimp only
    split
    · exact ofList_ne_empty (List.append_ne_nil_of_right_ne_nil _ (List.cons_ne_nil _ _))
    · exact ofList_ne_empty (List.cons_ne_nil _ _)

theorem scientific_ne_empty (digits : List Char) (leading : Int) :
    doubleLayout.scientific digits leading ≠ "" := by
  refine append_ne_empty_right _ ?_
  exact append_ne_empty_left (append_ne_empty_left (by decide) _) _

theorem text_ne_empty (x : Float) : text x ≠ "" := by
  rw [text, Layout.write.eq_def]
  split
  · decide
  · exact append_ne_empty_right _ (by decide)
  · exact append_ne_empty_right _ (by decide)
  · refine append_ne_empty_right _ ?_
    split
    · exact plain_ne_empty _ _
    · exact scientific_ne_empty _ _

end Decimal

theorem Moment.text_ne_empty (m : Moment) : m.text ≠ "" := by
  have dated (d : Date) : d.text ≠ "" := append_ne_empty_right _ (zeroPadded_ne_empty 2 d.day)
  cases m with
  | date d => exact dated d
  | clock c =>
    exact append_ne_empty_left (append_ne_empty_right _ (zeroPadded_ne_empty 2 c.second)) _
  | both d c offset =>
    exact append_ne_empty_left (append_ne_empty_left (append_ne_empty_left (dated d) _) _) _

/-- What counts as given has a text that is not empty. -/
theorem written_ne_empty {d : Datum} {s : String} (given : d.truthy = true)
    (written : d.written = .ok s) : s ≠ "" := by
  rw [Datum.written] at written
  split at written
  · obtain rfl := Except.ok.inj written
    cases d with
    | null => cases given
    | bool b =>
      cases given
      decide
    | whole n => exact toString_ne_empty n
    | real x => exact Decimal.text_ne_empty x
    | text s =>
      rintro rfl
      cases given
    | bytes b => exact ofList_ne_empty (List.cons_ne_nil _ _)
    | moment m => exact m.text_ne_empty
    | list items => exact append_ne_empty_right _ (by decide)
    | table fields => exact append_ne_empty_right _ (by decide)
  · cases written

/-! ## Prices -/

/-- What the price of a pool comes to.  Without discount there is none, and nothing is asked.  Else
a table of prices is asked once for the type: there is a price, or the type is not known, or there
is no price in the region, and where the table itself fails, so does this. -/
inductive Priced (pool : NodePool) (region : String) :
    List (Exchange Service) → Except Error Datum → Prop
  | free : pool.discountStrategy = .none → Priced pool region [] (.ok (.text ""))
  | price {info : InstanceInfo} {price : Datum} : pool.discountStrategy = .spotMaxPrice →
    info.pricing.get? region = some price → price ≠ .null →
    Priced pool region [.site (.instanceInfo pool.instanceType) (.ok (some info))] (.ok price)
  | unknown : pool.discountStrategy = .spotMaxPrice →
    Priced pool region [.site (.instanceInfo pool.instanceType) (.ok none)]
      (.error (.config (.unknownInstanceType pool.instanceType)))
  | missing {info : InstanceInfo} : pool.discountStrategy = .spotMaxPrice →
    (∀ price, info.pricing.get? region = some price → price = .null) →
    Priced pool region [.site (.instanceInfo pool.instanceType) (.ok (some info))]
      (.error (.config (.noPrice region pool.instanceType)))
  | failed (e : Error) : pool.discountStrategy = .spotMaxPrice →
    Priced pool region [.site (.instanceInfo pool.instanceType) (.error e)] (.error e)

theorem priced_of_runs {pool : NodePool} {region : String} {tr : List (Exchange Service)}
    {r : Except Error Datum}
    (known : pool.discountStrategy = .none ∨ pool.discountStrategy = .spotMaxPrice)
    (run : Prog.Runs (spotPrice pool region).outcome tr r) : Priced pool region tr r := by
  rcases known with none | bids
  · rw [spotPrice, none] at run
    obtain ⟨rfl, rfl⟩ := Action.runs_pure.mp run
    exact .free none
  · rw [spotPrice, bids] at run
    rcases Action.runs_bind.mp run with ⟨e, rfl, asked⟩ | ⟨tr₁, info, tr₂, rfl, asked, priced⟩
    · obtain rfl := Prog.runs_request.mp asked
      exact .failed e bids
    · obtain rfl := Prog.runs_request.mp asked
      obtain ⟨rfl, rfl⟩ := Action.runs_ofExcept.mp priced
      cases info with
      | none => exact .unknown bids
      | some info =>
        rw [onDemandPrice]
        split
        next absent => exact .missing bids fun price found => nomatch absent.symm.trans found
        next nothing =>
          exact .missing bids fun price found => (Option.some.inj (nothing.symm.trans found)).symm
        next price given found => exact .price bids found given

/-! ## Pools -/

/-- A table with a text for a name, which may have been written as another value. -/
def HasName (d : Datum) (name : String) : Prop :=
  ∃ data, d = .table data ∧ (Config.given data "name").written = .ok name

/-- A strategy that is read is one of the two. -/
theorem strategy_of_read {d : Option Datum} {strategy : DiscountStrategy}
    (read : DiscountStrategy.ofDatum d = .ok strategy) :
    strategy = .none ∨ strategy = .spotMaxPrice := by
  rw [DiscountStrategy.ofDatum.eq_def] at read
  split at read
  · exact .inl (Except.ok.inj read).symm
  · exact .inl (Except.ok.inj read).symm
  · exact .inl (Except.ok.inj read).symm
  next s _ =>
    by_cases none : s = "none"
    · rw [DiscountStrategy.ofName, if_pos none] at read
      exact .inl (Except.ok.inj read).symm
    · by_cases bids : s = "spot_max_price"
      · rw [DiscountStrategy.ofName, if_neg none, if_pos bids] at read
        exact .inr (Except.ok.inj read).symm
      · rw [DiscountStrategy.ofName, if_neg none, if_neg bids] at read
        cases read
  · split at read <;> cases read

/-- What a pool that was read is. -/
structure ReadPool (d : Datum) (p : NodePool) : Prop where
  read : NodePool.ofDatum d = .ok p
  name : HasName d p.name
  name_ne : p.name ≠ ""
  strategy : p.discountStrategy = .none ∨ p.discountStrategy = .spotMaxPrice
  /-- What the pool bids is told in every region, whatever a table of prices tells. -/
  priced (region : String) : Prog.Uncut (spotPrice p region).outcome ∧
    ∀ tr r, Prog.Runs (spotPrice p region).outcome tr r → Priced p region tr r

theorem readPool_of_ofDatum {d : Datum} {p : NodePool} (read : NodePool.ofDatum d = .ok p) :
    ReadPool d p := by
  have whole := read
  obtain ⟨data, table, read⟩ := bind_eq_ok.mp read
  obtain rfl := Config.entries_eq_ok.mp (Config.read_eq_ok.mp table)
  change NodePool.ofTable data = .ok p at read
  rw [NodePool.ofTable] at read
  dsimp only at read
  split at read
  · cases read
  next named =>
    have named : (Config.given data "name").truthy = true := by simpa [Config.given] using named
    simp only [bind_eq_ok, Config.read_eq_ok] at read
    obtain ⟨name, written, _, -, _, -, strategy, known, _, -, _, -, made⟩ := read
    cases made
    exact ⟨whole, ⟨data, rfl, written⟩, written_ne_empty named written, strategy_of_read known,
      fun region => ⟨Attempt.uncut_spotPrice _ region,
        fun _ _ => priced_of_runs (strategy_of_read known)⟩⟩

/-! ## Clusters -/

/-- The entries from which the pools of a cluster are read, none if none are given. -/
def poolEntries (data : Fields Datum) : Except Fault (List Datum) :=
  ((data.get? "node_pools").getD (.list [])).items

/-- What a cluster that was read from a table is. -/
structure ReadCluster (data : Fields Datum) (c : Cluster) : Prop where
  id_ne : c.id ≠ ""
  region_ne : c.region ≠ ""
  /-- The pools are read from the entries one for one, in their order. -/
  pools : ∃ entries, poolEntries data = .ok entries ∧ List.Forall₂ ReadPool entries c.pools
  names_distinct : (c.pools.map NodePool.name).Nodup

theorem forall₂_of_mapM {ε α β : Type} {f : α → Except ε β} {items : List α} {made : List β}
    (read : items.mapM f = .ok made) : List.Forall₂ (fun a b => f a = .ok b) items made := by
  induction items generalizing made with
  | nil =>
    cases read
    exact .nil
  | cons a rest ih =>
    rw [List.mapM_cons] at read
    obtain ⟨b, first, read⟩ := bind_eq_ok.mp read
    obtain ⟨others, later, read⟩ := bind_eq_ok.mp read
    cases read
    exact .cons first (ih later)

theorem required_eq_ok {data : Fields Datum} {key : String} {d : Datum} :
    Cluster.required data key = .ok d ↔ d = Config.given data key ∧ d.truthy = true := by
  rw [Cluster.required, ← Config.given]
  split
  next there =>
    rw [Except.ok.injEq]
    refine ⟨?_, fun h => h.1.symm⟩
    rintro rfl
    exact ⟨rfl, there⟩
  next absent =>
    refine ⟨fun read => ?_, fun h => absurd (h.1 ▸ h.2) absent⟩
    cases read

theorem make_eq_ok {id region : String} {pools : List NodePool} {c : Cluster}
    (made : (Cluster.make id region pools).mapError Error.config = .ok c) :
    c.id = id ∧ c.region = region ∧ c.pools = pools := by
  unfold Cluster.make at made
  split at made
  · cases made
  · cases made
    exact ⟨rfl, rfl, rfl⟩

theorem readCluster_of_ofTable {data : Fields Datum} {c : Cluster}
    (read : Cluster.ofTable data = .ok c) : ReadCluster data c := by
  simp only [Cluster.ofTable, bind_eq_ok, Config.read_eq_ok, required_eq_ok] at read
  obtain ⟨id, ⟨-, id_there⟩, region, ⟨-, region_there⟩, entries, listed, pools, each, _, id_written,
    _, region_written, made⟩ := read
  obtain ⟨rfl, rfl, rfl⟩ := make_eq_ok made
  exact ⟨written_ne_empty id_there id_written, written_ne_empty region_there region_written,
    ⟨entries, listed, (forall₂_of_mapM each).imp fun _ _ => readPool_of_ofDatum⟩, c.distinct⟩

theorem HasName.unique {d : Datum} {name other : String} (one : HasName d name)
    (two : HasName d other) : name = other := by
  obtain ⟨data, rfl, written⟩ := one
  obtain ⟨_, ⟨⟩, again⟩ := two
  exact Except.ok.inj (written.symm.trans again)

theorem exists_pool {entries : List Datum} {pools : List NodePool}
    (read : List.Forall₂ ReadPool entries pools) {d : Datum} (mem : d ∈ entries) :
    ∃ p ∈ pools, ReadPool d p := by
  induction read with
  | nil => cases mem
  | @cons a p entries pools first rest ih =>
    rcases List.mem_cons.mp mem with rfl | mem
    · exact ⟨p, List.mem_cons_self, first⟩
    · obtain ⟨q, there, read⟩ := ih mem
      exact ⟨q, List.mem_cons_of_mem p there, read⟩

/-- Where pools have distinct names, so have the entries from which they were read. -/
theorem names_apart {entries : List Datum} {pools : List NodePool}
    (read : List.Forall₂ ReadPool entries pools) (distinct : (pools.map NodePool.name).Nodup) :
    entries.Pairwise fun a b => ∀ name, HasName a name → ¬HasName b name := by
  induction read with
  | nil => exact .nil
  | @cons a p entries pools first rest ih =>
    obtain ⟨fresh, others⟩ := List.nodup_cons.mp distinct
    refine List.pairwise_cons.mpr ⟨fun b mem name one two => fresh ?_, ih others⟩
    obtain ⟨q, there, second⟩ := exists_pool rest mem
    rw [first.name.unique one, ← second.name.unique two]
    exact List.mem_map_of_mem there

/-- A table is read as a cluster whose pools have names of their own, and one in which two entries
have a name in common is not read. -/
theorem read_clusters :
    (∀ d c, Cluster.ofDatum d = .ok c → ∃ data, d = .table data ∧ ReadCluster data c) ∧
    ∀ data entries a b name, poolEntries data = .ok entries → [a, b].Sublist entries →
      HasName a name → HasName b name → ∃ e, Cluster.ofDatum (.table data) = .error e := by
  constructor
  · intro d c read
    obtain ⟨data, table, read⟩ := bind_eq_ok.mp read
    obtain rfl := Config.entries_eq_ok.mp (Config.read_eq_ok.mp table)
    exact ⟨data, rfl, readCluster_of_ofTable read⟩
  · intro data entries a b name listed both one two
    change ∃ e, Cluster.ofTable data = .error e
    cases read : Cluster.ofTable data with
    | error e => exact ⟨e, rfl⟩
    | ok c =>
      obtain ⟨again, same, pools⟩ := (readCluster_of_ofTable read).pools
      obtain rfl := Except.ok.inj (listed.symm.trans same)
      have apart := names_apart pools c.distinct
      exact absurd two (List.pairwise_iff_forall_sublist.mp apart both name one)

/-- The table of a cluster with two pools under two names. -/
def twoPools (first second : Datum) : Fields Datum :=
  [("id", .text "kube"), ("region", .text "r"), ("node_pools", .list
    [.table [("name", first)], .table [("name", second),
      ("discount_strategy", .text "spot_max_price")]])]

/-- A number and a text can be one name. -/
theorem twoPools_read_or_clash :
    (∃ c, Cluster.ofDatum (.table (twoPools (.whole 1) (.text "2"))) = .ok c ∧
      ReadCluster (twoPools (.whole 1) (.text "2")) c) ∧
    ∃ e, Cluster.ofDatum (.table (twoPools (.whole 1) (.text "1"))) = .error e := by
  refine ⟨?_, ?_⟩
  · have read : (Cluster.ofDatum (.table (twoPools (.whole 1) (.text "2")))).toOption.isSome := by
      decide +kernel
    cases made : Cluster.ofDatum (.table (twoPools (.whole 1) (.text "2"))) with
    | error e =>
      rw [made] at read
      cases read
    | ok c =>
      obtain ⟨_, same, well⟩ := read_clusters.1 _ c made
      obtain rfl := Datum.table.inj same
      exact ⟨c, rfl, well⟩
  · have number : (Datum.whole 1).written = .ok "1" := if_pos (by decide +kernel)
    exact read_clusters.2 _ _ _ _ "1" rfl (List.Sublist.refl _) ⟨_, rfl, number⟩ ⟨_, rfl, rfl⟩

end NodePools
