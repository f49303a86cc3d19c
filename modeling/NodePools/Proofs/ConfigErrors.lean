import NodePools.Config.Loading
import NodePools.Proofs.Contracts
import NodePools.Proofs.DoubleRange
import NodePools.Proofs.Utf8

/-!
# Which failures of a configuration are explained

A configuration that cannot be used should be refused with an error about the configuration
(`Explained`).  Where a reader takes a value for what it is not, there is a fault instead.  Each
part of a configuration has its own conditions under which there is none, told by the kinds of
values that stand in it, and they are exact (`explained_iff_typed`): reading a file is explained
if and only if its bytes are those of a text without oversized numbers (`Legible`), and the
three sections, which are always there, if and only if they are typed (`SettingsTyped`,
`ClusterTyped`, `ValuesTyped`).

Conditions stand where they come to bear.  What is refused first needs no more: a section with a
setting that is missing or unknown, a pool without a name, and whatever stands behind a pool or
a value that is refused.
-/

namespace NodePools.Config

/-! ## Explained failures -/

/-- An error is about the configuration. -/
def IsRefusal (e : Error) : Prop := ∃ c, e = .config c

/-- What is read is a value, or is refused with an error about the configuration. -/
abbrev Explained {α : Type} (r : Except Error α) : Prop := FailsBy IsRefusal r

section

variable {α β : Type}

instance : (r : Except Error α) → Decidable (Explained r)
  | .ok _ => isTrue failsBy_ok
  | .error (.config c) => isTrue (failsBy_error ⟨c, rfl⟩)
  | .error (.general _) | .error (.template ..) | .error (.publish _) | .error (.stack ..)
  | .error (.stackTimeout ..) | .error (.scaling _) | .error (.provisioning _)
  | .error (.conversion _) | .error (.client _) | .error (.waiter _) | .error (.fault _) =>
    isFalse fun h => nomatch h _ rfl

theorem explained_config (c : ConfigError) : Explained (.error (.config c) : Except Error α) :=
  failsBy_error ⟨c, rfl⟩

theorem not_explained_fault (f : Fault) : ¬Explained (.error (.fault f) : Except Error α) := by
  intro h
  obtain ⟨c, same⟩ := h _ rfl
  cases same

theorem explained_bind {x : Except Error α} {f : α → Except Error β} :
    Explained (x >>= f) ↔ Explained x ∧ ∀ a, x = .ok a → Explained (f a) :=
  failsBy_bind_iff

/-- A fault is never explained, so that what reads a value first has to succeed. -/
theorem explained_read_bind {x : Except Fault α} {f : α → Except Error β} :
    Explained ((liftM x : Except Error α) >>= f) ↔ ∃ a, x = .ok a ∧ Explained (f a) := by
  cases x with
  | error e => exact ⟨fun h => absurd h (not_explained_fault e), nofun⟩
  | ok a =>
    refine ⟨fun h => ⟨a, rfl, h⟩, ?_⟩
    rintro ⟨_, ⟨⟩, h⟩
    exact h

theorem read_eq_ok {x : Except Fault α} {a : α} :
    (liftM x : Except Error α) = .ok a ↔ x = .ok a := by
  cases x with
  | error e => exact ⟨nofun, nofun⟩
  | ok b =>
    exact ⟨fun h => congrArg Except.ok (Except.ok.inj h),
      fun h => congrArg Except.ok (Except.ok.inj h)⟩

theorem mapM_eq_ok {f : α → Except Error β} {items : List α} :
    (∃ made, items.mapM f = .ok made) ↔ ∀ a ∈ items, ∃ b, f a = .ok b := by
  induction items with
  | nil => exact ⟨nofun, fun _ => ⟨[], rfl⟩⟩
  | cons a rest ih =>
    rw [List.mapM_cons, List.forall_mem_cons, ← ih]
    cases f a with
    | error e => exact ⟨nofun, fun h => nomatch h.1⟩
    | ok b =>
      cases rest.mapM f with
      | error e => exact ⟨nofun, fun h => nomatch h.2⟩
      | ok made => exact ⟨fun _ => ⟨⟨b, rfl⟩, made, rfl⟩, fun _ => ⟨b :: made, rfl⟩⟩

/-- An item is reached if all in front of it are of a kind. -/
def Reached (kind : α → Prop) (items : List α) (a : α) : Prop :=
  ∃ front back, items = front ++ a :: back ∧ ∀ x ∈ front, kind x

theorem reached_cons {kind : α → Prop} {first a : α} {rest : List α} :
    Reached kind (first :: rest) a ↔ a = first ∨ kind first ∧ Reached kind rest a := by
  constructor
  · rintro ⟨_ | ⟨x, front⟩, back, same, all⟩
    · exact .inl (List.cons.inj same).1.symm
    · obtain ⟨rfl, rfl⟩ := List.cons.inj same
      obtain ⟨here, others⟩ := List.forall_mem_cons.mp all
      exact .inr ⟨here, front, back, rfl, others⟩
  · rintro (rfl | ⟨here, front, back, rfl, others⟩)
    · exact ⟨[], rest, rfl, nofun⟩
    · exact ⟨first :: front, back, rfl, List.forall_mem_cons.mpr ⟨here, others⟩⟩

/-- A list is read up to the first item that is not, which must be explained. -/
theorem explained_mapM {f : α → Except Error β} {items : List α} :
    Explained (items.mapM f) ↔
      ∀ a, Reached (fun x => ∃ b, f x = .ok b) items a → Explained (f a) := by
  induction items with
  | nil =>
    refine ⟨?_, fun _ => failsBy_ok⟩
    rintro - a ⟨front, back, same, -⟩
    cases front <;> cases same
  | cons first rest ih =>
    rw [List.mapM_cons]
    constructor
    · intro h a reached
      obtain ⟨here, later⟩ := explained_bind.mp h
      rcases reached_cons.mp reached with rfl | ⟨⟨b, read⟩, behind⟩
      · exact here
      · exact ih.mp (explained_bind.mp (later b read)).1 a behind
    · intro all
      refine explained_bind.mpr ⟨all first (reached_cons.mpr (.inl rfl)), fun b read => ?_⟩
      refine explained_bind.mpr ⟨ih.mpr fun a behind => ?_, fun made _ => failsBy_ok⟩
      exact all a (reached_cons.mpr (.inr ⟨⟨b, read⟩, behind⟩))

end

/-! ## Single values -/

/-- The value under a key, nothing if it is not there. -/
def given (data : Fields Datum) (key : String) : Datum := (data.get? key).getD .null

/-- A value that stands under a key, if one does, is of a kind. -/
def Under (data : Fields Datum) (key : String) (kind : Datum → Prop) : Prop :=
  ∀ d, data.get? key = some d → kind d

/-- No whole number in a value has too many digits to be written. -/
abbrev Writable (d : Datum) : Prop := d.canWrite = true

/-- What can be taken for a number of seconds: a truth value, a double, a whole number that is
rounded to one, and a text that is read as one. -/
def InSeconds : Datum → Prop
  | .bool _ | .real _ => True
  | .whole n => n.natAbs < (Nat.pow 2 54 - 1) * Nat.pow 2 970
  | .text s => (Decimal.readFloat? s).isSome
  | _ => False

/-- What can be taken for a number of machines: a truth value, a whole number, a double that is
finite, and a text that is read as a whole number. -/
def Countable : Datum → Prop
  | .bool _ | .whole _ => True
  | .real x => ∃ negative mantissa exponent,
    Decimal.Binary64.ofFloat x = .finite negative mantissa exponent
  | .text s => (Decimal.readInt? s).isSome
  | _ => False

/-- If a path starts with the home sign, there is a home for it. -/
def Homed (homes : Path.Homes) (p : Path) : Prop :=
  ∀ first rest user, p.root = .relative → p.names = first :: rest → first.toList = '~' :: user →
    Char.ofNat 0 ∉ user ∧ (user = [] ∨ String.ofList user ∈ homes.named.map Prod.fst)

/-- A discount strategy that is known. -/
def KnownStrategy (d : Datum) : Prop :=
  d = .null ∨ d = .text "" ∨ ∃ s ∈ validStrategies, d = .text s

theorem written_eq_ok {d : Datum} : (∃ s, d.written = .ok s) ↔ Writable d := by
  rw [Datum.written]
  split
  next can => exact ⟨fun _ => can, fun _ => ⟨_, rfl⟩⟩
  next cannot => exact ⟨nofun, fun can => absurd can cannot⟩

theorem entries_eq_ok {d : Datum} {member : String} {data : Fields Datum} :
    d.entries member = .ok data ↔ d = .table data := by
  cases d with
  | table fields =>
    exact ⟨fun same => congrArg Datum.table (Except.ok.inj same),
      fun same => congrArg Except.ok (Datum.table.inj same)⟩
  | _ => exact ⟨nofun, nofun⟩

theorem toFloat_eq_ok {d : Datum} : (∃ x, d.toFloat = .ok x) ↔ InSeconds d := by
  cases d with
  | whole n =>
    rw [InSeconds, ← Decimal.Binary64.ofInt?_isSome_iff, Datum.toFloat]
    cases Decimal.Binary64.ofInt? n with
    | none => exact ⟨by rintro ⟨_, ⟨⟩⟩, by rintro ⟨⟩⟩
    | some x => exact ⟨fun _ => rfl, fun _ => ⟨x, rfl⟩⟩
  | text s =>
    rw [InSeconds, Datum.toFloat]
    cases Decimal.readFloat? s with
    | none => exact ⟨by rintro ⟨_, ⟨⟩⟩, by rintro ⟨⟩⟩
    | some x => exact ⟨fun _ => rfl, fun _ => ⟨x, rfl⟩⟩
  | bool b => exact ⟨fun _ => trivial, fun _ => ⟨_, rfl⟩⟩
  | real x => exact ⟨fun _ => trivial, fun _ => ⟨x, rfl⟩⟩
  | _ => exact ⟨by rintro ⟨_, ⟨⟩⟩, False.elim⟩

theorem toInt_eq_ok {d : Datum} : (∃ n, d.toInt = .ok n) ↔ Countable d := by
  cases d with
  | real x =>
    rw [Countable, Datum.toInt]
    cases Decimal.Binary64.ofFloat x with
    | finite negative mantissa exponent => exact ⟨fun _ => ⟨_, _, _, rfl⟩, fun _ => ⟨_, rfl⟩⟩
    | _ => exact ⟨by rintro ⟨_, ⟨⟩⟩, by rintro ⟨_, _, _, ⟨⟩⟩⟩
  | text s =>
    rw [Countable, Datum.toInt]
    cases Decimal.readInt? s with
    | none => exact ⟨by rintro ⟨_, ⟨⟩⟩, by rintro ⟨⟩⟩
    | some n => exact ⟨fun _ => rfl, fun _ => ⟨n, rfl⟩⟩
  | bool b => exact ⟨fun _ => trivial, fun _ => ⟨_, rfl⟩⟩
  | whole n => exact ⟨fun _ => trivial, fun _ => ⟨n, rfl⟩⟩
  | _ => exact ⟨by rintro ⟨_, ⟨⟩⟩, False.elim⟩

/-- A known home of a user; no name stands for one's own. -/
theorem home_isSome {homes : Path.Homes} {user : List Char} :
    (if user.isEmpty then some homes.own
      else (homes.named.find? (·.1 == String.ofList user)).map (·.2)).isSome ↔
      user = [] ∨ String.ofList user ∈ homes.named.map Prod.fst := by
  cases user with
  | nil => exact ⟨fun _ => .inl rfl, fun _ => rfl⟩
  | cons c rest =>
    simp only [List.isEmpty_cons, Bool.false_eq_true, if_false, Option.isSome_map,
      List.find?_isSome, beq_iff_eq, List.cons_ne_nil, false_or, List.mem_map]

theorem expandHome_eq_ok {homes : Path.Homes} {p : Path} :
    (∃ q, p.expandHome homes = .ok q) ↔ Homed homes p := by
  rw [Path.expandHome]
  split
  next first rest of_root of_names =>
    split
    next user of_first =>
      have only : Homed homes p ↔
          Char.ofNat 0 ∉ user ∧ (user = [] ∨ String.ofList user ∈ homes.named.map Prod.fst) := by
        constructor
        · exact fun homed => homed first rest user of_root of_names of_first
        · intro here first' rest' user' _ of_names' of_first'
          obtain ⟨rfl, rfl⟩ := List.cons.inj (of_names.symm.trans of_names')
          obtain ⟨-, rfl⟩ := List.cons.inj (of_first.symm.trans of_first')
          exact here
      rw [only, ← home_isSome]
      dsimp only
      split
      next null => exact ⟨nofun, fun h => absurd (List.contains_iff_mem.mp null) h.1⟩
      next clear =>
        have absent : Char.ofNat 0 ∉ user := fun mem => clear (List.contains_iff_mem.mpr mem)
        split
        next home found =>
          refine ⟨fun _ => ⟨absent, ?_⟩, fun _ => ⟨_, rfl⟩⟩
          rw [found]
          rfl
        next missing =>
          refine ⟨nofun, fun h => ?_⟩
          rw [missing] at h
          cases h.2
    next other =>
      refine ⟨fun _ first' rest' user' _ of_names' of_first' => ?_, fun _ => ⟨p, rfl⟩⟩
      obtain ⟨rfl, rfl⟩ := List.cons.inj (of_names.symm.trans of_names')
      exact absurd of_first' (other user')
  next other =>
    refine ⟨fun _ first rest user of_root of_names => ?_, fun _ => ⟨p, rfl⟩⟩
    exact absurd of_names (other first rest of_root)

theorem pathOf_eq_ok {homes : Path.Homes} {d : Datum} :
    (∃ p, Settings.pathOf homes d = .ok p) ↔ ∃ s, d = .text s ∧ Homed homes (.ofString s) := by
  cases d with
  | text s =>
    refine expandHome_eq_ok.trans ⟨fun homed => ⟨s, rfl, homed⟩, ?_⟩
    rintro ⟨_, ⟨⟩, homed⟩
    exact homed
  | _ => exact ⟨nofun, nofun⟩

/-- What is read of a table has to be read of a table. -/
theorem explained_entries_bind {α : Type} {d : Datum} {member : String}
    {f : Fields Datum → Except Error α} :
    Explained ((liftM (d.entries member) : Except Error (Fields Datum)) >>= f) ↔
      ∃ data, d = .table data ∧ Explained (f data) := by
  simp only [explained_read_bind, entries_eq_ok]

/-! ## Settings -/

/-- All settings that must be given are, and no other setting is than those there are. -/
def Complete (data : Fields Datum) : Prop :=
  (∀ key ∈ Settings.required, (given data key).truthy = true) ∧
    ∀ key ∈ data.keys, key ∈ Settings.known

/-- The settings that are given are of their kinds. -/
structure SettingsTyped (homes : Path.Homes) (data : Fields Datum) : Prop where
  bucket : Writable (given data "bucket")
  folder : ∃ s, given data "config_dir" = .text s ∧ Homed homes (.ofString s)
  waitTimeout : Under data "wait_timeout" InSeconds
  waitInterval : Under data "wait_interval" InSeconds

theorem missing?_eq_none {data : Fields Datum} :
    Settings.missing? data = none ↔ ∀ key ∈ Settings.required, (given data key).truthy = true := by
  rw [Settings.missing?, List.find?_eq_none]
  simp only [Bool.not_eq_true', Bool.not_eq_false]
  rfl

theorem unknown_eq_nil {data : Fields Datum} :
    Settings.unknown data = [] ↔ ∀ key ∈ data.keys, key ∈ Settings.known := by
  rw [Settings.unknown, ← List.length_eq_zero_iff, List.length_mergeSort,
    List.length_eq_zero_iff, List.filter_eq_nil_iff]
  simp only [Bool.not_eq_true', Bool.not_eq_false, List.contains_iff_mem]

/-- What is read from the value under a key, if there is one, needs it to be of a kind. -/
theorem optional_eq_ok {α : Type} {data : Fields Datum} {key : String} {default : α}
    {read : Datum → Except Fault α} {kind : Datum → Prop}
    (each : ∀ d, (∃ a, read d = .ok a) ↔ kind d) :
    (∃ a, (match data.get? key with
      | some d => read d
      | none => .ok default) = .ok a) ↔ Under data key kind := by
  rw [Under]
  cases data.get? key with
  | none => exact ⟨fun _ => nofun, fun _ => ⟨default, rfl⟩⟩
  | some d => simp only [each, Option.some.injEq, forall_eq']

theorem seconds_eq_ok {data : Fields Datum} {key : String} {default : Float} :
    (∃ x, Settings.seconds data key default = .ok x) ↔ Under data key InSeconds :=
  optional_eq_ok fun _ => toFloat_eq_ok

theorem explained_settings {homes : Path.Homes} {data : Fields Datum} :
    Explained (Settings.ofTable homes data) ↔ (Complete data → SettingsTyped homes data) := by
  rw [Settings.ofTable]
  dsimp only
  split
  next key missing =>
    refine ⟨fun _ complete => ?_, fun _ => explained_config _⟩
    cases (missing?_eq_none.mpr complete.1).symm.trans missing
  next present =>
    have all : Settings.missing? data = none := by
      cases found : Settings.missing? data with
      | none => rfl
      | some key => exact absurd found (present key)
    split
    next extra =>
      refine ⟨fun _ complete => ?_, fun _ => explained_config _⟩
      rw [unknown_eq_nil.mpr complete.2] at extra
      cases extra
    next extra =>
      have none : Settings.unknown data = [] := by simpa using extra
      have complete : Complete data := ⟨missing?_eq_none.mp all, unknown_eq_nil.mp none⟩
      simp only [explained_read_bind]
      constructor
      · rintro ⟨_, bucket, _, folder, _, timeout, _, interval, -⟩ -
        exact ⟨written_eq_ok.mp ⟨_, bucket⟩, pathOf_eq_ok.mp ⟨_, folder⟩,
          seconds_eq_ok.mp ⟨_, timeout⟩, seconds_eq_ok.mp ⟨_, interval⟩⟩
      · intro typed
        obtain ⟨_, bucket⟩ := written_eq_ok.mpr (typed complete).bucket
        obtain ⟨_, folder⟩ := pathOf_eq_ok.mpr (typed complete).folder
        obtain ⟨_, timeout⟩ := seconds_eq_ok.mpr (typed complete).waitTimeout
        obtain ⟨_, interval⟩ := seconds_eq_ok.mpr (typed complete).waitInterval
        exact ⟨_, bucket, _, folder, _, timeout, _, interval, failsBy_ok⟩

/-! ## Clusters -/

/-- What a pool with a name is read from.  The sizes are read once the strategy is. -/
structure PoolTyped (data : Fields Datum) : Prop where
  name : Writable (given data "name")
  profile : Under data "profile" Writable
  instanceType : Under data "instance_type" Writable
  strategy : Under data "discount_strategy" Writable
  sizes : Under data "discount_strategy" KnownStrategy →
    Under data "min_size" Countable ∧ Under data "max_size" Countable

/-- A pool is a table, whose values are of their kinds if it has a name. -/
def PoolSection (d : Datum) : Prop :=
  ∃ data, d = .table data ∧ ((given data "name").truthy = true → PoolTyped data)

theorem textField_eq_ok {data : Fields Datum} {key default : String} :
    (∃ s, NodePool.textField data key default = .ok s) ↔ Under data key Writable :=
  optional_eq_ok fun _ => written_eq_ok

theorem sizeField_eq_ok {data : Fields Datum} {key : String} {default : Int} :
    (∃ n, NodePool.sizeField data key default = .ok n) ↔ Under data key Countable :=
  optional_eq_ok fun _ => toInt_eq_ok

theorem strategy_of_known {d : Datum} (known : KnownStrategy d) :
    ∃ s, DiscountStrategy.ofDatum (some d) = .ok s := by
  rcases known with rfl | rfl | ⟨s, mem, rfl⟩
  · exact ⟨_, rfl⟩
  · exact ⟨_, rfl⟩
  · simp only [validStrategies, List.mem_cons, List.not_mem_nil, or_false] at mem
    rcases mem with rfl | rfl
    · exact ⟨.none, rfl⟩
    · exact ⟨.spotMaxPrice, rfl⟩

/-- A strategy that is not known is refused, unless it cannot be shown. -/
theorem strategy_of_unknown {d : Datum} (unknown : ¬KnownStrategy d) :
    ∃ c, DiscountStrategy.ofDatum (some d) =
      if d.canWrite then .error (.config c) else .error (.fault .tooManyDigits) := by
  refine ⟨.unsupportedStrategy d.shown, ?_⟩
  unfold DiscountStrategy.ofDatum
  split
  next same => cases same
  next same => cases same; exact absurd (.inl rfl) unknown
  next same => cases same; exact absurd (.inr (.inl rfl)) unknown
  next s _ same =>
    cases same
    have other : s ∉ validStrategies := fun mem => unknown (.inr (.inr ⟨s, mem, rfl⟩))
    simp only [validStrategies, List.mem_cons, List.not_mem_nil, or_false, not_or] at other
    rw [DiscountStrategy.ofName, if_neg other.1, if_neg other.2]
    rfl
  next d' _ _ _ same =>
    cases same
    rfl

theorem KnownStrategy.writable {d : Datum} (known : KnownStrategy d) : Writable d := by
  rcases known with rfl | rfl | ⟨s, -, rfl⟩ <;> rfl

theorem explained_strategy {data : Fields Datum} {key : String} :
    Explained (DiscountStrategy.ofDatum (data.get? key)) ↔ Under data key Writable := by
  rw [Under]
  cases data.get? key with
  | none => exact ⟨fun _ => nofun, fun _ => failsBy_ok⟩
  | some d =>
    simp only [Option.some.injEq, forall_eq']
    by_cases known : KnownStrategy d
    · obtain ⟨s, read⟩ := strategy_of_known known
      rw [read]
      exact ⟨fun _ => known.writable, fun _ => failsBy_ok⟩
    · obtain ⟨c, refused⟩ := strategy_of_unknown known
      rw [refused]
      split
      next can => exact ⟨fun _ => can, fun _ => explained_config c⟩
      next cannot => exact ⟨fun h => absurd h (not_explained_fault _), fun can => absurd can cannot⟩

theorem strategy_eq_ok {data : Fields Datum} {key : String} :
    (∃ s, DiscountStrategy.ofDatum (data.get? key) = .ok s) ↔ Under data key KnownStrategy := by
  rw [Under]
  cases data.get? key with
  | none => exact ⟨fun _ => nofun, fun _ => ⟨_, rfl⟩⟩
  | some d =>
    simp only [Option.some.injEq, forall_eq']
    refine ⟨fun ⟨s, read⟩ => ?_, strategy_of_known⟩
    by_cases known : KnownStrategy d
    · exact known
    · obtain ⟨c, refused⟩ := strategy_of_unknown known
      rw [read] at refused
      split at refused <;> cases refused

theorem explained_pool {d : Datum} : Explained (NodePool.ofDatum d) ↔ PoolSection d := by
  rw [NodePool.ofDatum, explained_entries_bind, PoolSection]
  refine exists_congr fun data => and_congr_right fun _ => ?_
  rw [NodePool.ofTable]
  dsimp only
  split
  next unnamed =>
    refine ⟨fun _ named => ?_, fun _ => explained_config _⟩
    rw [given] at named
    rw [named] at unnamed
    cases unnamed
  next named =>
    have named : (given data "name").truthy = true := by simpa [given] using named
    simp only [explained_read_bind]
    constructor
    · rintro ⟨_, name, _, profile, _, type, later⟩ -
      -- the sizes are read only behind a strategy that is known
      obtain ⟨strategy, sized⟩ := explained_bind.mp later
      refine ⟨written_eq_ok.mp ⟨_, name⟩, textField_eq_ok.mp ⟨_, profile⟩,
        textField_eq_ok.mp ⟨_, type⟩, explained_strategy.mp strategy, fun known => ?_⟩
      obtain ⟨s, read⟩ := strategy_eq_ok.mpr known
      obtain ⟨_, least, later⟩ := explained_read_bind.mp (sized s read)
      obtain ⟨_, most, -⟩ := explained_read_bind.mp later
      exact ⟨sizeField_eq_ok.mp ⟨_, least⟩, sizeField_eq_ok.mp ⟨_, most⟩⟩
    · intro typed
      obtain ⟨_, name⟩ := written_eq_ok.mpr (typed named).name
      obtain ⟨_, profile⟩ := textField_eq_ok.mpr (typed named).profile
      obtain ⟨_, type⟩ := textField_eq_ok.mpr (typed named).instanceType
      -- a strategy that is refused leaves the sizes unread
      have strategy := explained_strategy.mpr (typed named).strategy
      refine ⟨_, name, _, profile, _, type, explained_bind.mpr ⟨strategy, fun s read => ?_⟩⟩
      obtain ⟨least, most⟩ := (typed named).sizes (strategy_eq_ok.mp ⟨s, read⟩)
      obtain ⟨_, least⟩ := sizeField_eq_ok.mpr least
      obtain ⟨_, most⟩ := sizeField_eq_ok.mpr most
      exact explained_read_bind.mpr ⟨_, least, explained_read_bind.mpr ⟨_, most, failsBy_ok⟩⟩

/-- A pool that is read. -/
def IsPool (d : Datum) : Prop :=
  ∃ data, d = .table data ∧ (given data "name").truthy = true ∧ PoolTyped data ∧
    Under data "discount_strategy" KnownStrategy

theorem pool_eq_ok {d : Datum} : (∃ p, NodePool.ofDatum d = .ok p) ↔ IsPool d := by
  constructor
  · rintro ⟨p, read⟩
    obtain ⟨data, rfl, typed⟩ : PoolSection d := explained_pool.mp (read ▸ failsBy_ok)
    change NodePool.ofTable data = .ok p at read
    rw [NodePool.ofTable] at read
    dsimp only at read
    split at read
    · cases read
    next named =>
      have named : (given data "name").truthy = true := by simpa [given] using named
      simp only [bind_eq_ok] at read
      obtain ⟨_, -, _, -, _, -, s, known, -⟩ := read
      exact ⟨data, rfl, named, typed named, strategy_eq_ok.mp ⟨s, known⟩⟩
  · rintro ⟨data, rfl, named, typed, known⟩
    obtain ⟨least, most⟩ := typed.sizes known
    obtain ⟨_, name⟩ := written_eq_ok.mpr typed.name
    obtain ⟨_, profile⟩ := textField_eq_ok.mpr typed.profile
    obtain ⟨_, type⟩ := textField_eq_ok.mpr typed.instanceType
    obtain ⟨_, strategy⟩ := strategy_eq_ok.mpr known
    obtain ⟨_, least⟩ := sizeField_eq_ok.mpr least
    obtain ⟨_, most⟩ := sizeField_eq_ok.mpr most
    show ∃ p, NodePool.ofTable data = .ok p
    rw [given] at named
    simp only [NodePool.ofTable, named, Bool.not_true, Bool.false_eq_true, if_false, bind_eq_ok,
      read_eq_ok]
    exact ⟨_, _, name, _, profile, _, type, _, strategy, _, least, _, most, rfl⟩

/-- The pools of a cluster are read up to the first one that is refused, and if none is, the
identifier and the region are written. -/
def ClusterTyped (data : Fields Datum) : Prop :=
  ∃ entries, ((data.get? "node_pools").getD (.list [])).items = .ok entries ∧
    (∀ d, Reached IsPool entries d → PoolSection d) ∧
    ((∀ d ∈ entries, IsPool d) → Writable (given data "id") ∧ Writable (given data "region"))

theorem explained_required_bind {α : Type} {data : Fields Datum} {key : String}
    {f : Datum → Except Error α} :
    Explained (Cluster.required data key >>= f) ↔
      ((given data key).truthy = true → Explained (f (given data key))) := by
  rw [Cluster.required]
  by_cases there : (given data key).truthy = true
  · rw [given] at there
    rw [if_pos there]
    exact ⟨fun h _ => h, fun h => h there⟩
  · rw [given] at there
    rw [if_neg there]
    exact ⟨fun _ h => absurd h there, fun _ => explained_config _⟩

theorem explained_cluster {data : Fields Datum} :
    Explained (Cluster.ofTable data) ↔
      ((given data "id").truthy = true → (given data "region").truthy = true →
        ClusterTyped data) := by
  rw [Cluster.ofTable, explained_required_bind]
  refine forall_congr' fun _ => ?_
  rw [explained_required_bind]
  refine forall_congr' fun _ => ?_
  rw [explained_read_bind, ClusterTyped]
  refine exists_congr fun entries => and_congr_right fun _ => ?_
  rw [explained_bind, explained_mapM]
  -- the pools first, whose being read is all that the rest asks of them
  simp only [pool_eq_ok, explained_pool]
  refine and_congr_right fun _ => ?_
  constructor
  · intro later all
    obtain ⟨made, read⟩ := mapM_eq_ok.mpr fun d mem => pool_eq_ok.mpr (all d mem)
    obtain ⟨_, id, later⟩ := explained_read_bind.mp (later made read)
    obtain ⟨_, region, -⟩ := explained_read_bind.mp later
    exact ⟨written_eq_ok.mp ⟨_, id⟩, written_eq_ok.mp ⟨_, region⟩⟩
  · intro writable made read
    have all (d : Datum) (mem : d ∈ entries) : IsPool d :=
      pool_eq_ok.mp (mapM_eq_ok.mp ⟨made, read⟩ d mem)
    obtain ⟨_, id⟩ := written_eq_ok.mpr (writable all).1
    obtain ⟨_, region⟩ := written_eq_ok.mpr (writable all).2
    refine explained_read_bind.mpr ⟨_, id, explained_read_bind.mpr ⟨_, region, ?_⟩⟩
    cases Cluster.make .. with
    | error c => exact explained_config c
    | ok cluster => exact failsBy_ok

/-! ## Values -/

/-- Up to the first list or table, all values can be written. -/
def ValuesTyped (data : Fields Datum) : Prop :=
  ∀ e ∈ data.takeWhile fun e => !Toml.isNest e.2, Writable e.2

theorem scalarText_of_scalar (key : String) {d : Datum} (scalar : Toml.isNest d = false) :
    ∃ s, scalarText key d = if d.canWrite then .ok s else .error (.fault .tooManyDigits) := by
  cases d with
  | list items => cases scalar
  | table fields => cases scalar
  | whole n =>
    refine ⟨toString n, ?_⟩
    rw [scalarText, Datum.written]
    · split <;> rfl
    all_goals nofun
  | _ => exact ⟨_, rfl⟩

theorem scalarText_of_nest {key : String} {d : Datum} (nest : Toml.isNest d = true) :
    scalarText key d = .error (.config (.valueNotScalar key)) := by
  cases d with
  | list items => rfl
  | table fields => rfl
  | _ => cases nest

theorem explained_values {data : Fields Datum} :
    Explained (valuesOf (.table data)) ↔ ValuesTyped data := by
  show Explained (List.mapM _ data) ↔ _
  induction data with
  | nil => exact ⟨fun _ => nofun, fun _ => failsBy_ok⟩
  | cons e rest ih =>
    obtain ⟨key, d⟩ := e
    rw [List.mapM_cons, ValuesTyped, List.takeWhile_cons]
    dsimp only
    cases scalar : Toml.isNest d with
    | true =>
      rw [scalarText_of_nest scalar]
      exact ⟨fun _ => nofun, fun _ => explained_config _⟩
    | false =>
      obtain ⟨s, read⟩ := scalarText_of_scalar key scalar
      rw [read, Bool.not_false, if_pos rfl, List.forall_mem_cons]
      by_cases can : d.canWrite = true
      · rw [if_pos can]
        refine Iff.trans ?_ (and_iff_right can).symm
        rw [← ValuesTyped, ← ih]
        show Explained (List.mapM _ rest >>= fun made => pure ((key, s) :: made)) ↔ _
        exact explained_bind.trans (and_iff_left fun _ _ => failsBy_ok)
      · rw [if_neg can]
        exact ⟨fun h => absurd h (not_explained_fault _), fun h => absurd h.1 can⟩

/-! ## Files and sections -/

/-- A file, if there is one, holds the bytes of a text, which is not refused for a whole number
of too many digits. -/
def Legible (found : Option FileTree.Found) : Prop :=
  ∀ content, found = some (.file content) →
    ∃ text, content = Text.Utf8.encode text ∧ Toml.parse text ≠ .error .oversized

theorem explained_readDocument {path : Path} {content : Bytes} :
    Explained (readDocument path content) ↔
      ∃ text, content = Text.Utf8.encode text ∧ Toml.parse text ≠ .error .oversized := by
  rw [readDocument]
  cases decoded : Text.Utf8.decode content with
  | error u =>
    refine ⟨fun h => absurd h (not_explained_fault _), ?_⟩
    rintro ⟨text, rfl, -⟩
    rw [Text.Utf8.decode_encode] at decoded
    cases decoded
  | ok text =>
    have only : (∃ s, content = Text.Utf8.encode s ∧ Toml.parse s ≠ .error .oversized) ↔
        Toml.parse text ≠ .error .oversized := by
      simp only [← Text.Utf8.decode_eq_ok_iff, decoded, Except.ok.injEq, exists_eq_left']
    rw [only]
    dsimp only
    split
    next read => exact ⟨fun _ => by rw [read]; exact nofun, fun _ => failsBy_ok⟩
    next read => exact ⟨fun _ => by rw [read]; exact nofun, fun _ => explained_config _⟩
    next read => exact ⟨fun h => absurd h (not_explained_fault _), fun h => absurd read h⟩

theorem explained_readFile {files : FileTree} {path : Path} :
    Explained (readFile files path) ↔ ∃ found, files.probe path = .ok found ∧ Legible found := by
  rw [readFile, explained_read_bind]
  refine exists_congr fun found => and_congr_right fun _ => ?_
  rw [Legible]
  split
  next content =>
    rw [explained_readDocument]
    simp only [Option.some.injEq, FileTree.Found.file.injEq, forall_eq']
  next other => exact ⟨fun _ content same => absurd same (other content), fun _ => failsBy_ok⟩

/-- With defaults for some keys, an empty table stands where nothing stood under one of them. -/
theorem get?_defaults (keys : List String) (config : Config) (key : String) :
    Fields.get? key (keys.foldl (fun config key => config.setDefault key (.table [])) config) =
      (Fields.get? key config).or (if key ∈ keys then some (.table []) else none) := by
  induction keys generalizing config with
  | nil => exact Option.or_none.symm
  | cons first rest ih =>
    rw [List.foldl_cons, ih, Fields.get?_setDefault, Option.or_assoc]
    congr 1
    by_cases same : key = first
    · rw [if_pos same, if_pos (List.mem_cons.mpr (.inl same)), Option.some_or]
    · rw [if_neg same, Option.none_or]
      simp only [List.mem_cons, same, false_or]

/-- A configuration that was read has all its sections. -/
theorem sections_of_load {files : FileTree} {general project : Path} {config : Config}
    (loaded : load files general project = .ok config) :
    ∀ key ∈ [settingsKey, clusterKey, valuesKey], ∃ d, Fields.get? key config = some d := by
  obtain ⟨lower, -, loaded⟩ := bind_eq_ok.mp loaded
  obtain ⟨upper, -, loaded⟩ := bind_eq_ok.mp loaded
  obtain rfl := Except.ok.inj loaded
  intro key mem
  rw [ofLayers, get?_defaults, if_pos mem]
  cases Fields.get? key (overlay lower upper) with
  | none => exact ⟨_, rfl⟩
  | some d => exact ⟨d, rfl⟩

/-- The settings are a table, whose values are of their kinds if it is complete. -/
def SettingsSection (homes : Path.Homes) (d : Datum) : Prop :=
  ∃ data, d = .table data ∧ (Complete data → SettingsTyped homes data)

/-- The cluster is a table, whose values are of their kinds if it has an identifier and a
region. -/
def ClusterSection (d : Datum) : Prop :=
  ∃ data, d = .table data ∧ ((given data "id").truthy = true →
    (given data "region").truthy = true → ClusterTyped data)

/-- The values are a table of values that can be written, up to the first one that is refused. -/
def ValuesSection (d : Datum) : Prop := ∃ data, d = .table data ∧ ValuesTyped data

theorem sectionOf_eq_ok {config : Config} {key : String} {d : Datum}
    (found : Fields.get? key config = some d) : config.sectionOf key = .ok d := by
  rw [sectionOf, Datum.field, found]

/-- Reading a configuration is explained if and only if both files are legible, of which the
second one is not looked at if the first one is refused.  And of a configuration that was read,
which has all its sections, each section is explained if and only if it is typed. -/
theorem explained_iff_typed (homes : Path.Homes) (files : FileTree) (general project : Path) :
    (Explained (load files general project) ↔
      (∃ found, files.probe general = .ok found ∧ Legible found) ∧
      ∀ lower, readFile files general = .ok lower →
        ∃ found, files.probe (project.child projectFile) = .ok found ∧ Legible found) ∧
    ∀ config, load files general project = .ok config → ∃ s c v,
      Fields.get? settingsKey config = some s ∧ Fields.get? clusterKey config = some c ∧
      Fields.get? valuesKey config = some v ∧
      (Explained (settings homes config) ↔ SettingsSection homes s) ∧
      (Explained (cluster config) ↔ ClusterSection c) ∧
      (Explained (values config) ↔ ValuesSection v) := by
  constructor
  · rw [load, explained_bind, ← explained_readFile]
    refine and_congr_right fun _ => forall_congr' fun lower => forall_congr' fun _ => ?_
    rw [← explained_readFile]
    exact explained_bind.trans (and_iff_left fun _ _ => failsBy_ok)
  · intro config loaded
    have there := sections_of_load loaded
    simp only [List.forall_mem_cons] at there
    obtain ⟨⟨s, of_settings⟩, ⟨c, of_cluster⟩, ⟨v, of_values⟩, -⟩ := there
    refine ⟨s, c, v, of_settings, of_cluster, of_values, ?_, ?_, ?_⟩
    · rw [settings, sectionOf_eq_ok of_settings]
      show Explained (liftM (s.entries "get") >>= _) ↔ _
      rw [explained_entries_bind]
      simp only [explained_settings]
      rfl
    · rw [cluster, sectionOf_eq_ok of_cluster]
      show Explained (liftM (c.entries "get") >>= _) ↔ _
      rw [explained_entries_bind]
      simp only [explained_cluster]
      rfl
    · rw [values, sectionOf_eq_ok of_values]
      show Explained (liftM (v.entries "items") >>= _) ↔ _
      rw [explained_entries_bind]
      refine exists_congr fun data => and_congr_right fun _ => ?_
      exact explained_values

/-! ## A project whose failures are explained, and four whose are not -/

/-- A configuration is read, and each of its sections, or what fails is explained. -/
def AllExplained (homes : Path.Homes) (r : Except Error Config) : Prop :=
  Explained r ∧ ∀ config, r = .ok config →
    Explained (settings homes config) ∧ Explained (cluster config) ∧ Explained (values config)

instance (homes : Path.Homes) : (r : Except Error Config) → Decidable (AllExplained homes r)
  | .ok config =>
    decidable_of_iff (Explained (settings homes config) ∧ Explained (cluster config) ∧
        Explained (values config))
      ⟨fun h => ⟨failsBy_ok, by rintro _ ⟨⟩; exact h⟩, fun h => h.2 config rfl⟩
  | .error e =>
    decidable_of_iff (Explained (.error e : Except Error Config))
      ⟨fun h => ⟨h, nofun⟩, fun h => h.1⟩

/-- What is read of a project with this configuration file, and of no general one. -/
def loadOnly (content : Bytes) : Except Error Config :=
  load (FileTree.empty.addFile (.ofString "project/nodeform.toml") content)
    (.ofString "global.toml") (.ofString "project")

/-- A machine on which nobody else is at home. -/
def alone : Path.Homes := ⟨"/home/oracle", []⟩

/-- A project in which the first pool is refused, so that what stands behind it, which is no
pool, is not looked at. -/
def unreached : Bytes :=
  Text.Utf8.encode
    "[cluster]\nid = 'k'\nregion = 'r'\nnode_pools = [\x7bname = 'a', discount_strategy = 'b'\x7d, 1]"

set_option maxRecDepth 100000 in
theorem unreached_typed : ∃ config s c v, loadOnly unreached = .ok config ∧
    Fields.get? settingsKey config = some s ∧ Fields.get? clusterKey config = some c ∧
    Fields.get? valuesKey config = some v ∧
    SettingsSection alone s ∧ ClusterSection c ∧ ValuesSection v := by
  have all : (loadOnly unreached).toOption.isSome ∧ AllExplained alone (loadOnly unreached) := by
    decide +kernel
  cases loaded : loadOnly unreached with
  | error e =>
    rw [loaded] at all
    cases all.1
  | ok config =>
    obtain ⟨s, c, v, of_settings, of_cluster, of_values, settings, cluster, values⟩ :=
      (explained_iff_typed alone _ _ _).2 config loaded
    obtain ⟨first, second, third⟩ := all.2.2 config loaded
    exact ⟨config, s, c, v, rfl, of_settings, of_cluster, of_values, settings.mp first,
      cluster.mp second, values.mp third⟩

set_option maxRecDepth 100000 in
/-- Bytes that are no text, a section that is no table, a pool that is none either, and a time
that is not read as a number. -/
theorem four_not_explained :
    ¬AllExplained alone (loadOnly [0xff]) ∧
    ¬AllExplained alone (loadOnly (Text.Utf8.encode "values = 1")) ∧
    ¬AllExplained alone (loadOnly (Text.Utf8.encode
      "[cluster]\nid = 'x'\nregion = 'r'\nnode_pools = [1]")) ∧
    ¬AllExplained alone (loadOnly (Text.Utf8.encode
      "[provisioner]\nbucket = 'b'\nconfig_dir = 'c'\nwait_timeout = 'soon'")) := by
  decide +kernel

end NodePools.Config
