import NodePools.Proofs.ConfigErrors
import NodePools.Proofs.TomlKeys

/-!
# A project over what holds for all

Merging lays one table over another, and what comes of it is told by paths (`Layered`); no key
comes to stand twice.  To merge again with the upper layer, with nothing, or with itself changes
nothing.  The two files of a configuration are merged in this way (`layered_config`): each section
that is a table in both of them, or is not there, is made of the two layers, so that a setting, a
field of the cluster or a value is that of the project if it is set there, and else the general one.
What is a table in both files is looked up leaf by leaf.
-/

namespace NodePools.Config

open Datum (Keyed)

/-! ## Files -/

theorem keyed_of_readFile {files : FileTree} {path : Path} {config : Config}
    (read : readFile files path = .ok config) : Keyed (.table config) := by
  obtain ⟨found, -, read⟩ := bind_eq_ok.mp read
  split at read
  next content =>
    rw [readDocument] at read
    split at read
    · cases read
    · split at read
      next parsed =>
        cases read
        exact Toml.keyed_of_parse parsed
      · cases read
      · cases read
  · cases read
    exact .empty

/-! ## Sections -/

/-- The sections of a configuration. -/
def sections : List String := [settingsKey, clusterKey, valuesKey]

/-- What a file has for a section: its entries if it is a table, none if it is left out. -/
def layer? (config : Config) (key : String) : Option (Fields Datum) :=
  match Fields.get? key config with
  | none => some []
  | some (.table entries) => some entries
  | some _ => none

theorem layer?_eq_some {config : Config} {key : String} {entries : Fields Datum} :
    layer? config key = some entries ↔
      Fields.get? key config = some (.table entries) ∨
        (Fields.get? key config = none ∧ entries = []) := by
  rw [layer?]
  split
  next absent => simp only [absent, Option.some.injEq, reduceCtorEq, true_and, false_or, eq_comm]
  next t found =>
    simp only [found, Option.some.injEq, Datum.table.injEq, reduceCtorEq, false_and, or_false]
  next d other found =>
    rw [found]
    refine ⟨nofun, ?_⟩
    rintro (⟨⟨⟩⟩ | ⟨⟨⟩, -⟩)
    exact absurd rfl (other entries)

/-- A section is made of what the two layers have for it. -/
theorem section_ofLayers {lower upper : Config} {key : String} {general project : Fields Datum}
    (mem : key ∈ sections) (keyed : Keyed (.table upper)) (below : layer? lower key = some general)
    (above : layer? upper key = some project) :
    Fields.get? key (ofLayers lower upper) = some (.table (overlay general project)) := by
  rw [ofLayers, get?_defaults, ← sections, if_pos mem]
  rcases layer?_eq_some.mp above with there | ⟨absent, rfl⟩
  · rw [get?_overlay_of_some keyed.distinct there, Option.some_or]
    rcases layer?_eq_some.mp below with here | ⟨absent, rfl⟩
    · rw [here, overlayValue_tables]
    · rw [absent, overlayValue_none, overlay_nil_left (keyed.of_get? there).distinct]
  · rw [get?_overlay_of_absent keyed.distinct absent, overlay_nil]
    rcases layer?_eq_some.mp below with here | ⟨absent, rfl⟩
    · rw [here, Option.some_or]
    · rw [absent, Option.none_or]

/-- The entry under a key that does not lead to tables in both layers is that of the upper layer if
there is one, else that of the lower one. -/
theorem get?_overlay_of_single {lower upper : Fields Datum} (keyed : Keyed (.table upper))
    {key : String} (single : ∀ t u, Fields.get? key lower = some (.table t) →
      Fields.get? key upper ≠ some (.table u)) :
    Fields.get? key (overlay lower upper) = (Fields.get? key upper).or (Fields.get? key lower) := by
  cases above : Fields.get? key upper with
  | none => rw [get?_overlay_of_absent keyed.distinct above, Option.none_or]
  | some d =>
    rw [get?_overlay_of_some keyed.distinct above, Option.some_or]
    cases table : d.isTable with
    | false => rw [overlayValue_of_leaf table]
    | true =>
      obtain ⟨u, rfl⟩ := Datum.exists_table_iff.mpr table
      rw [overlayValue_of_cover fun t below => single t u below above]

/-- What a section is that two layers make. -/
structure SectionOver (general project made : Fields Datum) : Prop where
  layered : Layered general project made
  /-- What is no table in both of them is that of the project if it is there, else the general
  one. -/
  single (key : String) : (∀ t u, Fields.get? key general = some (.table t) →
      Fields.get? key project ≠ some (.table u)) →
    Fields.get? key made = (Fields.get? key project).or (Fields.get? key general)

theorem sectionOver_overlay {general project : Fields Datum} (keyed : Keyed (.table project)) :
    SectionOver general project (overlay general project) where
  layered := layered_overlay keyed general
  single _ single := get?_overlay_of_single keyed single

theorem keyed_of_layer? {config : Config} (keyed : Keyed (.table config)) {key : String}
    {entries : Fields Datum} (found : layer? config key = some entries) :
    Keyed (.table entries) := by
  rcases layer?_eq_some.mp found with there | ⟨-, rfl⟩
  · exact keyed.of_get? there
  · exact .empty

/-! ## Values -/

theorem get?_mapM {α β ε : Type} {f : String → α → Except ε β} {fields : Fields α}
    {made : Fields β} (done : (fields.mapM fun (key, a) => do return (key, ← f key a)) = .ok made)
    (key : String) :
    Option.Rel (fun a b => f key a = .ok b) (Fields.get? key fields) (Fields.get? key made) := by
  induction fields generalizing made with
  | nil =>
    cases done
    exact .none
  | cons e rest ih =>
    obtain ⟨k, a⟩ := e
    rw [List.mapM_cons] at done
    obtain ⟨first, one, done⟩ := bind_eq_ok.mp done
    obtain ⟨others, later, done⟩ := bind_eq_ok.mp done
    obtain ⟨b, read, one⟩ := bind_eq_ok.mp one
    cases one
    cases done
    rw [Fields.get?, Fields.get?]
    split
    next same => exact .some (same ▸ read)
    next other => exact ih later

/-- Each value for templates is the text of that of the project if there is one, and else of the
general one. -/
theorem values_over {general project : Fields Datum} (keyed : Keyed (.table project))
    {texts : Fields String} (read : valuesOf (.table (overlay general project)) = .ok texts)
    (key : String) :
    Option.Rel (fun d text => scalarText key d = .ok text)
      ((Fields.get? key project).or (Fields.get? key general)) (Fields.get? key texts) := by
  have each := get?_mapM read key
  rwa [get?_overlay_of_single keyed fun t u below above => ?_] at each
  -- Tables in both layers would make a table, which has no text.
  rw [get?_overlay_of_some keyed.distinct above, below, overlayValue_tables] at each
  generalize Fields.get? key texts = found at each
  cases each with
  | some refused => cases refused

/-! ## Configurations -/

/-- What is read of a configuration whose two files are these. -/
structure LoadedOver (homes : Path.Homes) (lower upper config : Config) : Prop where
  settings_over {general project : Fields Datum} :
    layer? lower settingsKey = some general → layer? upper settingsKey = some project →
    ∃ made, SectionOver general project made ∧ settings homes config = Settings.ofTable homes made
  cluster_over {general project : Fields Datum} :
    layer? lower clusterKey = some general → layer? upper clusterKey = some project →
    ∃ made, SectionOver general project made ∧ cluster config = Cluster.ofDatum (.table made)
  values_over {general project : Fields Datum} :
    layer? lower valuesKey = some general → layer? upper valuesKey = some project →
    ∃ made, SectionOver general project made ∧ values config = valuesOf (.table made) ∧
      ∀ texts, values config = .ok texts → ∀ key,
        Option.Rel (fun d text => scalarText key d = .ok text)
          ((Fields.get? key project).or (Fields.get? key general)) (Fields.get? key texts)

theorem loadedOver_ofLayers (homes : Path.Homes) {lower upper : Config}
    (keyed : Keyed (.table upper)) : LoadedOver homes lower upper (ofLayers lower upper) where
  settings_over {general project} below above := by
    refine ⟨_, sectionOver_overlay (keyed_of_layer? keyed above), ?_⟩
    rw [settings, sectionOf_eq_ok (section_ofLayers (by decide) keyed below above)]
    rfl
  cluster_over {general project} below above := by
    refine ⟨_, sectionOver_overlay (keyed_of_layer? keyed above), ?_⟩
    rw [cluster, sectionOf_eq_ok (section_ofLayers (by decide) keyed below above)]
    rfl
  values_over {general project} below above := by
    have made : values (ofLayers lower upper) = valuesOf (.table (overlay general project)) := by
      rw [values, sectionOf_eq_ok (section_ofLayers (by decide) keyed below above)]
      rfl
    have keyed := keyed_of_layer? keyed above
    refine ⟨_, sectionOver_overlay keyed, made, fun texts read => ?_⟩
    exact Config.values_over keyed (made.symm.trans read)

/-- Merging is looking up in layers, and it changes nothing to merge with nothing, with oneself, or
again with the upper layer.  A configuration is read off its two files in this way, section by
section. -/
theorem layered_config (homes : Path.Homes) :
    (∀ lower upper : Fields Datum, Keyed (.table upper) →
      ∃ merged, merge (.table lower) (.table upper) = .ok merged ∧ Layered lower upper merged ∧
        (Keyed (.table lower) → Keyed (.table merged)) ∧
        merge (.table merged) (.table upper) = .ok merged) ∧
    (∀ fields : Fields Datum, Keyed (.table fields) →
      merge (.table []) (.table fields) = .ok fields ∧
      merge (.table fields) (.table []) = .ok fields ∧
      merge (.table fields) (.table fields) = .ok fields) ∧
    ∀ (files : FileTree) (general project : Path) (lower upper : Config),
      readFile files general = .ok lower →
      readFile files (project.child projectFile) = .ok upper →
      ∃ config, load files general project = .ok config ∧ LoadedOver homes lower upper config := by
  refine ⟨fun lower upper keyed => ?_, fun fields keyed => ?_,
    fun files general project lower upper below above => ?_⟩
  · refine ⟨overlay lower upper, rfl, layered_overlay keyed lower, keyed_overlay keyed, ?_⟩
    exact congrArg Except.ok (overlay_absorb keyed lower)
  · exact ⟨congrArg Except.ok (overlay_nil_left keyed.distinct),
      congrArg Except.ok (overlay_nil fields), congrArg Except.ok (overlay_self keyed)⟩
  · refine ⟨ofLayers lower upper, ?_, loadedOver_ofLayers homes (keyed_of_readFile above)⟩
    rw [load, below, above]
    rfl

/-! ## A project over a general file -/

/-- A general file, and that of a project in which a scalar stands for a table. -/
def twoFiles : FileTree :=
  (FileTree.empty.addFile (.ofString "global.toml") (Text.Utf8.encode
    "[provisioner]\nbucket = 'all'\n[values]\nplain = 1\nnest.in = 2\nleft = 3")).addFile
  (.ofString "project/nodeform.toml") (Text.Utf8.encode
    "[provisioner]\nbucket = 'own'\n[values]\nnew = 'n'\nnest = true\nplain = 2")

/-- A leaf in a table, behind a leaf. -/
def nested : Fields Datum := [("c", .whole 1), ("a", .table [("b", .null)])]

theorem keyed_nested : Keyed (.table nested) := by
  refine .table (show List.Nodup ["c", "a"] by decide) ?_
  rintro e (_ | ⟨_, _ | ⟨_, ⟨⟩⟩⟩)
  · exact .leaf rfl
  · refine .table (show List.Nodup ["b"] by decide) ?_
    rintro e (_ | ⟨_, ⟨⟩⟩)
    exact .leaf rfl

/-- Whether a file is read and has tables for all sections, if it has them. -/
def sectioned (r : Except Error Config) : Bool :=
  match r with
  | .ok config => sections.all fun key => (layer? config key).isSome
  | .error _ => false

theorem sectioned_eq_true {r : Except Error Config} (h : sectioned r = true) :
    ∃ config, r = .ok config ∧ ∀ key ∈ sections, ∃ entries, layer? config key = some entries := by
  cases r with
  | error e => cases h
  | ok config =>
    refine ⟨config, rfl, fun key mem => Option.isSome_iff_exists.mp ?_⟩
    exact List.all_eq_true.mp h key mem

set_option maxRecDepth 100000 in
theorem twoFiles_layered :
    (Keyed (.table nested) ∧ merge (.table nested) (.table nested) = .ok nested ∧
      ∃ merged, merge (.table [("a", .null)]) (.table nested) = .ok merged ∧
        Layered [("a", .null)] nested merged) ∧
    ∃ lower upper config, readFile twoFiles (.ofString "global.toml") = .ok lower ∧
      readFile twoFiles (.ofString "project/nodeform.toml") = .ok upper ∧
      (∀ key ∈ sections, ∃ entries, layer? lower key = some entries) ∧
      (∀ key ∈ sections, ∃ entries, layer? upper key = some entries) ∧
      load twoFiles (.ofString "global.toml") (.ofString "project") = .ok config ∧
      LoadedOver alone lower upper config ∧
      (values config).toOption =
        some [("plain", "2"), ("nest", "true"), ("left", "3"), ("new", "n")] := by
  have read : sectioned (readFile twoFiles (.ofString "global.toml")) ∧
      sectioned (readFile twoFiles (.ofString "project/nodeform.toml")) ∧
      ((load twoFiles (.ofString "global.toml") (.ofString "project")).toOption.bind
        fun config => (values config).toOption) =
        some [("plain", "2"), ("nest", "true"), ("left", "3"), ("new", "n")] := by
    decide +kernel
  obtain ⟨lower, below, general⟩ := sectioned_eq_true read.1
  obtain ⟨upper, above, project⟩ := sectioned_eq_true read.2.1
  obtain ⟨merges, same, loads⟩ := layered_config alone
  obtain ⟨merged, made, over_leaf, -⟩ := merges [("a", .null)] nested keyed_nested
  obtain ⟨config, loaded, layered⟩ :=
    loads twoFiles (.ofString "global.toml") (.ofString "project") lower upper below above
  refine ⟨⟨keyed_nested, (same nested keyed_nested).2.2, merged, made, over_leaf⟩, lower, upper,
    config, below, above, general, project, loaded, layered, ?_⟩
  have told := read.2.2
  rwa [loaded] at told

end NodePools.Config
