import Mathlib.Data.List.Nodup
import NodePools.Proofs.Neighbours
import NodePools.Proofs.StackRendering

/-!
# Profiles of the cluster's own stack

The machines of a legacy profile are managed by the cluster's own stack, so its pools are not
provisioned.  Whether a profile is one of these is told by its text, but its folder is found by a
path, and many texts are one path (`place_eq_legacy_iff`).  A pool whose profile leads to the
folder of a legacy profile is left out if and only if its text is that of the profile, which it is
if no slash stands in it (`legacyFolder_left_out_iff`).  Spelled in another way, the machines of the
cluster's own stack get a stack once more (`dottedMasters_provisioned`).
-/

namespace NodePools

open Attempt Provisioner

/-! ## Names and paths -/

namespace Path

theorem pieces_of_no_slash {cs : List Char} (none : '/' ∉ cs) : pieces cs = [cs] := by
  have absent : Text.splitFirst? ['/'] cs = Option.none := by
    refine Option.not_isSome_iff_eq_none.mp fun found => none ?_
    exact (List.singleton_infix_iff _ _).mp (Text.occursIn_iff.mp found)
  rw [pieces]
  cases cs.length with
  | zero => rfl
  | succ limit => rw [Text.splitOnText, absent]

/-- A text without a slash is a name, if it says something. -/
theorem ofString_of_no_slash {s : String} (none : '/' ∉ s.toList) :
    (ofString s).root = .relative ∧ ∀ name ∈ (ofString s).names, name = s := by
  constructor
  · have slashes : s.toList.takeWhile (· == '/') = [] := by
      cases chars : s.toList with
      | nil => rfl
      | cons c cs =>
        rw [chars] at none
        exact List.takeWhile_cons_of_neg (by simpa using Ne.symm (List.ne_of_not_mem_cons none))
    rw [ofString, slashes]
    rfl
  · intro name mem
    obtain ⟨piece, kept, rfl⟩ := List.mem_map.mp mem
    rw [pieces_of_no_slash none] at kept
    rw [List.mem_singleton.mp (List.mem_filter.mp kept).1]
    exact String.ofList_toList

end Path

namespace Profiles

variable {t : Profiles} {pool : NodePool} {legacy : String}

theorem ofString_legacy (known : legacy ∈ NodePool.legacyProfiles) :
    Path.ofString legacy = ⟨.relative, [legacy]⟩ := by
  simp only [NodePool.legacyProfiles, List.mem_cons, List.not_mem_nil, or_false] at known
  rcases known with rfl | rfl <;> decide

/-- A profile leads to the folder of a legacy one if it comes down to its name, or if it is the
whole path of this folder. -/
theorem place_eq_legacy_iff (known : legacy ∈ NodePool.legacyProfiles) :
    t.place pool = t.folder.child legacy ↔
      Path.ofString pool.profile = ⟨.relative, [legacy]⟩ ∨
        ((Path.ofString pool.profile).root ≠ .relative ∧
          Path.ofString pool.profile = ⟨t.folder.root, t.folder.names ++ [legacy]⟩) := by
  rw [place, Path.child, Path.child, ofString_legacy known]
  obtain ⟨root, names⟩ := Path.ofString pool.profile
  cases root with
  | relative => simp [Path.join]
  | _ => simp [Path.join]

/-- Where a profile without a slash leads to the folder of a legacy one, it is this one. -/
theorem profile_eq_of_no_slash (known : legacy ∈ NodePool.legacyProfiles)
    (leads : t.place pool = t.folder.child legacy) (none : '/' ∉ pool.profile.toList) :
    pool.profile = legacy := by
  obtain ⟨relative, names⟩ := Path.ofString_of_no_slash none
  rcases (place_eq_legacy_iff known).mp leads with same | ⟨rooted, -⟩
  · exact (names legacy (same ▸ List.mem_singleton_self legacy)).symm
  · exact absurd relative rooted

theorem place_of_profile (same : pool.profile = legacy) :
    t.place pool = t.folder.child legacy := by
  rw [place, same]

/-- A profile that leads to the folder of one legacy profile is not another one of them. -/
theorem isLegacy_iff (known : legacy ∈ NodePool.legacyProfiles)
    (leads : t.place pool = t.folder.child legacy) :
    pool.isLegacy = true ↔ pool.profile = legacy := by
  rw [NodePool.isLegacy, List.contains_iff_mem]
  refine ⟨fun mem => ?_, fun same => same ▸ known⟩
  rcases (place_eq_legacy_iff known).mp leads with same | ⟨rooted, -⟩
  · rw [ofString_legacy mem] at same
    exact List.singleton_inj.mp (Path.mk.inj same).2
  · rw [ofString_legacy mem] at rooted
    exact absurd rfl rooted

end Profiles

/-! ## Pools that are left out -/

section

variable {p : Provisioner} {values : Values} {pool : NodePool}

theorem mem_targets_iff (mem : pool ∈ p.cluster.pools) :
    pool ∈ p.cluster.targets ↔ pool.isLegacy = false := by
  rw [Cluster.targets, List.mem_filter, Bool.not_eq_true']
  exact and_iff_right mem

/-- Only target pools have their stack applied. -/
theorem not_applied_of_not_target (mem : pool ∈ p.cluster.pools)
    (left_out : pool ∉ p.cluster.targets) {whole : List (Exchange Service)}
    (run : RunFor p.cluster whole) (document : String) (tags : Tags) (told : Except Error Unit) :
    .cloud (.apply (stackName p.cluster pool) document tags) told ∉ whole := by
  intro asked
  obtain ⟨other, target, -, named⟩ := run.of_apply asked
  have same : pool = other := List.inj_on_of_nodup_map p.cluster.distinct mem
    (List.mem_of_mem_filter target) ((stackName_eq_iff rfl).mp named)
  exact left_out (same ▸ target)

/-- A pool whose profile leads to the folder of a legacy profile is left out if and only if its
profile is written like this one, which it is if no slash stands in it.  Then no attempt is made for
it, whatever is answered, and its stack is not applied.  Else an attempt is made for it as for any
other pool. -/
theorem legacyFolder_left_out_iff {legacy : String} (mem : pool ∈ p.cluster.pools)
    (known : legacy ∈ NodePool.legacyProfiles)
    (leads : p.profiles.place pool = p.profiles.folder.child legacy) :
    (pool ∉ p.cluster.targets ↔ pool.profile = legacy) ∧
    ('/' ∉ pool.profile.toList → pool.profile = legacy) ∧
    ∀ (σ : Type) (answer : Handler Service σ) (s s' : σ) (values : Values)
      (tr : List (Option Nat × Exchange Service)) (r : Except Error Unit),
      Provisions p values answer s tr r s' → ∃ attempts, Accounted p values tr r attempts ∧
        ((∃ a ∈ attempts, a.pool = pool) ↔ pool.profile ≠ legacy) ∧
        (pool.profile = legacy → ∀ document tags told,
          .cloud (.apply (stackName p.cluster pool) document tags) told ∉ tr.map Prod.snd) := by
  have target : pool ∉ p.cluster.targets ↔ pool.profile = legacy := by
    rw [mem_targets_iff mem, Bool.not_eq_false]
    exact Profiles.isLegacy_iff known leads
  refine ⟨target, Profiles.profile_eq_of_no_slash known leads,
    fun σ answer s s' values tr r run => ?_⟩
  obtain ⟨attempts, account⟩ := run.accounted
  refine ⟨attempts, account, ?_, fun same => ?_⟩
  · rw [← List.mem_map, account.pools]
    exact (not_iff_comm.mp target).symm
  · exact not_applied_of_not_target mem (target.mpr same) (.provision rfl run)

end

/-! ## The masters in two spellings -/

/-- The masters of a cluster, by a profile. -/
def masters (profile : String) : NodePool := ⟨"masters", profile, "m5.large", .none, 1, 1⟩

/-- A cluster of masters only, with the folder of their legacy profile. -/
def ofMasters (profile : String) : Provisioner where
  cluster := ⟨"kube", "eu-central-1", [masters profile], List.nodup_singleton _⟩
  profiles := {
    files := (FileTree.empty.addFile (.ofString "profiles/master-default/userdata.clc.yaml")
      (Text.Utf8.encode "pool: masters")).addFile
      (.ofString "profiles/master-default/stack.yaml") (Text.Utf8.encode "size: 1")
    folder := .ofString "profiles"
    bucket := "bucket"
    scheme := "s3"
    version := "2.1.0" }
  waitTimeout := .whole 600
  waitInterval := .whole 10

/-- Answers everything as it goes well, and notes the stacks that are applied. -/
def noting : Handler Service (List String)
  | .inl (.apply name document tags), applied =>
    (refusing "" (.inl (.apply name document tags)), name :: applied)
  | op, applied => (refusing "" op, applied)

theorem masters_left_out : ∃ tr r s' attempts,
    (ofMasters "master-default").profiles.place (masters "master-default") =
      (ofMasters "master-default").profiles.folder.child "master-default" ∧
    masters "master-default" ∉ (ofMasters "master-default").cluster.targets ∧
    Provisions (ofMasters "master-default") [] noting [] tr r s' ∧
    Accounted (ofMasters "master-default") [] tr r attempts ∧
    ¬∃ a ∈ attempts, a.pool = masters "master-default" := by
  have leads : (ofMasters "master-default").profiles.place (masters "master-default") =
      (ofMasters "master-default").profiles.folder.child "master-default" :=
    Profiles.place_of_profile rfl
  obtain ⟨target, -, runs⟩ := legacyFolder_left_out_iff List.mem_cons_self (by decide) leads
  obtain ⟨r, s', ran⟩ := (uncut_provision (ofMasters "master-default") []).run noting []
  obtain ⟨tr, run⟩ := provisions_of_run ran
  obtain ⟨attempts, account, attempted, -⟩ := runs _ noting [] s' [] tr r run
  exact ⟨tr, r, s', attempts, leads, target.mpr rfl, run, account, fun a => attempted.mp a rfl⟩

set_option maxRecDepth 100000 in
/-- With a dot in front of its name, the folder of the legacy profile is found, and the masters get
a stack. -/
theorem dottedMasters_provisioned :
    (ofMasters "./master-default").profiles.place (masters "./master-default") =
      (ofMasters "./master-default").profiles.folder.child "master-default" ∧
    (ofMasters "./master-default").profiles.HasFolder (masters "./master-default") ∧
    masters "./master-default" ∈ (ofMasters "./master-default").cluster.targets ∧
    (((ofMasters "./master-default").provision []).outcome.run noting []).2 =
      ["nodepool-masters-kube"] :=
  ⟨by decide, ⟨by decide, by decide +kernel⟩, by decide, by decide +kernel⟩

end NodePools
