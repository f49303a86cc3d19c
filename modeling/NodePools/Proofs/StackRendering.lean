import NodePools.Proofs.Publishing

/-!
# From user data to the stack document

The user data of a pool is rendered, converted and published before the template of its stack is
looked at.  `Prepares` is the rule for this: what was asked of the collaborators, with the answers,
and what came of it.  As long as something fails in front of the publication nothing is asked of
the store, and with user data that is published it was asked for its bucket and for one object.

Whatever is answered, the user data is prepared by the rule, and the document is what the template
of the stack gives for it (`Profiles.renderStack_in_order`).  A template that fails is told by its
own path (`path_of_renderTemplate`).

There is one way to miss the error about a profile that has no folder.  The file system does not
look for names that are too long and says so by a fault (`FileTree.long_of_probe`), which comes out
as it is (`Profiles.longName_not_config`).
-/

namespace NodePools

open Prog (Runs Uncut)

/-- An error of a template names the path of the template. -/
theorem path_of_renderTemplate {files : FileTree} {path : Path} {context : Fields Template.Value}
    {blamed : String} {reason : TemplateReason}
    (failed : renderTemplate files path context = .error (.template blamed reason)) :
    blamed = path.text := by
  unfold renderTemplate at failed
  repeat' split at failed
  all_goals cases failed
  all_goals rfl

/-! ## Names that are too long -/

namespace FileTree

/-- A name is too long only where it is on the way. -/
theorem exists_long_of_follow {t : FileTree} {p : Place} {names : List String}
    (refused : t.follow p names = .error .nameTooLong) :
    ∃ name ∈ names, maxName < (Text.Utf8.encode name).length := by
  induction names generalizing p with
  | nil =>
    unfold follow at refused
    repeat' split at refused
    all_goals cases refused
  | cons name rest ih =>
    unfold follow at refused
    split at refused
    · split at refused
      · obtain ⟨long, mem, size⟩ := ih refused
        exact ⟨long, List.mem_cons_of_mem _ mem, size⟩
      next e stepped =>
        cases refused
        unfold step at stepped
        split at stepped
        · cases stepped
        · split at stepped
          next size => exact ⟨name, List.mem_cons_self, size⟩
          · split at stepped <;> cases stepped
    · repeat' split at refused
      all_goals cases refused

/-- From a folder a name leads on as far as a step does. -/
theorem follow_cons {t : FileTree} {p : Place} (folder : t.isFolder p = true) (name : String)
    (rest : List String) :
    t.follow p (name :: rest) =
      match step p name with
      | .ok p => t.follow p rest
      | .error e => .error e := by
  conv_lhs => unfold follow
  exact if_pos folder

theorem step_of_long {p : Place} {name : String} (down : name ≠ "..")
    (long : maxName < (Text.Utf8.encode name).length) : step p name = .error .nameTooLong := by
  unfold step
  rw [if_neg down, if_pos long]

/-- To look for a path fails only if the path or a name in it is too long. -/
theorem long_of_probe {t : FileTree} {path : Path} {f : Fault} (refused : t.probe path = .error f) :
    maxPath ≤ (Text.Utf8.encode path.text).length ∨
      ∃ name ∈ path.names, maxName < (Text.Utf8.encode name).length := by
  have tooLong : t.find path = .error .nameTooLong := by
    rw [probe] at refused
    repeat' split at refused
    all_goals first | assumption | cases refused
  rw [find] at tooLong
  split at tooLong
  next long => exact .inl long
  · split at tooLong
    all_goals exact .inr (exists_long_of_follow tooLong)

end FileTree

/-- What comes of a publication that fails is an error about publishing. -/
theorem Publisher.Publishes.exists_cause {scheme bucket : String} {content : Bytes}
    {cs : List (Exchange Service)} {e : Error}
    (publishes : Publishes scheme bucket content cs (.error e)) : ∃ cause, e = .publish cause := by
  have told (cause : Error) : ∃ why,
      storeError (contentKey content) bucket cause = .publish why := by
    rcases storeError_eq (contentKey content) bucket cause with ⟨why, rfl, same⟩ | ⟨-, same⟩
    · exact ⟨why, same⟩
    · exact ⟨_, same⟩
  cases publishes with
  | bucketRefused cause => exact told cause
  | notStored cause => exact told cause

namespace Profiles

/-! ## The folder of a profile -/

section

variable (t : Profiles) (pool : NodePool)

/-- Where the folder of a pool's profile is to be. -/
def place : Path := t.folder.child pool.profile

/-- Where the template of the user data is to be. -/
def userDataPath : Path := (t.place pool).child userDataFile

/-- Where the template of the stack is to be. -/
def stackPath : Path := (t.place pool).child stackFile

/-- Whether the folder is there. -/
def HasFolder : Prop := pool.profile ≠ "" ∧ t.files.probe (t.place pool) = .ok (some .folder)

/-- Whether the file system refuses to look for the folder. -/
def Refused (f : Fault) : Prop := pool.profile ≠ "" ∧ t.files.probe (t.place pool) = .error f

end

variable {t : Profiles} {c : Cluster} {pool : NodePool} {values : Values}

theorem profileFolder_ok {path : Path} (h : t.profileFolder pool = .ok path) :
    t.HasFolder pool ∧ path = t.place pool := by
  refine ⟨?_, Attempt.profileFolder_eq_ok h⟩
  unfold profileFolder at h
  dsimp only at h
  split at h
  · cases h
  next named =>
    split at h
    · cases h
    next found => exact ⟨mt String.isEmpty_iff.mpr named, found⟩
    · cases h

theorem profileFolder_of_hasFolder (there : t.HasFolder pool) :
    t.profileFolder pool = .ok (t.place pool) := by
  unfold profileFolder
  dsimp only
  rw [if_neg (mt String.isEmpty_iff.mp there.1), ← place, there.2]

theorem profileFolder_error {e : Error} (h : t.profileFolder pool = .error e) :
    (e = .config (.profileNotFound pool.profile) ∧ ¬t.HasFolder pool ∧ ∀ f, ¬t.Refused pool f) ∨
      ∃ f, t.Refused pool f ∧ e = .fault f := by
  unfold profileFolder at h
  dsimp only at h
  split at h
  next nameless =>
    cases h
    have none := String.isEmpty_iff.mp nameless
    exact .inl ⟨rfl, fun there => there.1 none, fun f refused => refused.1 none⟩
  next named =>
    split at h
    next f refused =>
      cases h
      exact .inr ⟨f, ⟨mt String.isEmpty_iff.mpr named, refused⟩, rfl⟩
    · cases h
    next found other seen =>
      cases h
      refine .inl ⟨rfl, fun there => other ?_, fun f refused => ?_⟩
      · exact Except.ok.inj (seen.symm.trans there.2)
      · cases seen.symm.trans refused.2

/-! ## Preparing the user data -/

/-- How the user data of a pool is prepared: what is asked of the collaborators, with the answers,
and what comes of it.  As the store is asked last, it is asked nothing if something else fails. -/
inductive Prepares (t : Profiles) (c : Cluster) (pool : NodePool) (values : Values) :
    List (Exchange Service) → Except Error UserData → Prop
  | noFolder : ¬t.HasFolder pool → (∀ f, ¬t.Refused pool f) →
    Prepares t c pool values [] (.error (.config (.profileNotFound pool.profile)))
  | refused (f : Fault) : t.Refused pool f → Prepares t c pool values [] (.error (.fault f))
  | notRendered (e : Error) : t.HasFolder pool →
    renderTemplate t.files (t.userDataPath pool) (userDataContext c pool values) = .error e →
    Prepares t c pool values [] (.error e)
  | notConverted (rendered : String) (e : Error) : t.HasFolder pool →
    renderTemplate t.files (t.userDataPath pool) (userDataContext c pool values) = .ok rendered →
    Prepares t c pool values [.site (.convert rendered) (.error e)]
      (.error (.template (t.userDataPath pool).text (.unconverted e.message)))
  | notPublished (rendered : String) (payload : Bytes) (cs : List (Exchange Service))
      (cause : PublishFailure) : t.HasFolder pool →
    renderTemplate t.files (t.userDataPath pool) (userDataContext c pool values) = .ok rendered →
    Publisher.Publishes t.scheme t.bucket payload cs (.error (.publish cause)) →
    Prepares t c pool values (.site (.convert rendered) (.ok payload) :: cs)
      (.error (.publish cause))
  | published (rendered : String) (payload : Bytes) : t.HasFolder pool →
    renderTemplate t.files (t.userDataPath pool) (userDataContext c pool values) = .ok rendered →
    Prepares t c pool values
      [.site (.convert rendered) (.ok payload), .cloud (.ensureBucket t.bucket) (.ok ()),
        .cloud (.put t.bucket (contentKey payload) payload) (.ok ())]
      (.ok ⟨rendered, payload, Publisher.uri t.scheme t.bucket (contentKey payload),
        Bootstrap.encodeUserData (Publisher.uri t.scheme t.bucket (contentKey payload)) t.version⟩)

section

variable {tr : List (Exchange Service)} {r : Except Error UserData} {rendered : String}

/-- Converted user data is published, and what a machine is given tells the address. -/
theorem prepares_of_publish {payload : Bytes} (there : t.HasFolder pool)
    (text : renderTemplate t.files (t.userDataPath pool) (userDataContext c pool values) =
      .ok rendered)
    (run : Runs (do
      let uri ← Publisher.publish t.scheme t.bucket payload
      return ⟨rendered, payload, uri, Bootstrap.encodeUserData uri t.version⟩ :
        Action Service UserData).outcome tr r) :
    Prepares t c pool values (.site (.convert rendered) (.ok payload) :: calls tr) r := by
  rcases Action.runs_bind.mp run with ⟨e, rfl, failed⟩ | ⟨tr₁, uri, tr₂, rfl, stored, made⟩
  · have publishes := Publisher.runs_publish failed
    obtain ⟨cause, rfl⟩ := publishes.exists_cause
    exact .notPublished rendered payload _ cause there text publishes
  · obtain ⟨rfl, rfl⟩ := Action.runs_pure.mp made
    have publishes := Publisher.runs_publish stored
    rw [List.append_nil]
    generalize calls tr₁ = cs at publishes
    cases publishes with
    | stored => exact .published rendered payload there text

/-- Rendered user data is converted, and an error in this is one of its template. -/
theorem prepares_of_convert (there : t.HasFolder pool)
    (text : renderTemplate t.files (t.userDataPath pool) (userDataContext c pool values) =
      .ok rendered)
    (run : Runs (do
      let payload ← Action.mapError
        (fun e => .template (t.userDataPath pool).text (.unconverted e.message))
        (Service.convert rendered)
      let uri ← Publisher.publish t.scheme t.bucket payload
      return ⟨rendered, payload, uri, Bootstrap.encodeUserData uri t.version⟩ :
        Action Service UserData).outcome tr r) :
    Prepares t c pool values (calls tr) r := by
  rcases Action.runs_bind.mp run with ⟨e, rfl, failed⟩ | ⟨tr₁, payload, tr₂, rfl, made, rest⟩
  · obtain ⟨answer, asked, told⟩ := Action.runs_mapError.mp failed
    obtain rfl := Prog.runs_request.mp asked
    cases answer with
    | ok payload => cases told
    | error cause =>
      cases told
      exact .notConverted rendered cause there text
  · obtain ⟨answer, asked, told⟩ := Action.runs_mapError.mp made
    obtain rfl := Prog.runs_request.mp asked
    cases answer with
    | error cause => cases told
    | ok payload =>
      cases told
      exact prepares_of_publish there text rest

/-- User data is prepared by the rule. -/
theorem runs_prepareUserData (run : Runs (t.prepareUserData c pool values).outcome tr r) :
    Prepares t c pool values (calls tr) r := by
  rcases Action.runs_bind.mp run with ⟨e, rfl, failed⟩ | ⟨tr₁, path, tr₂, rfl, found, later⟩
  · obtain ⟨rfl, missing⟩ := Action.runs_liftM.mp failed
    rcases profileFolder_error missing.symm with ⟨rfl, none, seen⟩ | ⟨f, refused, rfl⟩
    · exact .noFolder none seen
    · exact .refused f refused
  · obtain ⟨rfl, folder⟩ := Action.runs_liftM.mp found
    obtain ⟨there, rfl⟩ := profileFolder_ok folder.symm
    rcases Action.runs_bind.mp later with ⟨e, rfl, failed⟩ | ⟨tr₃, rendered, tr₄, rfl, text, rest⟩
    · obtain ⟨rfl, untold⟩ := Action.runs_liftM.mp failed
      exact .notRendered e there untold.symm
    · obtain ⟨rfl, made⟩ := Action.runs_liftM.mp text
      exact prepares_of_convert there made.symm rest

end

/-! ## The document -/

/-- How the stack document of a pool comes about, with what was made of its user data before. -/
structure RendersBy (t : Profiles) (c : Cluster) (pool : NodePool) (values : Values)
    (tr : List (Exchange Service)) (prepared : Except Error UserData) (r : Except Error String) :
    Prop where
  /-- The collaborators are asked for the user data, and for nothing else. -/
  prepares : Prepares t c pool values (calls tr) prepared
  /-- The template of the stack sees the cluster, the pool and the values that the template of the
  user data has seen, and what a machine is given. -/
  document : r = do
    let made ← prepared
    renderTemplate t.files (t.stackPath pool) (stackContext c pool values made.encoded)
  /-- Without the folder of the profile nobody is asked, and this is told as an error of the
  configuration unless the file system refuses to look for it. -/
  noFolder : ¬t.HasFolder pool → calls tr = [] ∧
    (r = .error (.config (.profileNotFound pool.profile)) ↔ ∀ f, ¬t.Refused pool f)
  /-- The store is asked nothing if something else than the publication fails. -/
  unasked : ∀ e, prepared = .error e → (∀ cause, e ≠ .publish cause) →
    ∀ op answer, .cloud op answer ∉ calls tr
  /-- In front of the publication the template of the user data is to blame, -/
  userData_blamed : ∀ blamed reason, prepared = .error (.template blamed reason) →
    blamed = (t.userDataPath pool).text
  /-- and behind it that of the stack. -/
  stack_blamed : ∀ made blamed reason, prepared = .ok made → r = .error (.template blamed reason) →
    blamed = (t.stackPath pool).text
  /-- The template of the stack makes no difference to user data that could not be prepared. -/
  unread : ∀ e files, prepared = .error e →
    files.probe (t.place pool) = t.files.probe (t.place pool) →
    files.read (t.userDataPath pool) = t.files.read (t.userDataPath pool) →
    Runs ({ t with files }.renderStack c pool values).outcome tr r

section

variable {tr : List (Exchange Service)} {r : Except Error String}

theorem Prepares.hasFolder {cs : List (Exchange Service)} {made : UserData}
    (prepares : Prepares t c pool values cs (.ok made)) : t.HasFolder pool := by
  cases prepares with
  | published _ _ there _ => exact there

theorem Prepares.blamed {cs : List (Exchange Service)} {blamed : String} {reason : TemplateReason}
    (prepares : Prepares t c pool values cs (.error (.template blamed reason))) :
    blamed = (t.userDataPath pool).text := by
  cases prepares with
  | notRendered _ _ failed => exact path_of_renderTemplate failed
  | notConverted => rfl

/-- Without folder nobody is asked, and the fault of the file system is handed on if it has one. -/
theorem Prepares.of_noFolder {cs : List (Exchange Service)} {prepared : Except Error UserData}
    (prepares : Prepares t c pool values cs prepared) (none : ¬t.HasFolder pool) :
    cs = [] ∧ ((prepared = .error (.config (.profileNotFound pool.profile)) ∧
        ∀ f, ¬t.Refused pool f) ∨
      ∃ f, prepared = .error (.fault f) ∧ t.Refused pool f) := by
  cases prepares with
  | noFolder _ seen => exact ⟨rfl, .inl ⟨rfl, seen⟩⟩
  | refused f refused => exact ⟨rfl, .inr ⟨f, rfl, refused⟩⟩
  | notRendered _ there _ => exact absurd there none
  | notConverted _ _ there _ => exact absurd there none
  | notPublished _ _ _ _ there _ _ => exact absurd there none
  | published _ _ there _ => exact absurd there none

theorem Prepares.unasked {cs : List (Exchange Service)} {e : Error}
    (prepares : Prepares t c pool values cs (.error e)) (other : ∀ cause, e ≠ .publish cause)
    (op : CloudOp) (answer : op.Answer) : .cloud op answer ∉ cs := by
  cases prepares with
  | noFolder | refused | notRendered => nofun
  | notConverted rendered cause _ _ =>
    intro mem
    cases List.mem_singleton.mp mem
  | notPublished _ _ _ cause _ _ _ => exact absurd rfl (other cause)

/-- User data is prepared from the folder of its profile and its own template. -/
theorem prepareUserData_congr {files : FileTree}
    (folder : files.probe (t.place pool) = t.files.probe (t.place pool))
    (file : files.read (t.userDataPath pool) = t.files.read (t.userDataPath pool)) :
    { t with files }.prepareUserData c pool values = t.prepareUserData c pool values := by
  have folders : { t with files }.profileFolder pool = t.profileFolder pool := by
    unfold profileFolder
    dsimp only
    rw [← place, folder]
  have texts (context : Fields Template.Value) :
      renderTemplate files (t.userDataPath pool) context =
        renderTemplate t.files (t.userDataPath pool) context := by
    rw [renderTemplate, file]
    rfl
  rw [prepareUserData, prepareUserData, folders]
  cases found : t.profileFolder pool with
  | error e => rfl
  | ok path =>
    obtain ⟨-, rfl⟩ := profileFolder_ok found
    show (liftM (renderTemplate files (t.userDataPath pool) _) >>= _ : Action Service _) = _
    rw [texts]
    rfl

/-- The document is rendered behind the preparation, or not at all. -/
theorem runs_renderStack (run : Runs (t.renderStack c pool values).outcome tr r) :
    ∃ prepared, RendersBy t c pool values tr prepared r := by
  rcases Action.runs_bind.mp run with ⟨e, rfl, failed⟩ | ⟨tr₁, made, tr₂, rfl, prepared, later⟩
  · have prepares := runs_prepareUserData failed
    refine ⟨.error e, prepares, rfl, fun none => ?_, fun _ same other op answer => ?_,
      fun blamed reason same => ?_, nofun, fun _ files _ folder file => ?_⟩
    · obtain ⟨quiet, ⟨told, seen⟩ | ⟨f, told, refused⟩⟩ := prepares.of_noFolder none
      · cases told
        exact ⟨quiet, fun _ => seen, fun _ => rfl⟩
      · cases told
        exact ⟨quiet, nofun, fun seen => absurd refused (seen f)⟩
    · cases same
      exact prepares.unasked other op answer
    · cases same
      exact prepares.blamed
    · refine Action.runs_bind.mpr (.inl ⟨e, rfl, ?_⟩)
      rwa [prepareUserData_congr folder file]
  · have prepares := runs_prepareUserData prepared
    have there := prepares.hasFolder
    obtain ⟨tr₃, same, rest⟩ := Service.runs_log_bind later
    rcases Action.runs_bind.mp rest with ⟨e, rfl, failed⟩ | ⟨tr₄, path, tr₅, rfl, found, render⟩
    · obtain ⟨rfl, missing⟩ := Action.runs_liftM.mp failed
      rw [profileFolder_of_hasFolder there] at missing
      cases missing
    · obtain ⟨rfl, folder⟩ := Action.runs_liftM.mp found
      obtain ⟨-, rfl⟩ := profileFolder_ok folder.symm
      obtain ⟨rfl, document⟩ := Action.runs_liftM.mp render
      have silent : calls tr₂ = [] := same
      refine ⟨.ok made, ?_, document, fun none => absurd there none, nofun, nofun,
        fun _ blamed reason _ failed => ?_, nofun⟩
      · rwa [calls_append, silent, List.append_nil]
      · exact path_of_renderTemplate (document.symm.trans failed)

end

/-- Nothing of it is ever cut off. -/
theorem uncut_renderStack (t : Profiles) (c : Cluster) (pool : NodePool) (values : Values) :
    Uncut (t.renderStack c pool values).outcome := by
  open NodePools.Action in
  simp only [renderStack, prepareUserData, bind_assoc, pure_bind]
  refine uncut_bind (uncut_liftM _) fun folder => uncut_bind (uncut_liftM _) fun rendered => ?_
  refine uncut_bind (uncut_mapError (.request _)) fun payload => ?_
  refine uncut_bind (Attempt.uncut_publish ..) fun uri => ?_
  refine uncut_bind (Service.uncut_log ..) fun _ => ?_
  exact uncut_bind (uncut_liftM _) fun folder => uncut_liftM _

/-- Whatever is answered, the stack document of a pool is rendered in order: the folder of the
profile, the template of the user data, the conversion and the publication, each only when
nothing in front of it has failed, and the template of the stack behind them.  The one thing that
is not told as an error of the profile is a name that is too long to be looked for. -/
theorem renderStack_in_order {σ : Type} (t : Profiles) (c : Cluster) (pool : NodePool)
    (values : Values) (answer : Handler Service σ) (s : σ) :
    (∃ tr prepared r s', (t.renderStack c pool values).outcome.run answer s = (some r, s') ∧
      Runs (t.renderStack c pool values).outcome tr r ∧ answer.Plays s tr s' ∧
      RendersBy t c pool values tr prepared r) ∧
    ∀ f, t.Refused pool f →
      FileTree.maxPath ≤ (Text.Utf8.encode (t.place pool).text).length ∨
        ∃ name ∈ (t.place pool).names, FileTree.maxName < (Text.Utf8.encode name).length := by
  refine ⟨?_, fun f refused => FileTree.long_of_probe refused.2⟩
  obtain ⟨r, s', run⟩ := (uncut_renderStack t c pool values).run answer s
  obtain ⟨tr, runs, plays⟩ := Prog.run_eq_some_iff.mp run
  obtain ⟨prepared, renders⟩ := runs_renderStack runs
  exact ⟨tr, prepared, r, s', run, runs, plays, renders⟩

/-- A folder of profiles with the one of workers. -/
def workers : Profiles :=
  ⟨FileTree.empty.addFile (.ofString "profiles/worker/userdata.clc.yaml") [],
    .ofString "profiles", "bucket", "s3", Bootstrap.defaultVersion⟩

/-- A pool whose profile has a name of more letters than a file may have. -/
def longNamed : NodePool := .identified "default" (String.ofList (List.replicate 256 'p'))

/-- The file system refuses to look for its folder. -/
theorem refused_longNamed : ∃ f, workers.Refused longNamed f := by
  have letters : longNamed.profile.toList = List.replicate 256 'p' := String.toList_ofList
  have other {s : String} (differs : s.toList ≠ List.replicate 256 'p') : longNamed.profile ≠ s :=
    fun same => differs (same ▸ letters)
  have size : FileTree.maxName < (Text.Utf8.encode longNamed.profile).length := by
    rw [Text.Utf8.encode, letters]
    decide +kernel
  have place_eq : workers.place longNamed = ⟨.relative, ["profiles", longNamed.profile]⟩ := by
    have names : Path.namesOf (List.replicate 256 'p') = [longNamed.profile] := by decide +kernel
    rw [place, Path.child, Path.ofString, letters, names]
    rfl
  have tooLong : workers.files.find (workers.place longNamed) = .error .nameTooLong := by
    rw [place_eq, FileTree.find]
    split
    · rfl
    · have first : FileTree.step (.within []) "profiles" = .ok (.within ["profiles"]) := by decide
      show workers.files.follow (.within []) ["profiles", longNamed.profile] = _
      rw [FileTree.follow_cons (by decide), first]
      dsimp only
      rw [FileTree.follow_cons (by decide), FileTree.step_of_long (other (by decide +kernel)) size]
  have askable : FileTree.unaskable (workers.place longNamed) = false := by
    rw [place_eq, FileTree.unaskable, List.any_cons, List.any_cons, letters]
    decide +kernel
  have refused : ∃ f, workers.files.probe (workers.place longNamed) = .error f := by
    rw [FileTree.probe, askable, tooLong]
    exact ⟨_, rfl⟩
  exact refused.imp fun f told => ⟨other (by decide +kernel), told⟩

/-- Its profile has no folder, and this is not told as an error of the configuration. -/
theorem longName_not_config :
    ¬workers.HasFolder longNamed ∧
    ∀ tr r,
      Runs (workers.renderStack ⟨"kube", "eu-central-1", [], .nil⟩ longNamed []).outcome tr r →
      (∃ f, r = .error (.fault f)) ∧
        r ≠ .error (.config (.profileNotFound longNamed.profile)) := by
  obtain ⟨f, refused⟩ := refused_longNamed
  have none : ¬workers.HasFolder longNamed := fun there => by cases there.2.symm.trans refused.2
  refine ⟨none, fun tr r run => ?_⟩
  obtain ⟨prepared, renders⟩ := runs_renderStack run
  have untold := mt (renders.noFolder none).2.mp fun seen => seen f refused
  obtain ⟨-, ⟨-, seen⟩ | ⟨f, rfl, -⟩⟩ := renders.prepares.of_noFolder none
  · exact absurd refused (seen f)
  · exact ⟨⟨f, renders.document⟩, untold⟩

end Profiles
end NodePools
