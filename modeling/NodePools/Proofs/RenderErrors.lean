import NodePools.Proofs.OwnErrors
import NodePools.Proofs.StackRendering
import NodePools.Proofs.Utf8

/-!
# Which failures of rendering are told

A template that comes to nothing should be told as an error of this library that names its path.
This is so of a file that the operating system does not hand out, of a text that is no template,
and of a template that uses something undefined (`Told`).  It is not so of bytes that are no text,
nor where what the template does with its values ends in a fault: a template is told if and only
if it is `Faultless`.

On the way to a stack document, what the converter and the store fail with is always told, so that
the two templates and the look for the folder decide whether a failure is
(`Profiles.own_iff_faultless`).
A template of one byte that begins no character is enough to miss it
(`Profiles.strayByte_not_own`).
-/

namespace NodePools

open Prog (Runs)

instance {α : Type} : (r : Except Error α) → Decidable (Own r)
  | .ok _ => isTrue failsBy_ok
  | .error e => decidable_of_iff (e.isOwn = true) ⟨fun h => failsBy_error h, fun h => h e rfl⟩

theorem not_own_fault {α : Type} (f : Fault) : ¬Own (.error (.fault f) : Except Error α) :=
  fun h => nomatch h _ rfl

/-! ## One template -/

/-- A text as the source of a template, in which all lines end in one way. -/
def asSource (text : String) : String := String.ofList (Text.unifyLineEnds text.toList)

section

variable (files : FileTree) (path : Path) (context : Fields Template.Value)

/-- A path can be asked for, and if there is a file, it holds the bytes of a text, and neither
reading this text as a template nor rendering it ends in a fault.  Among the faults is that of a
form of the template language of which no meaning is given. -/
def Faultless : Prop :=
  ∃ found, files.read path = .ok found ∧ ∀ content, found = .ok content →
    ∃ text, content = Text.Utf8.encode text ∧
      ∀ f, Template.render (asSource text) context ≠ .error (.fault f)

/-- How a template that comes to nothing is told, and when. -/
structure Told : Prop where
  /-- A file that is not handed out is told by the reason of the operating system, -/
  refused : ∀ why, files.read path = .ok (.error why) →
    renderTemplate files path context = .error (.template path.text (.unreadable why.text))
  /-- what is no template by a line, -/
  malformed : ∀ text line, files.read path = .ok (.ok (Text.Utf8.encode text)) →
    Template.Program.ofSource (asSource text) = .error (.refused (.malformed line)) →
    renderTemplate files path context = .error (.template path.text (.malformed line))
  /-- and the use of something undefined by what there is to say about it. -/
  undefined : ∀ text p why message, files.read path = .ok (.ok (Text.Utf8.encode text)) →
    Template.Program.ofSource (asSource text) = .ok p → p.text context = .error (.missing why) →
    why.reason = .ok message →
    renderTemplate files path context = .error (.template path.text (.described message))
  /-- Bytes that are no text are a fault. -/
  undecodable : ∀ content, files.read path = .ok (.ok content) →
    (∀ text, content ≠ Text.Utf8.encode text) →
    ∃ u, Text.Utf8.decode content = .error u ∧
      renderTemplate files path context = .error (.fault ⟨.decoding, u.text⟩)
  /-- There is a text, or an error of this library, if and only if nothing ends in a fault. -/
  own_iff : Own (renderTemplate files path context) ↔ Faultless files path context

end

variable {files : FileTree} {path : Path} {context : Fields Template.Value}

/-- A file that holds a text is rendered as a template, and all but a fault is told with the
path. -/
theorem renderTemplate_of_text {text : String}
    (found : files.read path = .ok (.ok (Text.Utf8.encode text))) :
    renderTemplate files path context =
      match Template.render (asSource text) context with
      | .ok s => .ok s
      | .error (.refused reason) => .error (.template path.text reason)
      | .error (.fault f) => .error (.fault f) := by
  rw [renderTemplate, found]
  dsimp only
  rw [Text.Utf8.decode_encode]
  rfl

theorem renderTemplate_of_refusal {why : FileRefusal}
    (found : files.read path = .ok (.error why)) :
    renderTemplate files path context = .error (.template path.text (.unreadable why.text)) := by
  rw [renderTemplate, found]

theorem exists_undecodable {content : Bytes} (found : files.read path = .ok (.ok content))
    (none : ∀ text, content ≠ Text.Utf8.encode text) :
    ∃ u, Text.Utf8.decode content = .error u ∧
      renderTemplate files path context = .error (.fault ⟨.decoding, u.text⟩) := by
  cases decoded : Text.Utf8.decode content with
  | ok text => exact absurd (Text.Utf8.encode_of_decode decoded) (none text)
  | error u =>
    refine ⟨u, rfl, ?_⟩
    rw [renderTemplate, found]
    dsimp only
    rw [decoded]

theorem own_renderTemplate_iff :
    Own (renderTemplate files path context) ↔ Faultless files path context := by
  unfold Faultless
  cases found : files.read path with
  | error f =>
    have failed : renderTemplate files path context = .error (.fault f) := by
      rw [renderTemplate, found]
    rw [failed]
    exact ⟨fun own => absurd own (not_own_fault f), by rintro ⟨_, ⟨⟩, _⟩⟩
  | ok answer =>
    simp only [Except.ok.injEq, exists_eq_left']
    cases answer with
    | error why =>
      rw [renderTemplate_of_refusal found]
      refine ⟨fun _ content same => ?_, fun _ => failsBy_error rfl⟩
      cases same
    | ok content =>
      simp only [Except.ok.injEq, forall_eq']
      by_cases holds : ∃ text, content = Text.Utf8.encode text
      · obtain ⟨text, rfl⟩ := holds
        have only : (∃ other, Text.Utf8.encode text = Text.Utf8.encode other ∧
              ∀ f, Template.render (asSource other) context ≠ .error (.fault f)) ↔
            ∀ f, Template.render (asSource text) context ≠ .error (.fault f) := by
          refine ⟨?_, fun h => ⟨text, rfl, h⟩⟩
          rintro ⟨other, same, h⟩
          have decoded := Text.Utf8.decode_encode text
          rw [same, Text.Utf8.decode_encode] at decoded
          exact Except.ok.inj decoded ▸ h
        rw [only, renderTemplate_of_text found]
        -- what rendering comes to decides
        cases Template.render (asSource text) context with
        | ok s =>
          refine ⟨fun _ f same => ?_, fun _ => failsBy_ok⟩
          cases same
        | error e =>
          cases e with
          | refused reason =>
            refine ⟨fun _ f same => ?_, fun _ => failsBy_error rfl⟩
            cases same
          | fault f => exact ⟨fun own => absurd own (not_own_fault f), fun h => absurd rfl (h f)⟩
      · have none : ∀ text, content ≠ Text.Utf8.encode text := fun text same => holds ⟨text, same⟩
        obtain ⟨u, -, failed⟩ : ∃ u, Text.Utf8.decode content = .error u ∧
            renderTemplate files path context = .error (.fault ⟨.decoding, u.text⟩) :=
          exists_undecodable found none
        rw [failed]
        refine ⟨fun own => absurd own (not_own_fault _), ?_⟩
        rintro ⟨text, same, -⟩
        exact absurd ⟨text, same⟩ holds

theorem told (files : FileTree) (path : Path) (context : Fields Template.Value) :
    Told files path context where
  refused _ := renderTemplate_of_refusal
  malformed text line found unread := by
    rw [renderTemplate_of_text found, Template.render, unread]
    rfl
  undefined text p why message found read missing reason := by
    have failed : Template.render (asSource text) context =
        .error (.refused (.described message)) := by
      rw [Template.render, read]
      show (p.text context).mapError Template.RenderError.ofEval = _
      rw [missing]
      show Except.error (Template.RenderError.ofEval (.missing why)) = _
      rw [Template.RenderError.ofEval, reason]
    rw [renderTemplate_of_text found, failed]
  undecodable _ := exists_undecodable
  own_iff := own_renderTemplate_iff

/-! ## The way to a stack document -/

namespace Profiles

/-- A run towards the stack document of a pool, with how its failure is told. -/
structure TellsErrors (t : Profiles) (c : Cluster) (pool : NodePool) (values : Values)
    (tr : List (Exchange Service)) (prepared : Except Error UserData) (r : Except Error String) :
    Prop where
  renders : RendersBy t c pool values tr prepared r
  /-- Whatever the converter fails with is told as an error of the template of the user data, -/
  converter : ∀ rendered e, .site (.convert rendered) (.error e) ∈ calls tr →
    r = .error (.template (t.userDataPath pool).text (.unconverted e.message))
  /-- and whatever the store fails with as an error about publishing. -/
  store : ∀ e, (∃ bucket, .cloud (.ensureBucket bucket) (.error e) ∈ calls tr) ∨
      (∃ bucket key content, .cloud (.put bucket key content) (.error e) ∈ calls tr) →
    ∃ cause, r = .error (.publish cause)
  /-- There is a document, or an error of this library, if and only if the file system looks for
  the folder and each template that is rendered is faultless: that of the user data if there is a
  folder, and that of the stack if the user data could be prepared. -/
  own_iff : Own r ↔ (∀ f, ¬t.Refused pool f) ∧
    (t.HasFolder pool →
      Faultless t.files (t.userDataPath pool) (userDataContext c pool values)) ∧
    ∀ made, prepared = .ok made →
      Faultless t.files (t.stackPath pool) (stackContext c pool values made.encoded)

variable {t : Profiles} {c : Cluster} {pool : NodePool} {values : Values}

theorem HasFolder.not_refused (there : t.HasFolder pool) (f : Fault) : ¬t.Refused pool f :=
  fun refused => by cases there.2.symm.trans refused.2

theorem faultless_of_rendered {files : FileTree} {path : Path} {context : Fields Template.Value}
    {text : String} (rendered : renderTemplate files path context = .ok text) :
    Faultless files path context :=
  own_renderTemplate_iff.mp (rendered ▸ failsBy_ok)

section

variable {cs : List (Exchange Service)} {prepared : Except Error UserData}

/-- To publish asks the store only. -/
theorem not_mem_of_publishes {scheme bucket : String} {content : Bytes}
    {result : Except Error String} (publishes : Publisher.Publishes scheme bucket content cs result)
    (op : SiteOp) (answer : op.Answer) : .site op answer ∉ cs := by
  intro mem
  cases publishes with
  | bucketRefused e => cases List.mem_singleton.mp mem
  | notStored | stored =>
    rcases List.mem_cons.mp mem with same | mem
    · cases same
    · cases List.mem_singleton.mp mem

/-- If the converter fails, this is told with the template that it was given the text of. -/
theorem Prepares.of_converter (prepares : Prepares t c pool values cs prepared) {rendered : String}
    {e : Error} (mem : .site (.convert rendered) (.error e) ∈ cs) :
    prepared = .error (.template (t.userDataPath pool).text (.unconverted e.message)) := by
  cases prepares with
  | noFolder | refused | notRendered => cases mem
  | notConverted =>
    cases List.mem_singleton.mp mem
    rfl
  | notPublished _ _ _ _ _ _ publishes =>
    rcases List.mem_cons.mp mem with same | mem
    · cases same
    · exact absurd mem (not_mem_of_publishes publishes _ _)
  | published rendered' payload =>
    have stores : Publisher.Publishes t.scheme t.bucket payload _ _ := .stored
    rcases List.mem_cons.mp mem with same | mem
    · cases same
    · exact absurd mem (not_mem_of_publishes stores _ _)

/-- If the store fails, this is told as an error about publishing. -/
theorem Prepares.of_store (prepares : Prepares t c pool values cs prepared) {e : Error}
    (failed : (∃ bucket, .cloud (.ensureBucket bucket) (.error e) ∈ cs) ∨
      ∃ bucket key content, .cloud (.put bucket key content) (.error e) ∈ cs) :
    ∃ cause, prepared = .error (.publish cause) := by
  cases prepares with
  | noFolder | refused | notRendered =>
    simp only [List.not_mem_nil, exists_false, or_self] at failed
  | notConverted =>
    rcases failed with ⟨_, mem⟩ | ⟨_, _, _, mem⟩
    all_goals cases List.mem_singleton.mp mem
  | notPublished _ _ _ cause => exact ⟨cause, rfl⟩
  | published =>
    rcases failed with ⟨_, mem⟩ | ⟨_, _, _, mem⟩
    all_goals
      simp only [List.mem_cons, List.not_mem_nil, or_false] at mem
      rcases mem with same | same | same <;> cases same

/-- What becomes of the user data decides unless it is prepared: then nothing has ended in a fault
so far. -/
theorem Prepares.own_iff (prepares : Prepares t c pool values cs prepared) :
    Own prepared ↔ (∀ f, ¬t.Refused pool f) ∧ (t.HasFolder pool →
      Faultless t.files (t.userDataPath pool) (userDataContext c pool values)) := by
  cases prepares with
  | noFolder none seen =>
    exact ⟨fun _ => ⟨seen, fun there => absurd there none⟩, fun _ => failsBy_error rfl⟩
  | refused f refused =>
    exact ⟨fun own => absurd own (not_own_fault f), fun h => absurd refused (h.1 f)⟩
  | notRendered e there failed =>
    have decides : Own (.error e : Except Error UserData) ↔ Own (.error e : Except Error String) :=
      ⟨fun own => failsBy_error (own e rfl), fun own => failsBy_error (own e rfl)⟩
    rw [decides, ← failed, own_renderTemplate_iff]
    exact ⟨fun h => ⟨there.not_refused, fun _ => h⟩, fun h => h.2 there⟩
  | notConverted _ _ there text =>
    exact ⟨fun _ => ⟨there.not_refused, fun _ => faultless_of_rendered text⟩,
      fun _ => failsBy_error rfl⟩
  | notPublished _ _ _ _ there text _ =>
    exact ⟨fun _ => ⟨there.not_refused, fun _ => faultless_of_rendered text⟩,
      fun _ => failsBy_error rfl⟩
  | published _ _ there text =>
    exact ⟨fun _ => ⟨there.not_refused, fun _ => faultless_of_rendered text⟩, fun _ => failsBy_ok⟩

end

theorem RendersBy.tellsErrors {tr : List (Exchange Service)} {prepared : Except Error UserData}
    {r : Except Error String} (renders : RendersBy t c pool values tr prepared r) :
    TellsErrors t c pool values tr prepared r where
  renders := renders
  converter rendered e mem := by
    rw [renders.document, renders.prepares.of_converter mem]
    rfl
  store e failed := by
    obtain ⟨cause, same⟩ := renders.prepares.of_store failed
    rw [renders.document, same]
    exact ⟨cause, rfl⟩
  own_iff := by
    rw [renders.document, ← and_assoc, ← renders.prepares.own_iff]
    simp only [← own_renderTemplate_iff]
    exact failsBy_bind_iff

/-- Whatever is answered, there is a stack document or an error of this library if and only if the
file system looks for the folder of the profile and no template that is rendered ends in a fault.
And a template that comes to nothing is told with its path, but for faults. -/
theorem own_iff_faultless {σ : Type} (t : Profiles) (c : Cluster) (pool : NodePool)
    (values : Values) (answer : Handler Service σ) (s : σ) :
    (∃ tr prepared r s', (t.renderStack c pool values).outcome.run answer s = (some r, s') ∧
      Runs (t.renderStack c pool values).outcome tr r ∧ answer.Plays s tr s' ∧
      TellsErrors t c pool values tr prepared r) ∧
    ∀ files path context, Told files path context := by
  refine ⟨?_, told⟩
  obtain ⟨r, s', run⟩ := (uncut_renderStack t c pool values).run answer s
  obtain ⟨tr, runs, plays⟩ := Prog.run_eq_some_iff.mp run
  obtain ⟨prepared, renders⟩ := runs_renderStack runs
  exact ⟨tr, prepared, r, s', run, runs, plays, renders.tellsErrors⟩

/-! ## A template that is no text, and two that end in a fault -/

/-- Profiles of which the user data of workers is in these bytes. -/
def userDataOf (content : Bytes) : Profiles :=
  { workers with
    files := FileTree.empty.addFile (.ofString "profiles/worker/userdata.clc.yaml") content }

/-- A pool of workers. -/
def aWorker : NodePool := .identified "default" "worker"

/-- User data that ends in a fault is not told, whatever is answered. -/
theorem not_own_of_userData {σ : Type} (answer : Handler Service σ) (s : σ)
    (there : t.HasFolder pool)
    (untold : ¬Own (renderTemplate t.files (t.userDataPath pool) (userDataContext c pool values))) :
    ∃ r s', (t.renderStack c pool values).outcome.run answer s = (some r, s') ∧ ¬Own r := by
  obtain ⟨r, s', run⟩ := (uncut_renderStack t c pool values).run answer s
  obtain ⟨tr, runs, -⟩ := Prog.run_eq_some_iff.mp run
  obtain ⟨prepared, renders⟩ := runs_renderStack runs
  refine ⟨r, s', run, fun own => untold (own_renderTemplate_iff.mpr ?_)⟩
  exact (renders.tellsErrors.own_iff.mp own).2.1 there

/-- A byte that begins no character, a division by zero, and the sum of a number and a text. -/
theorem strayByte_not_own :
    (∀ answer : Handler Service Unit, ∃ r s',
      ((userDataOf [0xff]).renderStack ⟨"kube", "eu-central-1", [], .nil⟩ aWorker []).outcome.run
        answer () = (some r, s') ∧ ¬Own r) ∧
    (∀ answer : Handler Service Unit, ∃ r s',
      ((userDataOf (Text.Utf8.encode "\x7b\x7b 1 // 0 \x7d\x7d")).renderStack
        ⟨"kube", "eu-central-1", [], .nil⟩ aWorker []).outcome.run answer () = (some r, s') ∧
        ¬Own r) ∧
    ∀ answer : Handler Service Unit, ∃ r s',
      ((userDataOf (Text.Utf8.encode "\x7b\x7b 1 + 'a' \x7d\x7d")).renderStack
        ⟨"kube", "eu-central-1", [], .nil⟩ aWorker []).outcome.run answer () = (some r, s') ∧
        ¬Own r := by
  refine ⟨fun answer => ?_, fun answer => ?_, fun answer => ?_⟩
  all_goals exact not_own_of_userData answer () ⟨by decide, by decide +kernel⟩ (by decide +kernel)

end Profiles
end NodePools
