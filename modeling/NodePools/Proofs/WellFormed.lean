import NodePools.Proofs.Convergence

/-!
# Answers that are well formed

An answer of the service of the stacks is well formed if the stacks in it have a name, a
status and tags of the kind they should have, and an error answer if its code and its message
are texts.  Whatever is well formed is read without a fault: a look at a stack
(`reads_lookOf`), a page of a listing (`reads_listedOn`), and the code and the message of an
error (`ClientError.InTexts.codeIsIn`, `ClientError.InTexts.mentions`).
-/

namespace NodePools

/-! ## Readings that succeed -/

/-- A reading succeeds, and gives something of a kind. -/
def Reads {α : Type} (x : Except Fault α) (P : α → Prop) : Prop := ∃ a, x = .ok a ∧ P a

namespace Reads

variable {α β : Type} {P : α → Prop} {Q : β → Prop}

theorem ok {a : α} (h : P a) : Reads (.ok a) P := ⟨a, rfl, h⟩

theorem bind {x : Except Fault α} {f : α → Except Fault β} (first : Reads x P)
    (second : ∀ a, P a → Reads (f a) Q) : Reads (x >>= f) Q := by
  obtain ⟨a, rfl, of_a⟩ := first
  exact second a of_a

theorem mapM {f : α → Except Fault β} {items : List α} (each : ∀ a ∈ items, Reads (f a) Q) :
    Reads (items.mapM f) fun made => ∀ b ∈ made, Q b := by
  induction items with
  | nil => exact .ok nofun
  | cons a rest ih =>
    obtain ⟨here, others⟩ := List.forall_mem_cons.mp each
    rw [List.mapM_cons]
    refine here.bind fun b of_b => (ih others).bind fun made of_made => .ok ?_
    exact List.forall_mem_cons.mpr ⟨of_b, of_made⟩

theorem filterMapM {f : α → Except Fault (Option β)} {items : List α}
    (each : ∀ a ∈ items, Reads (f a) fun found => ∀ b ∈ found, Q b) :
    Reads (items.filterMapM f) fun made => ∀ b ∈ made, Q b := by
  induction items with
  | nil => exact .ok nofun
  | cons a rest ih =>
    obtain ⟨here, others⟩ := List.forall_mem_cons.mp each
    rw [List.filterMapM_cons]
    refine here.bind fun found of_found => ?_
    cases found with
    | none => exact ih others
    | some b =>
      refine (ih others).bind fun made of_made => .ok ?_
      exact List.forall_mem_cons.mpr ⟨of_found b rfl, of_made⟩

theorem foldlM {f : β → α → Except Fault β} {items : List α} {first : β}
    (each : ∀ a ∈ items, ∀ b, Reads (f b a) fun _ => True) :
    Reads (items.foldlM f first) fun _ => True := by
  induction items generalizing first with
  | nil => exact .ok trivial
  | cons a rest ih =>
    obtain ⟨here, others⟩ := List.forall_mem_cons.mp each
    rw [List.foldlM_cons]
    exact (here first).bind fun b _ => ih others

end Reads

/-! ## Error answers -/

/-- What a service says by an error answer, it says in texts. -/
structure ClientError.InTexts (e : ClientError) : Prop where
  code : ∀ d ∈ e.code, ∃ s, d = .text s
  message : ∀ d ∈ e.message, ∃ s, d = .text s

namespace ClientError.InTexts

variable {e : ClientError}

theorem codeIsIn (h : e.InTexts) (codes : List String) :
    Reads (e.codeIsIn codes) fun _ => True := by
  refine Reads.bind (P := fun _ => True) ?_ fun _ _ => .ok trivial
  cases given : e.code with
  | none => exact .ok trivial
  | some d =>
    obtain ⟨s, rfl⟩ := h.code d given
    exact .ok trivial

theorem mentions (h : e.InTexts) (needle : String) :
    Reads (Aws.Stacks.mentions needle e.detail) fun _ => True := by
  rw [detail]
  cases given : e.message with
  | none => exact .ok trivial
  | some d =>
    obtain ⟨s, rfl⟩ := h.message d given
    exact .ok trivial

end ClientError.InTexts

/-! ## Stacks in answers -/

namespace Aws.Stacks

/-- Under a key there is a text. -/
def HasText (key : String) (fields : Fields Datum) : Prop :=
  ∃ s, Fields.get? key fields = some (.text s)

/-- A list all of whose items are of a kind. -/
def ListOf (kind : Datum → Prop) (d : Datum) : Prop :=
  ∃ items, d = .list items ∧ ∀ i ∈ items, kind i

/-- A tag as the service lists it. -/
def IsTag (d : Datum) : Prop := ∃ fields, d = .table fields ∧ HasText "Key" fields

/-- A stack as the service describes it. -/
def IsStack (d : Datum) : Prop :=
  ∃ fields, d = .table fields ∧ HasText "StackName" fields ∧ HasText "StackStatus" fields ∧
    ∀ tags, Fields.get? "Tags" fields = some tags → ListOf IsTag tags

/-- A well-formed answer that describes stacks. -/
def DescribesStacks (d : Datum) : Prop :=
  ∃ fields, d = .table fields ∧
    ∀ given, Fields.get? "Stacks" fields = some given → ListOf IsStack given

theorem reads_field {key s : String} {fields : Fields Datum}
    (h : Fields.get? key fields = some (.text s)) :
    Reads ((Datum.table fields).field key) (· = .text s) := by
  rw [Datum.field, h]
  exact .ok rfl

theorem reads_get? (key : String) (fields : Fields Datum) :
    Reads ((Datum.table fields).get? key) (· = Fields.get? key fields) :=
  .ok rfl

/-- What is missing counts as an empty list. -/
theorem ListOf.getD {kind : Datum → Prop} {found : Option Datum}
    (h : ∀ d, found = some d → ListOf kind d) : ListOf kind (found.getD (.list [])) := by
  cases found with
  | none => exact ⟨[], rfl, nofun⟩
  | some d => exact h d rfl

theorem ListOf.items {kind : Datum → Prop} {d : Datum} (h : ListOf kind d) :
    Reads d.items fun items => ∀ i ∈ items, kind i := by
  obtain ⟨items, rfl, all⟩ := h
  exact .ok all

theorem reads_tagsOf {d : Datum} (h : ListOf IsTag d) : Reads (tagsOf d) fun _ => True := by
  refine h.items.bind fun items all => ?_
  refine Reads.bind (P := fun pairs : List (Datum × Datum) => ∀ e ∈ pairs, ∃ s, e.1 = .text s)
    (.filterMapM fun i mem => ?_) fun pairs keys => .foldlM fun e mem made => ?_
  · obtain ⟨fields, rfl, s, key⟩ := all i mem
    rw [tagOf?, key]
    refine .ok fun e same => ?_
    cases same
    exact ⟨s, rfl⟩
  · obtain ⟨key, value⟩ := e
    obtain ⟨s, rfl⟩ : ∃ s, key = .text s := keys _ mem
    exact .ok trivial

theorem reads_listedOf {d : Datum} (h : IsStack d) (wanted : Fields Datum) :
    Reads (listedOf wanted d) fun _ => True := by
  obtain ⟨fields, rfl, ⟨name, of_name⟩, ⟨status, of_status⟩, tags⟩ := h
  refine (reads_field of_status).bind fun _ _ => ?_
  split
  · exact .ok trivial
  · refine (reads_get? "Tags" fields).bind ?_
    rintro _ rfl
    refine (reads_tagsOf (ListOf.getD tags)).bind fun _ _ => ?_
    split
    · exact (reads_field of_name).bind fun _ _ => .ok trivial
    · exact .ok trivial

/-- A well-formed page is read. -/
theorem reads_listedOn {page : Datum} (h : DescribesStacks page) (wanted : Fields Datum) :
    Reads (listedOn wanted page) fun _ => True := by
  obtain ⟨fields, rfl, described⟩ := h
  refine (reads_get? "Stacks" fields).bind ?_
  rintro _ rfl
  refine (ListOf.getD described).items.bind fun items all => ?_
  exact (Reads.mapM fun d mem => reads_listedOf (all d mem) wanted).bind fun _ _ => .ok trivial

/-- A well-formed answer to a look is read, and the status it shows is a text. -/
theorem reads_lookOf {answer : Datum} (h : DescribesStacks answer) :
    Reads (lookOf answer) fun found => ∀ l ∈ found, ∃ s, l.status = .text s := by
  obtain ⟨fields, rfl, described⟩ := h
  refine (reads_get? "Stacks" fields).bind ?_
  rintro _ rfl
  obtain ⟨items, found, all⟩ := ListOf.getD described
  rw [found]
  cases items with
  | nil => exact .ok nofun
  | cons first rest =>
    obtain ⟨stack, rfl, -, ⟨status, of_status⟩, -⟩ := all first List.mem_cons_self
    refine Reads.bind (P := (· = .table stack)) (.ok rfl) ?_
    rintro _ rfl
    refine (reads_field of_status).bind ?_
    rintro _ rfl
    refine (reads_get? "StackStatusReason" stack).bind fun _ _ => .ok ?_
    rintro l ⟨⟩
    exact ⟨status, rfl⟩

end Aws.Stacks
end NodePools
