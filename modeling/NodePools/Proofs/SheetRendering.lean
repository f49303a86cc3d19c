import NodePools.Proofs.LayeredConfig
import NodePools.Proofs.RenderErrors
import NodePools.Proofs.SheetProgram

/-!
# Values in templates by their names

A template that prints a value by its name, as a member of the values, shows the value in that
place.  But a table has members of its own, its methods, and these are found first: under such a
name no value is ever shown, and none is ever missed (`rendered_by_name`).
-/

namespace NodePools.Template

open Value (ofFields tableMethods)

/-! ## A member of a table of texts -/

/-- What is printed for a method of a table, up to its address in memory. -/
def methodText (name : String) : String :=
  let owner := if Value.typeMethods.contains name then "type" else "dict"
  "<built-in method " ++ name ++ " of " ++ owner ++ " object>"

/-- What is printed for a name among values: a method of the table, or else the value. -/
def shownAs (texts : Fields String) (name : String) : Option String :=
  if tableMethods.contains name then some (methodText name) else texts.get? name

/-- What is said of a name among values that stands for nothing. -/
def absentText (name : String) : String := s!"'dict object' has no attribute {Text.quoted name}"

theorem sameItem_text (a b : String) : Value.sameItem (.text a) (.text b) = pure (a == b) := by
  have other : Value.identical (.text a) (.text b) = false := rfl
  rw [Value.sameItem, Value.itemTest, other]
  simp [Value.same, Value.text?]

theorem lookup?_ofFields (key : String) (fields : Fields Datum) :
    Value.lookup? (.text key) (ofFields fields) =
      pure ((fields.get? key).map Value.ofDatum) := by
  induction fields with
  | nil => rfl
  | cons e fields ih =>
    obtain ⟨k, d⟩ := e
    rw [Value.lookup?] at ih ⊢
    rw [ofFields, Value.firstOf?, sameItem_text, Fields.get?]
    by_cases same : k = key
    · simp [same]
    · simpa [same] using ih

theorem absent_table (entries : List (Value × Value)) (name : String) :
    (Value.table entries).absent (.text name) = Value.missing (absentText name) := by
  have owner : Text.quoted (Value.table entries).ownerName = "'dict object'" := by
    have plain : (Value.table entries).ownerName = "dict object" := rfl
    rw [plain]
    decide +kernel
  have text : (Value.text name).text? = some name := rfl
  rw [Value.absent, text]
  dsimp only
  rw [owner]
  rfl

/-- A reference is to no member that is reserved. -/
theorem Reference.isReservedName_key (r : Reference) : Value.isReservedName r.key = false := by
  rw [Value.isReservedName, Bool.and_eq_false_iff]
  refine .inl (Bool.eq_false_iff.mpr fun begins => r.isPublic ?_)
  obtain ⟨rest, whole⟩ := Text.beginsWith_iff.mp begins
  rw [← whole]
  rfl

theorem isLeftOutMember_table {entries : List (Value × Value)} {name : String}
    (allowed : Value.isReservedName name = false) :
    (Value.table entries).isLeftOutMember name = false := by
  show (Value.isReservedName name || false) = false
  rw [allowed]
  rfl

theorem member_table (entries : List (Value × Value)) {name : String}
    (allowed : Value.isReservedName name = false) :
    (Value.table entries).member name =
      if tableMethods.contains name then pure (.method (.table entries) name)
      else (do
        match ← Value.lookup? (.text name) entries with
        | some w => return w
        | none => Value.missing (absentText name)) := by
  rw [Value.member, Value.member?, isLeftOutMember_table allowed, if_neg Bool.false_ne_true,
    Value.methodAmong]
  by_cases own : tableMethods.contains name
  · rw [if_pos own, if_pos own]
    rfl
  · rw [if_neg own, if_neg own, pure_bind, absent_table]
    rfl

theorem plain_method (entries : List (Value × Value)) (name : String) :
    (Value.method (.table entries) name).plain = pure (methodText name) := by
  show (Value.method (.table entries) name).shown = _
  rw [Value.shown]
  rfl

/-! ## Printing values -/

variable {texts : Fields String} (given : Surroundings) (st : State)

/-- What the name of the values stands for. -/
def valuesTable (texts : Fields String) : Value := .ofDatum (.table (Values.ofTexts texts))

/-- A value that is printed by its name. -/
theorem run_printValue (held : st.slots[0]? = some (some (valuesTable texts))) {key : String}
    (allowed : Value.isReservedName key = false) :
    ((exec (printValue key)).run given).run st =
      match shownAs texts key with
      | some s => .ok ((), { st with written := st.written ++ s })
      | none => .error (.missing ⟨absentText key, none, true, st.marks + 1⟩) := by
  have table : ((eval (.name ⟨0, "Values", false⟩)).run given).run st =
      (Except.ok (valuesTable texts, st) : Except EvalError (Value × State)) := by
    have kept : ((slotValue? 0).run given).run st = .ok (some (valuesTable texts), st) := by
      show Except.ok ((st.slots[0]?).join, st) = _
      rw [held]
      rfl
    rw [eval, ReaderT.run_bind, StateT.run_bind, kept]
    rfl
  have printed : exec (printValue key) = (do
      let v ← eval (.name ⟨0, "Values", false⟩)
      let w ← v.member key
      let s ← w.plain
      modify fun st => { st with written := st.written ++ s }) := by
    have member (e : Expr Slot) : eval (.member e key) = eval e >>= fun v => v.member key := by
      rw [eval]
    rw [printValue, exec, member, bind_assoc]
  rw [printed, ReaderT.run_bind, StateT.run_bind, table]
  show ((do
    let w ← (valuesTable texts).member key
    let s ← w.plain
    modify fun st => { st with written := st.written ++ s } : Eval Unit).run given).run st = _
  rw [valuesTable, Value.ofDatum, member_table _ allowed, lookup?_ofFields, shownAs]
  by_cases own : tableMethods.contains key
  · rw [if_pos own, if_pos own, pure_bind, plain_method]
    rfl
  · rw [if_neg own, if_neg own, Values.ofTexts, Fields.get?_mapValues]
    cases texts.get? key with
    | some s => rfl
    | none => rfl

/-- What comes of references behind a text: the text that is filled up in the end, or the first
name that nothing is shown for. -/
def fillFrom (shown : String → Option String) (s : String) (references : List Reference) :
    Except String String :=
  references.foldlM (fun s r =>
    match shown r.key with
    | some v => .ok (s ++ v ++ r.behind)
    | none => .error r.key) s

theorem run_textActs (cs : List Char) (acts : List Act) :
    ((execAll (textActs cs ++ acts)).run given).run st =
      ((execAll acts).run given).run { st with written := st.written ++ String.ofList cs } := by
  cases cs with
  | nil =>
    have same : { st with written := st.written ++ String.ofList [] } = st := by
      rw [String.ofList_nil, String.append_empty]
    rw [same]
    rfl
  | cons c cs =>
    show ((execAll (.write (String.ofList (c :: cs)) :: acts)).run given).run st = _
    rw [execAll, exec]
    rfl

/-- The texts and the values are written one behind the other, up to a name that stands for
nothing. -/
theorem run_sheetActs (cs : List Char) (references : List Reference)
    (held : st.slots[0]? = some (some (valuesTable texts))) :
    ((execAll (sheetActs cs references)).run given).run st =
      match fillFrom (shownAs texts) (st.written ++ String.ofList cs) references with
      | .ok s => .ok ((), { st with written := s })
      | .error key => .error (.missing ⟨absentText key, none, true, st.marks + 1⟩) := by
  -- Each reference goes on behind what the ones before it have written.
  induction references generalizing cs st with
  | nil =>
    have written := run_textActs given st cs []
    rw [List.append_nil] at written
    rw [sheetActs, written]
    rfl
  | cons r references ih =>
    have first := run_printValue given { st with written := st.written ++ String.ofList cs } held
      r.isReservedName_key
    rw [sheetActs, run_textActs, execAll, ReaderT.run_bind, StateT.run_bind, first, fillFrom,
      List.foldlM_cons]
    cases shownAs texts r.key with
    | none => rfl
    | some v =>
      have rest := ih { st with written := st.written ++ String.ofList cs ++ v } r.behind.toList held
      rw [String.ofList_toList] at rest
      exact rest

/-! ## Rendering sheets -/

/-- The text of a sheet, or the first name in it that nothing is shown for. -/
def Sheet.fill (t : Sheet) (shown : String → Option String) : Except String String :=
  fillFrom shown t.lead t.references

variable {t : Sheet} {context : Fields Value}

/-- A program writes what its acts write once its scope is entered. -/
theorem text_of_enter {p : Program} {st : State}
    (entered : ((enter p.body.entries).run ⟨p.take context maxStreams, context⟩).run
      (State.initial p.slots) = .ok ((), st)) :
    p.text context = (((execAll p.body.acts).run ⟨p.take context maxStreams, context⟩).run st).map
      fun written => written.2.written := by
  rw [Program.text, Program.within, ReaderT.run_bind, StateT.run_bind, entered]
  show (((execAll p.body.acts >>= fun _ => (do return (← get).written) : Eval String).run _).run
    st).map Prod.fst = _
  rw [ReaderT.run_bind, StateT.run_bind]
  cases ((execAll p.body.acts).run ⟨p.take context maxStreams, context⟩).run st with
  | ok written => rfl
  | error e => rfl

/-- Where a sheet with references is entered, the values are found. -/
theorem enter_values (values : Fields.get? "Values" given.context = some (valuesTable texts)) :
    ((enter [.fromContext 0 "Values"]).run given).run (State.initial 1) =
      .ok ((), { State.initial 1 with slots := #[some (valuesTable texts)] }) := by
  have found : ((contextValue? "Values").run given).run (State.initial 1) =
      .ok (some (valuesTable texts), State.initial 1) := by
    show ((match Fields.get? "Values" given.context with
      | some v => pure (some v)
      | none => _ : Eval (Option Value)).run given).run (State.initial 1) = _
    rw [values]
    rfl
  show (((do setSlot 0 (← contextValue? "Values") : Eval Unit) >>= fun _ => pure ()).run given).run
    (State.initial 1) = _
  rw [bind_assoc, ReaderT.run_bind, StateT.run_bind, found]
  rfl

theorem text_program (values : Fields.get? "Values" context = some (valuesTable texts)) :
    ∃ mark, t.program.text context =
      match t.fill (shownAs texts) with
      | .ok s => .ok s
      | .error key => .error (.missing ⟨absentText key, none, true, mark⟩) := by
  have lead : "" ++ String.ofList t.lead.toList = t.lead := by
    rw [String.ofList_toList, String.empty_append]
  rw [Sheet.program, Sheet.fill]
  cases t.references with
  | nil =>
    have run := run_textActs ⟨Program.take ⟨0, ⟨[], textActs t.lead.toList⟩, #[]⟩ context maxStreams,
      context⟩ (State.initial 0) t.lead.toList []
    rw [List.append_nil] at run
    refine ⟨0, ?_⟩
    rw [List.isEmpty_nil, if_pos rfl, text_of_enter rfl, sheetActs, run]
    exact congrArg Except.ok lead
  | cons r references =>
    refine ⟨1, ?_⟩
    rw [List.isEmpty_cons, if_neg Bool.false_ne_true, text_of_enter (enter_values _ values),
      run_sheetActs _ _ _ _ rfl]
    dsimp only [State.initial]
    rw [lead]
    cases fillFrom (shownAs texts) t.lead (r :: references) with
    | ok s => rfl
    | error key => rfl

theorem render_sheet (readable : ∀ r ∈ t.references, r.isReadable = true)
    (values : Fields.get? "Values" context = some (valuesTable texts)) :
    render t.source context =
      (t.fill (shownAs texts)).mapError fun key => .refused (.described (absentText key)) := by
  obtain ⟨mark, text⟩ := text_program (t := t) values
  rw [render, Program.ofSource, template_sheet readable]
  dsimp only
  rw [ofStmts_sheet]
  show (t.program.text context).mapError RenderError.ofEval = _
  rw [text]
  cases t.fill (shownAs texts) with
  | ok s => rfl
  | error key => rfl

/-- Whatever the values are, nothing is rendered if a name cannot be read. -/
theorem render_broken (broken : ∃ r ∈ t.references, r.isReadable = false)
    (context : Fields Value) :
    ∃ line, render t.source context = .error (.refused (.malformed line)) := by
  obtain ⟨line, refused⟩ := template_broken broken
  refine ⟨line, ?_⟩
  rw [render, Program.ofSource, refused]
  rfl

/-! ## Filling sheets -/

theorem fillFrom_congr {shown shown' : String → Option String} {references : List Reference}
    (same : ∀ r ∈ references, shown r.key = shown' r.key) (s : String) :
    fillFrom shown s references = fillFrom shown' s references := by
  induction references generalizing s with
  | nil => rfl
  | cons r references ih =>
    obtain ⟨here, later⟩ := List.forall_mem_cons.mp same
    rw [fillFrom, fillFrom, List.foldlM_cons, List.foldlM_cons, here]
    cases shown' r.key with
    | none => rfl
    | some v => exact ih later _

/-- A text is filled up if and only if there is something to show for every name. -/
theorem fillFrom_eq_ok_iff {shown : String → Option String} {references : List Reference}
    (s : String) : (∃ filled, fillFrom shown s references = .ok filled) ↔
      ∀ r ∈ references, (shown r.key).isSome := by
  induction references generalizing s with
  | nil => exact ⟨fun _ => nofun, fun _ => ⟨s, rfl⟩⟩
  | cons r references ih =>
    rw [List.forall_mem_cons, fillFrom, List.foldlM_cons]
    cases shown r.key with
    | none => exact ⟨by rintro ⟨_, ⟨⟩⟩, fun all => nomatch all.1⟩
    | some v => exact (ih (s ++ v ++ r.behind)).trans (and_iff_right rfl).symm

/-- The names in a sheet. -/
def Sheet.keys (t : Sheet) : List String := t.references.map (·.key)

theorem Sheet.fill_eq_ok_iff {shown : String → Option String} :
    (∃ filled, t.fill shown = .ok filled) ↔ ∀ key ∈ t.keys, (shown key).isSome := by
  rw [Sheet.keys, List.forall_mem_map]
  exact fillFrom_eq_ok_iff t.lead

/-! ## What a template promises -/

/-- What comes of a template, told with its path if it is nothing. -/
def toldAt (path : Path) (filled : Except String String) : Except Error String :=
  filled.mapError fun key => .template path.text (.described (absentText key))

/-- What is promised of a template: each value in the place of its name, and if there is not a
value for every name, an error of the template. -/
def Promised (path : Path) (texts : Fields String) (t : Sheet) (r : Except Error String) : Prop :=
  (∃ s, t.fill texts.get? = .ok s ∧ r = .ok s) ∨
    ∃ key reason, t.fill texts.get? = .error key ∧ r = .error (.template path.text reason)

/-- What comes of a sheet at a path. -/
structure ShownByName (path : Path) (texts : Fields String) (t : Sheet)
    (r : Except Error String) : Prop where
  /-- Each value is shown exactly as it is, and the first name that there is no value for is told
  with the path, if no name is that of a method. -/
  values : (∀ r ∈ t.references, r.isReadable = true ∧ r.key ∉ tableMethods) →
    r = toldAt path (t.fill texts.get?)
  /-- Under the name of a method the method is shown, whether there is a value or not. -/
  methods : (∀ r ∈ t.references, r.isReadable = true) → r = toldAt path (t.fill (shownAs texts))
  /-- If a name cannot be read, the template is told to be none. -/
  unreadable : (∃ r ∈ t.references, r.isReadable = false) →
    ∃ line, r = .error (.template path.text (.malformed line))

/-- The values of a configuration, as templates see them. -/
structure Reaching (config : Config) (texts : Fields String) : Prop where
  /-- There is the text of every scalar under its own name, and nothing else, -/
  scalars : ∃ fields, config.sectionOf Config.valuesKey = .ok (.table fields) ∧ ∀ key,
    Option.Rel (fun d text => Config.scalarText key d = .ok text) (Fields.get? key fields)
      (Fields.get? key texts)
  /-- which the template of the user data gets, -/
  userData : ∀ c pool, Fields.get? "Values" (Profiles.userDataContext c pool (.ofTexts texts)) =
    some (valuesTable texts)
  /-- as does that of the stack. -/
  stack : ∀ c pool encoded,
    Fields.get? "Values" (Profiles.stackContext c pool (.ofTexts texts) encoded) =
      some (valuesTable texts)

theorem reaching_of_values {config : Config} (loaded : config.values = .ok texts) :
    Reaching config texts where
  scalars := by
    rw [Config.values] at loaded
    cases found : config.sectionOf Config.valuesKey with
    | error f =>
      rw [found] at loaded
      cases loaded
    | ok d =>
      rw [found] at loaded
      cases d with
      | table fields => exact ⟨fields, rfl, Config.get?_mapM loaded⟩
      | _ => cases loaded
  userData _ _ := rfl
  stack _ _ _ := rfl

theorem fill_of_not_method (own : ∀ r ∈ t.references, r.key ∉ tableMethods) :
    t.fill (shownAs texts) = t.fill texts.get? := by
  refine fillFrom_congr (fun r mem => ?_) t.lead
  rw [shownAs, if_neg]
  exact fun among => own r mem (List.contains_iff_mem.mp among)

section

variable {files : FileTree} {path : Path} {text : String}

theorem renderTemplate_sheet (found : files.read path = .ok (.ok (Text.Utf8.encode text)))
    (source : asSource text = t.source) (readable : ∀ r ∈ t.references, r.isReadable = true)
    (values : Fields.get? "Values" context = some (valuesTable texts)) :
    renderTemplate files path context = toldAt path (t.fill (shownAs texts)) := by
  rw [renderTemplate_of_text found, source, render_sheet readable values, toldAt]
  cases t.fill (shownAs texts) with
  | ok s => rfl
  | error key => rfl

theorem shownByName (found : files.read path = .ok (.ok (Text.Utf8.encode text)))
    (source : asSource text = t.source)
    (values : Fields.get? "Values" context = some (valuesTable texts)) :
    ShownByName path texts t (renderTemplate files path context) where
  methods readable := renderTemplate_sheet found source readable values
  values kept := by
    rw [renderTemplate_sheet found source (fun r mem => (kept r mem).1) values,
      fill_of_not_method fun r mem => (kept r mem).2]
  unreadable broken := by
    obtain ⟨line, refused⟩ := render_broken broken context
    refine ⟨line, ?_⟩
    rw [renderTemplate_of_text found, source, refused]

/-- A promise is kept where names can be read and are those of values only. -/
theorem ShownByName.promised {r : Except Error String} (shown : ShownByName path texts t r)
    (kept : ∀ r ∈ t.references, r.isReadable = true ∧ r.key ∉ tableMethods) :
    Promised path texts t r := by
  rw [shown.values kept]
  cases filled : t.fill texts.get? with
  | ok s => exact .inl ⟨s, filled, rfl⟩
  | error key => exact .inr ⟨key, _, filled, rfl⟩

/-- Empty texts under some names. -/
def emptyTexts (keys : List String) : Fields String := keys.map fun key => (key, "")

theorem isSome_emptyTexts {keys : List String} {key : String} :
    (Fields.get? key (emptyTexts keys)).isSome ↔ key ∈ keys := by
  have same : Fields.keys (emptyTexts keys) = keys := by
    rw [Fields.keys, emptyTexts, List.map_map]
    exact List.map_id keys
  rw [Option.isSome_iff_ne_none, ne_eq, Fields.get?_eq_none_iff, not_not, same]

/-- If there is a value for every name but one, which is that of a method, nothing is told. -/
theorem not_promised_of_method {r : Except Error String} {key : String}
    (readable : ∀ r ∈ t.references, r.isReadable = true) (mem : key ∈ t.keys)
    (method : key ∈ tableMethods) (absent : Fields.get? key texts = none)
    (others : ∀ k ∈ t.keys, k ≠ key → (Fields.get? k texts).isSome)
    (shown : ShownByName path texts t r) : ¬Promised path texts t r := by
  obtain ⟨filled, done⟩ : ∃ filled, t.fill (shownAs texts) = .ok filled := by
    refine Sheet.fill_eq_ok_iff.mpr fun k there => ?_
    rw [shownAs]
    split
    · rfl
    next value =>
      refine others k there ?_
      rintro rfl
      exact value (List.contains_iff_mem.mpr method)
  rintro (⟨s, whole, -⟩ | ⟨_, reason, -, failed⟩)
  · have value := Sheet.fill_eq_ok_iff.mp ⟨s, whole⟩ key mem
    rw [absent] at value
    cases value
  · rw [shown.methods readable, done] at failed
    cases failed

/-- If there is a value for every name, none is shown if a name cannot be read. -/
theorem not_promised_of_unreadable {r : Except Error String}
    (broken : ∃ r ∈ t.references, r.isReadable = false)
    (all : ∀ k ∈ t.keys, (Fields.get? k texts).isSome)
    (shown : ShownByName path texts t r) : ¬Promised path texts t r := by
  obtain ⟨line, refused⟩ := shown.unreadable broken
  obtain ⟨filled, done⟩ := Sheet.fill_eq_ok_iff.mpr all
  rintro (⟨s, -, whole⟩ | ⟨key, reason, failed, -⟩)
  · cases refused.symm.trans whole
  · cases done.symm.trans failed

/-- Whatever the values are, a template that prints values by their names shows them exactly as they
are, and is told with its path where there is none, if and only if all the names can be read and
none is that of a method of a table.  Under the name of a method the method is shown, and where a
name cannot be read there is no template.  And all scalars of a configuration reach the templates
under their names. -/
theorem rendered_by_name (found : files.read path = .ok (.ok (Text.Utf8.encode text)))
    (source : asSource text = t.source) :
    (∀ texts context, Fields.get? "Values" context = some (valuesTable texts) →
      ShownByName path texts t (renderTemplate files path context)) ∧
    ((∀ texts context, Fields.get? "Values" context = some (valuesTable texts) →
        Promised path texts t (renderTemplate files path context)) ↔
      ∀ r ∈ t.references, r.isReadable = true ∧ r.key ∉ tableMethods) ∧
    ∀ (config : Config) texts, config.values = .ok texts → Reaching config texts := by
  refine ⟨fun _ _ => shownByName found source, ⟨fun promised => ?_, fun kept _ _ values =>
    (shownByName found source values).promised kept⟩, fun _ _ => reaching_of_values⟩
  -- values that are missing for one name only tell the methods, and none that is missing the rest
  have keeps (texts : Fields String) : ShownByName path texts t _ ∧ Promised path texts t _ :=
    have values : Fields.get? "Values" [("Values", valuesTable texts)] = some _ := rfl
    ⟨shownByName found source values, promised texts _ values⟩
  have readable : ∀ r ∈ t.references, r.isReadable = true := by
    by_contra not_all
    have broken : ∃ r ∈ t.references, r.isReadable = false := by
      simpa only [not_forall, Bool.not_eq_true, exists_prop] using not_all
    obtain ⟨shown, promise⟩ := keeps (emptyTexts t.keys)
    exact not_promised_of_unreadable broken (fun _ => isSome_emptyTexts.mpr) shown promise
  refine fun r mem => ⟨readable r mem, fun method => ?_⟩
  obtain ⟨shown, promise⟩ := keeps (emptyTexts (t.keys.filter (· ≠ r.key)))
  refine not_promised_of_method readable (List.mem_map_of_mem mem) method ?_ (fun k there other => ?_)
    shown promise
  · rw [← Option.not_isSome_iff_eq_none, isSome_emptyTexts, List.mem_filter, decide_eq_true_eq]
    exact fun among => among.2 rfl
  · exact isSome_emptyTexts.mpr (List.mem_filter.mpr ⟨there, decide_eq_true other⟩)

end

/-- A file tree with one template. -/
def holding (text : String) : FileTree :=
  FileTree.empty.addFile (.ofString "t.tmpl") (Text.Utf8.encode text)

/-- A truth value of a configuration is shown, and told where it is not given. -/
theorem spot_shown :
    Config.values [("values", .table [("spot", .bool true)])] = .ok [("spot", "true")] ∧
    renderTemplate (holding "spot: \x7b\x7b Values.spot \x7d\x7d\n") (.ofString "t.tmpl")
      [("Values", valuesTable [("spot", "true")])] = .ok "spot: true\n" ∧
    renderTemplate (holding "spot: \x7b\x7b Values.spot \x7d\x7d\n") (.ofString "t.tmpl")
      [("Values", valuesTable [])] =
        .error (.template "t.tmpl" (.described "'dict object' has no attribute 'spot'")) := by
  have found : (holding "spot: \x7b\x7b Values.spot \x7d\x7d\n").read (.ofString "t.tmpl") =
      .ok (.ok (Text.Utf8.encode "spot: \x7b\x7b Values.spot \x7d\x7d\n")) := by
    decide +kernel
  have source : asSource "spot: \x7b\x7b Values.spot \x7d\x7d\n" =
      Sheet.source ⟨"spot: ", rfl, [⟨"spot", rfl, by decide, "\n", rfl⟩]⟩ := by
    decide +kernel
  obtain ⟨shown, -, reaching⟩ := rendered_by_name found source
  have loaded : Config.values [("values", .table [("spot", .bool true)])] =
      .ok [("spot", "true")] := rfl
  have seen : Fields.get? "Values" [("Values", valuesTable [("spot", "true")])] = _ :=
    (reaching _ _ loaded).userData ⟨"kube", "eu-central-1", [], .nil⟩ (.identified "default" "w")
  have filled : Sheet.fill ⟨"spot: ", rfl, [⟨"spot", rfl, by decide, "\n", rfl⟩]⟩
      (Fields.get? · [("spot", "true")]) = .ok "spot: true\n" := by
    decide +kernel
  have absent : absentText "spot" = "'dict object' has no attribute 'spot'" := by decide +kernel
  refine ⟨loaded, ((shown _ _ seen).values (by decide)).trans (congrArg _ filled), ?_⟩
  rw [← absent]
  exact (shown [] _ rfl).values (by decide)

/-- A value under the name of a method is not shown, and nothing is told where there is none. -/
theorem items_not_shown :
    renderTemplate (holding "\x7b\x7b Values.items \x7d\x7d") (.ofString "t.tmpl")
      [("Values", valuesTable [("items", "3")])] ≠ .ok "3" ∧
    ∀ path reason, renderTemplate (holding "\x7b\x7b Values.items \x7d\x7d") (.ofString "t.tmpl")
      [("Values", valuesTable [])] ≠ .error (.template path reason) := by
  have printed (texts : Fields String) (among : texts = [] ∨ texts = [("items", "3")]) :
      (renderTemplate (holding "\x7b\x7b Values.items \x7d\x7d") (.ofString "t.tmpl")
        [("Values", valuesTable texts)]).toOption = some "<built-in method items of dict object>" := by
    rcases among with rfl | rfl
    all_goals decide +kernel
  constructor
  · intro shown
    have other := printed _ (.inr rfl)
    rw [shown] at other
    revert other
    decide
  · intro path reason told
    have other := printed _ (.inl rfl)
    rw [told] at other
    cases other

end NodePools.Template
