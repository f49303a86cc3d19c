import NodePools.Proofs.SheetReading
import NodePools.Template.Compile

/-!
# Programs of sheets

A sheet becomes a program that looks the name of the values up in the context, if it refers to
any, and then writes its texts and prints the members of what it has found
(`ofStmts_sheet`).
-/

namespace NodePools.Template

open Compile (indexIn indexOf)

/-! ## The program of a sheet -/

/-- What writes a text, if there is any. -/
def textActs (cs : List Char) : List Act :=
  if cs.isEmpty then [] else [.write (String.ofList cs)]

/-- What prints a value under its name. -/
def printValue (key : String) : Act := .print (.member (.name ⟨0, "Values", false⟩) key)

/-- What writes a text with references behind it. -/
def sheetActs (cs : List Char) : List Reference → List Act
  | [] => textActs cs
  | r :: rest => textActs cs ++ printValue r.key :: sheetActs r.behind.toList rest

/-- The program of a sheet. -/
def Sheet.program (t : Sheet) : Program :=
  if t.references.isEmpty then ⟨0, ⟨[], sheetActs t.lead.toList t.references⟩, #[]⟩
  else ⟨1, ⟨[.fromContext 0 "Values"], sheetActs t.lead.toList t.references⟩, #[]⟩

/-! ## The one name in it -/

/-- The scope of a template that reads the name of the values only. -/
def valuesScope : Scope := ⟨0, 0, [("Values", .fromContext)], []⟩

/-- Such a template as a whole. -/
def valuesFrame : Frame := ⟨[valuesScope], false, 1, 0, false⟩

/-- What is known of a program before the name of the values was met, or behind that. -/
def draftBehind (met : Bool) : Draft :=
  ⟨if met then #[⟨0, 0, Text.nameForm "Values"⟩] else #[], #[], none, false⟩

theorem indexIn_values (met : Bool) :
    (indexIn valuesScope "Values").run (draftBehind met) = .ok (0, draftBehind true) := by
  rw [indexIn, indexOf, StateT.run_modifyGet]
  refine congrArg Except.ok ?_
  cases met with
  | false => simp [draftBehind, valuesScope]
  | true => simp [draftBehind, valuesScope]

theorem expression_reference (line : Nat) (key : String) (met : Bool) :
    (valuesFrame.expression 1 (.member (.name ⟨"Values", line⟩) key)).run (draftBehind met) =
      .ok (.member (.name ⟨0, "Values", false⟩) key, draftBehind true) := by
  have step : (valuesFrame.expression 1 (.member (.name ⟨"Values", line⟩) key)).run
      (draftBehind met) =
      ((fun i => Expr.member (.name ⟨i, "Values", false⟩) key) <$>
        indexIn valuesScope "Values").run (draftBehind met) := rfl
  rw [step, StateT.run_map, indexIn_values]
  rfl

/-! ## The pieces of a sheet -/

variable {line : Nat} {cs : List Char} {references : List Reference}

theorem joinPieces_sheet : Frame.joinPieces (sheetPieces line cs references) =
    sheetPieces line cs references := by
  induction references generalizing line cs with
  | nil => cases cs <;> rfl
  | cons r references ih =>
    cases cs with
    | nil => exact congrArg (_ :: ·) ih
    | cons c cs =>
      show Frame.joinPieces (.text _ :: .expr _ :: sheetPieces _ _ references) = _
      rw [Frame.joinPieces, Frame.joinPieces, ih]
      rfl

theorem names_sheet : (sheetPieces line cs references).flatMap Piece.names =
    List.replicate references.length "Values" := by
  have no_names (cs : List Char) : (textPiece cs).flatMap Piece.names = [] := by
    cases cs <;> rfl
  induction references generalizing line cs with
  | nil => exact no_names cs
  | cons r references ih =>
    rw [sheetPieces, List.flatMap_append, no_names, List.flatMap_cons, ih]
    rfl

/-- What a list becomes is told by its first member and by the others. -/
theorem run_mapM_cons {σ ε α β : Type} {f : α → StateT σ (Except ε) β} {a : α} {l : List α} {b : β}
    {bs : List β} {s mid last : σ} (first : (f a).run s = .ok (b, mid))
    (others : (l.mapM f).run mid = .ok (bs, last)) :
    ((a :: l).mapM f).run s = .ok (b :: bs, last) := by
  rw [List.mapM_cons, StateT.run_bind, first]
  show ((l.mapM f) >>= fun bs => pure (b :: bs)).run mid = _
  rw [StateT.run_bind, others]
  rfl

theorem mapM_knownPiece (d : Draft) :
    ((sheetPieces line cs references).mapM Frame.knownPiece).run d =
      .ok (sheetPieces line cs references, d) := by
  induction references generalizing line cs with
  | nil => cases cs <;> rfl
  | cons r references ih =>
    have behind : ((.expr (.member (.name ⟨"Values", line + Text.countNewlines cs⟩) r.key) ::
        sheetPieces (line + Text.countNewlines cs) r.behind.toList references).mapM
          Frame.knownPiece).run d = _ := run_mapM_cons rfl ih
    cases cs with
    | nil => exact behind
    | cons c cs => exact run_mapM_cons rfl behind

/-- What a piece of a sheet becomes. -/
def pieceAct : Piece Name → Compile Act
  | .text s => return .write s
  | .expr e => return .print (← valuesFrame.expression 1 e)

theorem pieceAct_reference (key : String) (met : Bool) :
    (pieceAct (.expr (.member (.name ⟨"Values", line⟩) key))).run (draftBehind met) =
      .ok (printValue key, draftBehind true) := by
  show (valuesFrame.expression 1 _ >>= fun e => pure (Act.print e)).run (draftBehind met) = _
  rw [StateT.run_bind, expression_reference]
  rfl

theorem mapM_pieceAct (met : Bool) :
    ((sheetPieces line cs references).mapM pieceAct).run (draftBehind met) =
      .ok (sheetActs cs references, draftBehind (met || !references.isEmpty)) := by
  induction references generalizing line cs met with
  | nil =>
    rw [List.isEmpty_nil, Bool.not_true, Bool.or_false]
    cases cs <;> rfl
  | cons r references ih =>
    have behind : ((.expr (.member (.name ⟨"Values", line + Text.countNewlines cs⟩) r.key) ::
        sheetPieces (line + Text.countNewlines cs) r.behind.toList references).mapM pieceAct).run
          (draftBehind met) = .ok (_, draftBehind true) :=
      run_mapM_cons (pieceAct_reference r.key met) (ih true)
    rw [List.isEmpty_cons, Bool.not_false, Bool.or_true]
    cases cs with
    | nil => exact behind
    | cons c cs => exact run_mapM_cons rfl behind

theorem output_sheet {r : Reference} :
    (valuesFrame.output (sheetPieces line cs (r :: references))).run (draftBehind false) =
      .ok (sheetActs cs (r :: references), draftBehind true) := by
  show (List.mapM Frame.knownPiece (sheetPieces line cs (r :: references)) >>= fun pieces =>
    (Frame.joinPieces pieces).mapM pieceAct).run (draftBehind false) = _
  rw [StateT.run_bind, mapM_knownPiece]
  show ((Frame.joinPieces (sheetPieces line cs (r :: references))).mapM pieceAct).run _ = _
  rw [joinPieces_sheet, mapM_pieceAct]
  rfl

/-! ## The statements of a sheet -/

theorem foldr_printFirst {piece : Piece Name} (pieces : List (Piece Name)) :
    (piece :: pieces).foldr Parse.printFirst [] = [.output (piece :: pieces)] := by
  induction pieces generalizing piece with
  | nil => rfl
  | cons next pieces ih => rw [List.foldr_cons, ih, Parse.printFirst]

theorem foldr_sheet {r : Reference} :
    (sheetPieces line cs (r :: references)).foldr Parse.printFirst [] =
      [.output (sheetPieces line cs (r :: references))] := by
  cases cs with
  | nil => exact foldr_printFirst _
  | cons c cs => exact foldr_printFirst _

/-- A sheet does not ask for itself. -/
theorem readUnassigned_sheet :
    Stmt.readUnassigned "self" [.output (sheetPieces line cs references)] = false := by
  have mentions : Stmt.mentionsOfAll [.output (sheetPieces line cs references)] =
      reads (List.replicate references.length "Values") := by
    rw [Stmt.mentionsOfAll, Stmt.mentions, names_sheet]
    exact List.append_nil _
  have absent : (reads (List.replicate references.length "Values")).find?
      (fun m => m.name == "self") = none := by
    refine List.find?_eq_none.mpr fun m mem => ?_
    obtain ⟨name, of_name, rfl⟩ := List.mem_map.mp mem
    rw [List.eq_of_mem_replicate of_name]
    decide
  rw [Stmt.readUnassigned, mentions, absent]

theorem extendAll_sheet {r : Reference} :
    Stmt.extendAll [] (Scope.inside 0 []) [.output (sheetPieces line cs (r :: references))] =
      valuesScope := by
  have again (n : Nat) : (List.replicate n "Values").foldl (Scope.read []) valuesScope =
      valuesScope := by
    induction n with
    | zero => rfl
    | succ n ih => exact ih
  rw [Stmt.extendAll, Stmt.extend, names_sheet]
  exact again references.length

theorem entries_values :
    valuesScope.entries.run (draftBehind true) =
      .ok ([.fromContext 0 "Values"], draftBehind true) := by
  have step : valuesScope.entries.run (draftBehind true) =
      ((fun i => [Entry.fromContext i "Values"]) <$> indexIn valuesScope "Values").run
        (draftBehind true) := rfl
  rw [step, StateT.run_map, indexIn_values]
  rfl

theorem allActs_sheet {r : Reference} :
    (valuesFrame.allActs [.output (sheetPieces line cs (r :: references))]).run
      (draftBehind false) = .ok (sheetActs cs (r :: references), draftBehind true) := by
  show (valuesFrame.output _ >>= fun acts => pure (acts ++ [])).run _ = _
  rw [StateT.run_bind, output_sheet]
  exact congrArg (fun acts => Except.ok (acts, draftBehind true)) (List.append_nil _)

theorem draft_sheet {r : Reference} :
    (Program.draft [.output (sheetPieces line cs (r :: references))]).run (draftBehind false) =
      .ok (⟨1, ⟨[.fromContext 0 "Values"], sheetActs cs (r :: references)⟩, #[]⟩,
        draftBehind true) := by
  rw [Program.draft, readUnassigned_sheet]
  simp only [Bool.false_eq_true, if_false, extendAll_sheet]
  rw [StateT.run_bind, ← valuesFrame, allActs_sheet]
  show (valuesScope.entries >>= fun entries => do
    let d ← get
    return ⟨d.places.size, ⟨entries, sheetActs cs (r :: references)⟩, d.tests⟩ :
      Compile Program).run (draftBehind true) = _
  rw [StateT.run_bind, entries_values]
  rfl

theorem ofStmts_sheet (t : Sheet) :
    Program.ofStmts ((sheetPieces 1 t.lead.toList t.references).foldr Parse.printFirst []) =
      .ok t.program := by
  rw [Sheet.program]
  cases t.references with
  | nil =>
    rw [sheetPieces, sheetActs]
    cases t.lead.toList with
    | nil => rfl
    | cons c cs => rfl
  | cons r references =>
    have opening : (⟨#[], #[], none, false⟩ : Draft) = draftBehind false := rfl
    rw [foldr_sheet, Program.ofStmts, opening, draft_sheet]
    rfl

end NodePools.Template
