import NodePools.Proofs.SheetTokens
import NodePools.Template.Parser

/-!
# Reading sheets

The tokens of a sheet are read piece by piece: texts, and members of what the name of the values
stands for (`template_sheet`).  A name that cannot be read makes the whole malformed
(`template_broken`).
-/

namespace NodePools.Template

open Text

/-! ## Steps over the pieces of a sheet -/

namespace Parse

/-- Something can be read at the front of tokens, unless there are none. -/
def Clear (tokens : List Token) : Prop :=
  ∀ line why rest, tokens ≠ ⟨line, .broken why⟩ :: rest

variable {tokens : List Token} {line here depth : Nat}

/-- A piece is put in front of the statements behind it. -/
theorem run'_printFirst (piece : Piece Name) (rest : Parse (List Stmt)) (c : Cursor) :
    (printFirst piece <$> rest).run' c = (rest.run' c).map (printFirst piece) := by
  show Prod.fst <$> (printFirst piece <$> rest).run c = (Prod.fst <$> rest.run c).map _
  rw [StateT.run_map]
  cases rest.run c <;> rfl

theorem body_data (clear : Clear tokens) (fuel : Nat) (s : String) :
    (body (fuel + 1) []).run' ⟨⟨here, .data s⟩ :: tokens, line, depth⟩ =
      ((body fuel []).run' ⟨tokens, here, depth⟩).map (printFirst (.text s)) := by
  rw [← run'_printFirst]
  cases tokens with
  | nil => rfl
  | cons t tokens =>
    obtain ⟨next, lexeme⟩ := t
    cases lexeme with
    | broken why => exact absurd rfl (clear next why tokens)
    | _ => rfl

theorem body_reference (clear : Clear tokens) (fuel : Nat) (key : String) :
    (body (fuel + 21) []).run'
        ⟨⟨here, .outputBegin⟩ :: ⟨here, .name "Values"⟩ :: ⟨here, .operator "."⟩ ::
          ⟨here, .name key⟩ :: ⟨here, .outputEnd⟩ :: tokens, line, depth⟩ =
      ((body (fuel + 20) []).run' ⟨tokens, here, depth⟩).map
        (printFirst (.expr (.member (.name ⟨"Values", here⟩) key))) := by
  rw [← run'_printFirst]
  cases tokens with
  | nil => rfl
  | cons t tokens =>
    obtain ⟨next, lexeme⟩ := t
    cases lexeme with
    | broken why => exact absurd rfl (clear next why tokens)
    | _ => rfl

/-- Where a name cannot be read the template is refused. -/
theorem body_brokenName (fuel : Nat) (name : List Char) :
    (body (fuel + 21) []).run'
        ⟨⟨here, .outputBegin⟩ :: ⟨here, .name "Values"⟩ :: ⟨here, .operator "."⟩ ::
          brokenName here name, line, depth⟩ = .error (.malformed here) := by
  rw [brokenName]
  split
  · rfl
  · rfl

theorem template_of_clear (clear : Clear tokens) :
    template tokens = (body (24 * (tokens.length + 2)) []).run' ⟨tokens, 1, 0⟩ := by
  rw [template.eq_def]
  split
  next f rest => exact absurd rfl (clear _ (some f) rest)
  next rest => exact absurd rfl (clear _ none rest)
  next => rfl

end Parse

/-! ## The statements of a sheet -/

open Parse (Clear body printFirst)

/-- A text as a piece of what is printed, if there is any. -/
def textPiece (cs : List Char) : List (Piece Name) :=
  if cs.isEmpty then [] else [.text (String.ofList cs)]

/-- What a text with references behind it prints, from a line on. -/
def sheetPieces (line : Nat) (cs : List Char) : List Reference → List (Piece Name)
  | [] => textPiece cs
  | r :: rest =>
    let here := line + countNewlines cs
    textPiece cs ++ .expr (.member (.name ⟨"Values", here⟩) r.key) ::
      sheetPieces here r.behind.toList rest

variable {line last depth fuel : Nat} {cs : List Char} {references : List Reference}

theorem clear_sheetTokens (line : Nat) (cs : List Char) (references : List Reference) :
    Clear (sheetTokens line cs references) := by
  intro broken why rest same
  cases cs with
  | nil => cases references <;> cases same
  | cons c cs => cases references <;> cases same

/-- The text in front of other tokens is read first. -/
theorem body_text {tokens : List Token} (clear : Clear tokens) {r : Except ReadError (List Stmt)}
    (rest : ∀ last, (body fuel []).run' ⟨tokens, last, depth⟩ = r) :
    (body (fuel + (Token.dataToken line cs).length) []).run'
        ⟨Token.dataToken line cs ++ tokens, last, depth⟩ =
      r.map fun stmts => (textPiece cs).foldr printFirst stmts := by
  cases cs with
  | nil =>
    refine (rest last).trans ?_
    cases r <;> rfl
  | cons c cs =>
    refine (Parse.body_data clear fuel _).trans ?_
    rw [rest]
    rfl

theorem clear_nil : Clear [] := by
  intro line why rest same
  cases same

theorem clear_outputBegin {here : Nat} {tokens : List Token} :
    Clear (⟨here, .outputBegin⟩ :: tokens) := by
  intro line why rest same
  cases same

/-- A text and a reference behind it are read before the rest. -/
theorem body_step {r : Reference} (readable : r.isReadable = true)
    {result : Except ReadError (List Stmt)}
    (rest : ∀ last, (body (fuel + 20) []).run'
      ⟨sheetTokens (line + countNewlines cs) r.behind.toList references, last, depth⟩ = result) :
    (body (fuel + 21 + (Token.dataToken line cs).length) []).run'
        ⟨sheetTokens line cs (r :: references), last, depth⟩ =
      result.map fun stmts => (textPiece cs).foldr printFirst
        (printFirst (.expr (.member (.name ⟨"Values", line + countNewlines cs⟩) r.key)) stmts) := by
  rw [sheetTokens, if_pos readable]
  have clear := clear_sheetTokens (line + countNewlines cs) r.behind.toList references
  refine (body_text clear_outputBegin fun last =>
    (Parse.body_reference clear fuel r.key).trans (congrArg _ (rest _))).trans ?_
  cases result <;> rfl

/-- What suffices for a text with a reference behind it suffices for the rest. -/
theorem exists_more {r : Reference} (readable : r.isReadable = true)
    (enough : (sheetTokens line cs (r :: references)).length + 21 ≤ fuel) :
    ∃ more, fuel = more + 21 + (Token.dataToken line cs).length ∧
      (sheetTokens (line + countNewlines cs) r.behind.toList references).length + 21 ≤ more + 20 := by
  rw [sheetTokens, if_pos readable, List.length_append] at enough
  simp only [List.length_cons] at enough
  refine ⟨fuel - 21 - (Token.dataToken line cs).length, ?_, ?_⟩ <;> omega

/-- The tokens of a sheet in which all names can be read are read as what it prints. -/
theorem body_sheet (readable : ∀ r ∈ references, r.isReadable = true)
    (enough : (sheetTokens line cs references).length + 21 ≤ fuel) :
    (body fuel []).run' ⟨sheetTokens line cs references, last, depth⟩ =
      .ok ((sheetPieces line cs references).foldr printFirst []) := by
  induction references generalizing line cs fuel last with
  | nil =>
    obtain ⟨fuel, rfl⟩ := Nat.exists_eq_add_of_le' enough
    have read : ∀ last, (body (fuel + 21) []).run' ⟨[], last, depth⟩ = .ok [] := fun _ => rfl
    have text : (body (fuel + 21 + (Token.dataToken line cs).length) []).run'
        ⟨Token.dataToken line cs ++ [], last, depth⟩ = _ := body_text clear_nil read
    rw [List.append_nil, Nat.add_assoc, Nat.add_comm 21] at text
    exact text
  | cons r references ih =>
    obtain ⟨here, later⟩ := List.forall_mem_cons.mp readable
    obtain ⟨more, rfl, left⟩ := exists_more here enough
    rw [body_step here fun last => ih later left, sheetPieces, List.foldr_append, List.foldr_cons]
    rfl

/-- If a name cannot be read, the template is refused at its line. -/
theorem body_broken (broken : ∃ r ∈ references, r.isReadable = false)
    (enough : (sheetTokens line cs references).length + 21 ≤ fuel) :
    ∃ line', ∀ last, (body fuel []).run' ⟨sheetTokens line cs references, last, depth⟩ =
      .error (.malformed line') := by
  induction references generalizing line cs fuel with
  | nil =>
    obtain ⟨r, mem, -⟩ := broken
    cases mem
  | cons r references ih =>
    cases here : r.isReadable with
    | true =>
      obtain ⟨r', mem, not⟩ := broken
      have later : r' ∈ references := by
        rcases List.mem_cons.mp mem with rfl | later
        · cases here.symm.trans not
        · exact later
      obtain ⟨more, rfl, left⟩ := exists_more here enough
      obtain ⟨line', refused⟩ := ih ⟨r', later, not⟩ left
      refine ⟨line', fun last => ?_⟩
      rw [body_step here refused]
      rfl
    | false =>
      refine ⟨line + countNewlines cs, fun last => ?_⟩
      rw [sheetTokens, here, List.length_append] at enough
      obtain ⟨more, rfl⟩ : ∃ more, fuel = more + 21 + (Token.dataToken line cs).length := by
        refine ⟨fuel - 21 - (Token.dataToken line cs).length, ?_⟩
        omega
      rw [sheetTokens, here]
      exact body_text clear_outputBegin fun last => Parse.body_brokenName more r.key.toList

variable {t : Sheet}

theorem template_sheet (readable : ∀ r ∈ t.references, r.isReadable = true) :
    Parse.template (Token.scan t.source) =
      .ok ((sheetPieces 1 t.lead.toList t.references).foldr printFirst []) := by
  rw [scan_sheet, Parse.template_of_clear (clear_sheetTokens _ _ _)]
  exact body_sheet readable (by omega)

theorem template_broken (broken : ∃ r ∈ t.references, r.isReadable = false) :
    ∃ line, Parse.template (Token.scan t.source) = .error (.malformed line) := by
  rw [scan_sheet, Parse.template_of_clear (clear_sheetTokens _ _ _)]
  have enough (n : Nat) : n + 21 ≤ 24 * (n + 2) := by omega
  exact (body_broken broken (enough _)).imp fun line refused => refused 1

end NodePools.Template
