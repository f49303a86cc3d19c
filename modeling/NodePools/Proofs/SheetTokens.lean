import NodePools.Template.Token

/-!
# Tokens of a sheet

A sheet is a template of texts with references between them, each of which prints a value under
its name.  No tag begins within its texts, so that it is cut into tokens reference by reference
(`scan_sheet`).  A reference is cut off where a mark stands in its name that came late to the
names: such a name cannot be read.
-/

namespace NodePools.Template

open Text

/-! ## Sheets -/

/-- Whether a brace in front of a text may open a tag, whatever comes behind the text. -/
def opensTag : List Char → Bool
  | [] => true
  | c :: _ => c == '\x7b' || c == '#' || c == '%'

/-- Whether no tag begins in a text, whatever comes behind it. -/
def isPlain : List Char → Bool
  | [] => true
  | c :: rest => !(c == '\x7b' && opensTag rest) && isPlain rest

/-- A reference to a value by its name, which does not begin with an underscore, and the text
behind it. -/
structure Reference where
  key : String
  isName : isIdentifier key.toList = true
  isPublic : key.toList.head? ≠ some '_'
  behind : String
  plain : isPlain behind.toList = true

namespace Reference

/-- A reference as it stands in a template. -/
def source (r : Reference) : String := "\x7b\x7b Values." ++ r.key ++ " \x7d\x7d" ++ r.behind

/-- Whether the name of a reference can be read. -/
def isReadable (r : Reference) : Bool := r.key.toList.all isWordChar

end Reference

/-- A text with references behind it. -/
structure Sheet where
  lead : String
  plain : isPlain lead.toList = true
  references : List Reference

/-- A sheet as a template. -/
def Sheet.source (t : Sheet) : String := t.lead ++ String.join (t.references.map Reference.source)

/-! ## Characters of names -/

/-- Whether no range of one table meets a range of another. -/
def areApart (table table' : List (Nat × Nat)) : Bool :=
  table'.all fun r' => table.all fun r => Nat.blt r.2 r'.1 || Nat.blt r'.2 r.1

theorem not_inRanges_of_areApart {table table' : List (Nat × Nat)} (apart : areApart table table')
    {c : Char} (inside : inRanges table c = true) : inRanges table' c = false := by
  refine Bool.eq_false_iff.mpr fun inside' => ?_
  obtain ⟨r, mem, low, high⟩ := inRanges_eq_true_iff.mp inside
  obtain ⟨r', mem', low', high'⟩ := inRanges_eq_true_iff.mp inside'
  have between := List.all_eq_true.mp (List.all_eq_true.mp apart r' mem') r mem
  rw [Bool.or_eq_true, Nat.blt_eq, Nat.blt_eq] at between
  omega

/-- The ranges of the digits of the scripts. -/
def digitRanges : List (Nat × Nat) := digitZeros.map fun z => (z, z + 9)

theorem decimalDigit?_eq_none {c : Char} (beyond : 0x80 ≤ c.toNat)
    (outside : inRanges digitRanges c = false) : decimalDigit? c = none := by
  rw [decimalDigit?, if_neg (Nat.not_lt.mpr beyond), Option.map_eq_none_iff, List.find?_eq_none]
  intro z mem within
  rw [Bool.and_eq_true, decide_eq_true_eq, decide_eq_true_eq] at within
  refine Bool.eq_false_iff.mp outside (inRanges_eq_true_iff.mpr ?_)
  exact ⟨(z, z + 9), List.mem_map_of_mem mem, within.1, Nat.le_of_lt_succ within.2⟩

/-- The characters of operators and quotes. -/
def marks : List Char := '\'' :: '"' :: '!' :: Token.singles

/-- A character that begins no token but a name, if any, and does not end a tag. -/
structure Inert (c : Char) : Prop where
  blank : isBlank c = false
  digit : decimalDigit? c = none
  mark : c ∉ marks

theorem not_mem_marks {c : Char} (beyond : 0x80 ≤ c.toNat) : c ∉ marks := by
  have ascii : marks.all (·.toNat < 0x80) = true := by decide
  intro mem
  have := of_decide_eq_true (List.all_eq_true.mp ascii c mem)
  omega

theorem inert_of_inRanges {table : List (Nat × Nat)} (blanks : areApart table blankRanges)
    (digits : areApart table digitRanges) {c : Char} (beyond : 0x80 ≤ c.toNat)
    (inside : inRanges table c = true) : Inert c where
  blank := not_inRanges_of_areApart blanks inside
  digit := decimalDigit?_eq_none beyond (not_inRanges_of_areApart digits inside)
  mark := not_mem_marks beyond

theorem inert_of_isIdentifierStart {c : Char} (start : isIdentifierStart c = true) : Inert c := by
  by_cases ascii : c.toNat < 0x80
  · have all : ∀ n < 0x80, isIdentifierStart (Char.ofNat n) = true →
        isBlank (Char.ofNat n) = false ∧ decimalDigit? (Char.ofNat n) = none ∧
          Char.ofNat n ∉ marks := by
      decide +kernel
    have of_c := all c.toNat ascii
    rw [Char.ofNat_toNat] at of_c
    obtain ⟨blank, digit, mark⟩ := of_c start
    exact ⟨blank, digit, mark⟩
  · rw [isIdentifierStart, if_neg ascii] at start
    exact inert_of_inRanges (by decide +kernel) (by decide +kernel) (Nat.le_of_not_lt ascii) start

/-- What belongs to names but not to words is a mark that came late. -/
theorem inert_of_late {c : Char} (part : isIdentifierPart c = true) (late : isWordChar c = false) :
    Inert c := by
  rw [isWordChar] at late
  split at late
  next =>
    rw [part] at late
    cases late
  next beyond =>
    rw [Bool.not_eq_false'] at late
    exact inert_of_inRanges (by decide +kernel) (by decide +kernel) (Nat.le_of_not_lt beyond) late

/-! ## Steps over the pieces of a sheet -/

namespace Token

theorem tagAt?_of_plain {c : Char} {cs : List Char} (plain : (c == '\x7b' && opensTag cs) = false)
    (rest : List Char) : tagAt? (c :: (cs ++ rest)) = none := by
  by_cases brace : c = '\x7b'
  · subst brace
    cases cs with
    | nil => cases plain
    | cons d cs =>
      have other : (d ≠ '\x7b' ∧ d ≠ '#') ∧ d ≠ '%' := by simpa [opensTag] using plain
      rw [List.cons_append, tagAt?.eq_def]
      split
      all_goals simp_all
  · rw [tagAt?.eq_def]
    split
    all_goals simp_all

/-- In front of a plain text there is no tag to look for. -/
theorem splitAtFirst?_plain {cs : List Char} (plain : isPlain cs = true) (rest : List Char) :
    splitAtFirst? tagAt? (cs ++ rest) =
      (splitAtFirst? tagAt? rest).map fun (before, tag) => (cs ++ before, tag) := by
  induction cs with
  | nil => simp
  | cons c cs ih =>
    rw [isPlain, Bool.and_eq_true, Bool.not_eq_true'] at plain
    obtain ⟨here, later⟩ := plain
    rw [List.cons_append, splitAtFirst?, tagAt?_of_plain here, ih later, Option.map_map]
    rfl

theorem textStep_last {cs : List Char} (plain : isPlain cs = true) (line : Nat) :
    textStep line cs = if cs.isEmpty then none else some ⟨dataToken line cs, .text, line, []⟩ := by
  have none : splitAtFirst? tagAt? cs = none := by
    have := splitAtFirst?_plain plain []
    rwa [List.append_nil] at this
  rw [textStep, none]

theorem textStep_reference {cs : List Char} (plain : isPlain cs = true) (line : Nat)
    (rest : List Char) :
    textStep line (cs ++ '\x7b' :: '\x7b' :: ' ' :: rest) =
      some ⟨dataToken line cs ++ [⟨line + countNewlines cs, .outputBegin⟩], .tag false [] false,
        line + countNewlines cs, ' ' :: rest⟩ := by
  have first : splitAtFirst? tagAt? ('\x7b' :: '\x7b' :: ' ' :: rest) =
      some ([], .output, false, ' ' :: rest) := rfl
  rw [textStep, splitAtFirst?_plain plain, first, Option.map_some]
  simp only [List.append_nil]
  rfl

end Token

namespace Inert

open Token

variable {c : Char}

theorem ne (inert : Inert c) {d : Char} (mark : d ∈ marks) : c ≠ d :=
  fun same => inert.mark (same ▸ mark)

theorem ne_digit (inert : Inert c) {d : Char} (digit : (decimalDigit? d).isSome) : c ≠ d := by
  rintro rfl
  rw [inert.digit] at digit
  cases digit

theorem not_number (inert : Inert c) : ¬('1' ≤ c ∧ c ≤ '9') := by
  rintro ⟨least, most⟩
  have ascii : c.toNat ≤ 0x39 := UInt32.le_iff_toNat_le.mp most
  have digit : c.isDigit = true := by
    rw [Char.isDigit, Bool.and_eq_true, decide_eq_true_eq, decide_eq_true_eq]
    exact ⟨UInt32.le_trans (by decide) least, most⟩
  refine inert.ne_digit ?_ rfl
  rw [decimalDigit?, if_pos (Nat.lt_of_le_of_lt ascii (by decide)), if_pos digit]
  rfl

theorem tagEnd? (inert : Inert c) (rest : List Char) :
    Token.tagEnd? false [] (c :: rest) = none := by
  show afterEnd? false outputClosing (c :: rest) = none
  rw [afterEnd?.eq_def]
  split
  next same => exact absurd (List.cons.inj same).1 (inert.ne (by decide))
  next same => exact absurd (List.cons.inj same).1 (inert.ne (by decide))
  next =>
    rw [outputClosing, afterStart?, if_neg (inert.ne (by decide)).symm]
    rfl

theorem real? (inert : Inert c) (afterPoint : Bool) (rest : List Char) :
    Token.real? afterPoint (c :: rest) = none := by
  have no_digits : digits? (c :: rest) = none := by
    rw [digits?, inert.digit]
    rfl
  rw [Token.real?, no_digits]
  cases afterPoint <;> rfl

theorem whole? (inert : Inert c) (rest : List Char) : Token.whole? (c :: rest) = none := by
  have no_base : based? (c :: rest) = none := by
    rw [based?.eq_def]
    split
    next same => exact absurd (List.cons.inj same).1 (inert.ne_digit (by decide))
    next => rfl
  rw [Token.whole?, no_base]
  dsimp only
  rw [if_neg inert.not_number, if_neg (inert.ne_digit (by decide))]

theorem quoted? (inert : Inert c) (rest : List Char) : Token.quoted? (c :: rest) = none := by
  rw [Token.quoted?, if_neg]
  rw [Bool.or_eq_true, decide_eq_true_eq, decide_eq_true_eq, not_or]
  exact ⟨inert.ne (by decide), inert.ne (by decide)⟩

theorem operator? (inert : Inert c) (rest : List Char) : Token.operator? (c :: rest) = none := by
  have heads : (pairs.all fun p => p.head?.all marks.contains) = true := by decide
  have no_pair : pairs.contains ((c :: rest).take 2) = false := by
    refine Bool.eq_false_iff.mpr fun pair => inert.mark ?_
    exact List.contains_iff_mem.mp (List.all_eq_true.mp heads _ (List.contains_iff_mem.mp pair))
  have no_single : ¬singles.contains c = true := fun single =>
    inert.mark (List.mem_append_right ['\'', '"', '!'] (List.contains_iff_mem.mp single))
  rw [Token.operator?, no_pair]
  exact if_neg no_single

/-- A character that begins no other token begins a name, or nothing can be read there. -/
theorem tagStep (inert : Inert c) (afterPoint : Bool) (line : Nat) (rest : List Char) :
    Token.tagStep false [] afterPoint line (c :: rest) =
      if isWordChar c ∧ isIdentifier ((c :: rest).takeWhile isWordChar) then
        some ⟨[⟨line, .name (String.ofList ((c :: rest).takeWhile isWordChar))⟩],
          .tag false [] false, line, (c :: rest).dropWhile isWordChar⟩
      else some ⟨[⟨line, .broken none⟩], .text, line, []⟩ := by
  rw [tagStep.eq_def]
  simp only [inert.tagEnd?, inert.real?, inert.whole?, inert.quoted?, inert.operator?, inert.blank,
    Bool.false_eq_true, if_false, Nat.add_zero]
  by_cases word : isWordChar c = true
  · simp only [word, if_true, true_and]
  · simp only [word, Bool.false_eq_true, if_false, false_and]

end Inert

/-! ## Names -/

/-- A character of a name that belongs to no word begins no token. -/
theorem inert_of_mem {name : List Char} (isName : isIdentifier name = true) {c : Char}
    (mem : c ∈ name) (late : isWordChar c = false) : Inert c := by
  cases name with
  | nil => cases mem
  | cons first rest =>
    rw [isIdentifier, Bool.and_eq_true] at isName
    obtain ⟨start, parts⟩ := isName
    rcases List.mem_cons.mp mem with rfl | mem
    · exact inert_of_isIdentifierStart start
    · exact inert_of_late (List.all_eq_true.mp parts c mem) late

/-- If not all of a list is of a kind, it has a first member that is not. -/
theorem exists_first_not {α : Type} {p : α → Bool} {l : List α} (some_not : l.all p = false) :
    ∃ front a back, l = front ++ a :: back ∧ (∀ b ∈ front, p b = true) ∧ p a = false := by
  induction l with
  | nil => cases some_not
  | cons a l ih =>
    by_cases here : p a = true
    · rw [List.all_cons, here, Bool.true_and] at some_not
      obtain ⟨front, b, back, rfl, before, not⟩ := ih some_not
      exact ⟨a :: front, b, back, rfl, List.forall_mem_cons.mpr ⟨here, before⟩, not⟩
    · exact ⟨[], a, l, rfl, nofun, Bool.eq_false_iff.mpr here⟩

/-- What a name begins with is a name. -/
theorem isIdentifier_of_append {c : Char} {word more : List Char}
    (isName : isIdentifier (c :: word ++ more) = true) : isIdentifier (c :: word) = true := by
  rw [List.cons_append, isIdentifier, List.all_append, Bool.and_eq_true, Bool.and_eq_true] at isName
  rw [isIdentifier, isName.1, isName.2.1, Bool.and_self]

/-- The step over a name of word characters. -/
theorem tagStep_word {word : List Char} (isName : isIdentifier word = true)
    (words : ∀ c ∈ word, isWordChar c = true) {d : Char} (stop : isWordChar d = false)
    {afterPoint : Bool} {line : Nat} {rest : List Char} :
    Token.tagStep false [] afterPoint line (word ++ d :: rest) =
      some ⟨[⟨line, .name (String.ofList word)⟩], .tag false [] false, line, d :: rest⟩ := by
  have no_word : ¬isWordChar d = true := Bool.eq_false_iff.mp stop
  have taken : (word ++ d :: rest).takeWhile isWordChar = word := by
    rw [List.takeWhile_append_of_pos words, List.takeWhile_cons_of_neg no_word, List.append_nil]
  have dropped : (word ++ d :: rest).dropWhile isWordChar = d :: rest := by
    rw [List.dropWhile_append_of_pos words, List.dropWhile_cons_of_neg no_word]
  cases word with
  | nil => cases isName
  | cons c more =>
    have inert : Inert c := by
      rw [isIdentifier, Bool.and_eq_true] at isName
      exact inert_of_isIdentifierStart isName.1
    rw [List.cons_append] at taken dropped ⊢
    rw [inert.tagStep, taken, dropped, if_pos ⟨words c List.mem_cons_self, isName⟩]

/-! ## The tokens of a sheet -/

/-- The tokens of a name that cannot be read: what comes before the mark in it is a name. -/
def brokenName (line : Nat) (name : List Char) : List Token :=
  (if (name.takeWhile isWordChar).isEmpty then []
    else [⟨line, .name (String.ofList (name.takeWhile isWordChar))⟩]) ++ [⟨line, .broken none⟩]

/-- The tokens of a text with references behind it, from a line on.  They break off where a name
cannot be read. -/
def sheetTokens (line : Nat) (cs : List Char) : List Reference → List Token
  | [] => Token.dataToken line cs
  | r :: rest =>
    let here := line + countNewlines cs
    Token.dataToken line cs ++
      ⟨here, .outputBegin⟩ :: ⟨here, .name "Values"⟩ :: ⟨here, .operator "."⟩ ::
        if r.isReadable then
          ⟨here, .name r.key⟩ :: ⟨here, .outputEnd⟩ :: sheetTokens here r.behind.toList rest
        else brokenName here r.key.toList

namespace Reference

/-- The characters of a reference behind the mark that opens it. -/
def inside (r : Reference) : List Char :=
  ' ' :: 'V' :: 'a' :: 'l' :: 'u' :: 'e' :: 's' :: '.' ::
    (r.key.toList ++ ' ' :: '\x7d' :: '\x7d' :: r.behind.toList)

theorem toList_source (r : Reference) : r.source.toList = '\x7b' :: '\x7b' :: r.inside := by
  simp [source, inside]

/-- The steps over the name of the values and the point. -/
theorem scanFrom_inside (fuel line : Nat) (rest : List Char) :
    Token.scanFrom (fuel + 3) (.tag false [] false) line
        (' ' :: 'V' :: 'a' :: 'l' :: 'u' :: 'e' :: 's' :: '.' :: rest) =
      ⟨line, .name "Values"⟩ :: ⟨line, .operator "."⟩ ::
        Token.scanFrom fuel (.tag false [] true) line rest := rfl

/-- The steps over a name that can be read and the end of a reference. -/
theorem scanFrom_readable {r : Reference} (readable : r.isReadable = true) (fuel line : Nat)
    (rest : List Char) :
    Token.scanFrom (fuel + 3) (.tag false [] true) line
        (r.key.toList ++ ' ' :: '\x7d' :: '\x7d' :: rest) =
      ⟨line, .name r.key⟩ :: ⟨line, .outputEnd⟩ :: Token.scanFrom fuel .text line rest := by
  have words := List.all_eq_true.mp readable
  rw [Token.scanFrom, tagStep_word r.isName words rfl, String.ofList_toList]
  rfl

/-- Where a name cannot be read nothing is read any more. -/
theorem scanFrom_broken {r : Reference} (broken : r.isReadable = false) (fuel line : Nat)
    (rest : List Char) :
    Token.scanFrom (fuel + 3) (.tag false [] true) line (r.key.toList ++ rest) =
      brokenName line r.key.toList := by
  obtain ⟨word, d, more, split, words, late⟩ := exists_first_not broken
  have inert : Inert d := inert_of_mem r.isName (split ▸ List.mem_append_right _ List.mem_cons_self)
    late
  have no_word : ¬isWordChar d = true := Bool.eq_false_iff.mp late
  have refused (fuel : Nat) (afterPoint : Bool) :
      Token.scanFrom (fuel + 2) (.tag false [] afterPoint) line (d :: (more ++ rest)) =
        [⟨line, .broken none⟩] := by
    rw [Token.scanFrom, inert.tagStep, if_neg fun h => no_word h.1]
    rfl
  have taken : (word ++ d :: more).takeWhile isWordChar = word := by
    rw [List.takeWhile_append_of_pos words, List.takeWhile_cons_of_neg no_word, List.append_nil]
  rw [brokenName, split, taken, List.append_assoc, List.cons_append]
  cases word with
  | nil => exact refused (fuel + 1) true
  | cons c word =>
    have isName : isIdentifier (c :: word) = true := isIdentifier_of_append (split ▸ r.isName)
    rw [Token.scanFrom, tagStep_word isName words late]
    exact congrArg (_ :: ·) (refused fuel false)

end Reference

/-- A text with references behind it is cut into its tokens by so many steps. -/
theorem scanFrom_sheet (references : List Reference) {fuel : Nat}
    (enough : 7 * references.length + 2 ≤ fuel) (line : Nat) {cs : List Char}
    (plain : isPlain cs = true) :
    Token.scanFrom fuel .text line (cs ++ references.flatMap fun r => r.source.toList) =
      sheetTokens line cs references := by
  induction references generalizing fuel line cs with
  | nil =>
    obtain ⟨fuel, rfl⟩ := Nat.exists_eq_add_of_le' enough
    rw [List.flatMap_nil, List.append_nil]
    show Token.scanFrom (fuel + 2) .text line cs = _
    rw [Token.scanFrom, Token.textStep_last plain]
    cases cs with
    | nil => rfl
    | cons c cs => exact List.append_nil _
  | cons r references ih =>
    obtain ⟨fuel, rfl⟩ := Nat.exists_eq_add_of_le' enough
    have text : cs ++ (r :: references).flatMap (fun r => r.source.toList) =
        cs ++ '\x7b' :: '\x7b' :: ' ' :: 'V' :: 'a' :: 'l' :: 'u' :: 'e' :: 's' :: '.' ::
          (r.key.toList ++ ' ' :: '\x7d' :: '\x7d' ::
            (r.behind.toList ++ references.flatMap fun r => r.source.toList)) := by
      simp only [List.flatMap_cons, r.toList_source, Reference.inside, List.cons_append,
        List.append_assoc]
    have steps : fuel + (7 * (r :: references).length + 2) =
        fuel + 7 * references.length + 2 + 3 + 3 + 1 := by
      rw [List.length_cons]
      omega
    rw [text, steps, Token.scanFrom, Token.textStep_reference plain]
    dsimp only
    rw [Reference.scanFrom_inside, sheetTokens, List.append_assoc]
    cases readable : r.isReadable with
    | true => rw [Reference.scanFrom_readable readable, ih (by omega) _ r.plain]; rfl
    | false => rw [Reference.scanFrom_broken readable]; rfl

theorem scan_sheet (t : Sheet) :
    Token.scan t.source = sheetTokens 1 t.lead.toList t.references := by
  have text : t.source.toList = t.lead.toList ++ t.references.flatMap fun r => r.source.toList := by
    simp [Sheet.source, String.toList_join, List.flatMap_def, Function.comp_def]
  have enough (references : List Reference) : 7 * references.length ≤
      (references.flatMap fun r => r.source.toList).length := by
    induction references with
    | nil => exact Nat.le_refl 0
    | cons r references ih =>
      rw [List.flatMap_cons, List.length_append, List.length_cons, r.toList_source]
      simp only [Reference.inside, List.length_cons]
      omega
  rw [Token.scan, text]
  refine scanFrom_sheet _ ?_ 1 t.plain
  have := enough t.references
  rw [List.length_append]
  omega

end NodePools.Template
