import Mathlib.Data.List.Basic
import NodePools.Bootstrap
import NodePools.Json.Parser
import NodePools.Proofs.Utf8

/-!
# The document of a machine reads back

What a machine is given is a document written as JSON, in UTF-8, in base 64.  Each of the
three is read back: bytes from their letters (`Base64.decode?_encode`), a text from its
bytes (`Utf8.decode_encode`), and a document of texts and tables from its lines
(`Json.ReadsBack`).  Together, whoever decodes what a machine is given finds the document
with the address and the version that were put into it (`readUserData?_encodeUserData`).

JSON is read with fuel.  `Json.ReadsBack` asks for no more of it than the written form is
long, which is what a table hands on to its entries.
-/

namespace NodePools

/-! ## Base 64 -/

namespace Text.Base64

theorem value?_letter : ∀ n < 64, value? (letter n) = some n := by decide

theorem letter_ne_padding {n : Nat} (h : n < 64) : letter n ≠ '=' := by
  intro same
  have read := value?_letter n h
  rw [same] at read
  cases read

theorem decodeChars_encodeChars (bytes : Bytes) : decodeChars (encodeChars bytes) = some bytes := by
  induction bytes using encodeChars.induct with
  | case1 a b c rest ih =>
    have ha := a.toNat_lt
    have hb := b.toNat_lt
    have hc := c.toNat_lt
    have last : letter (c.toNat % 64) ≠ '=' := letter_ne_padding (by omega)
    rw [encodeChars, decodeChars]
    · rw [value?_letter _ (by omega), value?_letter _ (by omega), value?_letter _ (by omega),
        value?_letter _ (by omega), ih]
      have first : a.toNat / 4 * 4 + (a.toNat % 4 * 16 + b.toNat / 16) / 16 = a.toNat := by omega
      have second : (a.toNat % 4 * 16 + b.toNat / 16) % 16 * 16 +
          (b.toNat % 16 * 4 + c.toNat / 64) / 4 = b.toNat := by omega
      have third : (b.toNat % 16 * 4 + c.toNat / 64) % 4 * 64 + c.toNat % 64 = c.toNat := by omega
      simp only [Option.bind_eq_bind, Option.bind_some, first, second, third, UInt8.ofNat_toNat]
    · intro _ same _
      exact last same
    · intro same _
      exact last same
  | case2 a b =>
    have ha := a.toNat_lt
    have hb := b.toNat_lt
    rw [encodeChars, decodeChars]
    · rw [value?_letter _ (by omega), value?_letter _ (by omega), value?_letter _ (by omega)]
      have first : a.toNat / 4 * 4 + (a.toNat % 4 * 16 + b.toNat / 16) / 16 = a.toNat := by omega
      have second : (a.toNat % 4 * 16 + b.toNat / 16) % 16 * 16 + b.toNat % 16 * 4 / 4 =
          b.toNat := by omega
      have rest : b.toNat % 16 * 4 % 4 = 0 := by omega
      simp only [Option.bind_eq_bind, Option.bind_some, first, second, rest, if_true,
        UInt8.ofNat_toNat]
    · exact letter_ne_padding (by omega)
  | case3 a =>
    have ha := a.toNat_lt
    rw [encodeChars, decodeChars, value?_letter _ (by omega), value?_letter _ (by omega)]
    have first : a.toNat / 4 * 4 + a.toNat % 4 * 16 / 16 = a.toNat := by omega
    have rest : a.toNat % 4 * 16 % 16 = 0 := by omega
    simp only [Option.bind_eq_bind, Option.bind_some, first, rest, if_true, UInt8.ofNat_toNat]
  | case4 => rfl

theorem decode?_encode (bytes : Bytes) : decode? (encode bytes) = some bytes := by
  rw [decode?, encode, String.toList_ofList, decodeChars_encodeChars]

end Text.Base64

/-! ## JSON -/

open Text

theorem Text.Hex.digit?_digit (n : Nat) : Hex.digit? (Hex.digit n) = some (n % 16) := by
  have all : ∀ d < 16, Hex.digit? (Nat.digitChar d) = some d := by decide
  exact all _ (Nat.mod_lt _ (by decide))

namespace Json

theorem unit?_escaped {n : Nat} (h : n < 0x10000) :
    unit? (Hex.digit (n / 0x1000)) (Hex.digit (n / 0x100)) (Hex.digit (n / 0x10)) (Hex.digit n) =
      some n := by
  have value : n / 0x1000 % 16 * 0x1000 + n / 0x100 % 16 * 0x100 + n / 0x10 % 16 * 0x10 + n % 16 =
      n := by omega
  simp only [unit?, Hex.digit?_digit, Option.bind_eq_bind, Option.bind_some, Option.pure_def, value]

theorem isHighUnit_iff {n : Nat} : isHighUnit n = true ↔ 0xd800 ≤ n ∧ n < 0xdc00 := by
  simp only [isHighUnit, Bool.and_eq_true, decide_eq_true_eq]

theorem isLowUnit_iff {n : Nat} : isLowUnit n = true ↔ 0xdc00 ≤ n ∧ n < 0xe000 := by
  simp only [isLowUnit, Bool.and_eq_true, decide_eq_true_eq]

/-- A unit that is no half of a character is a character. -/
theorem readText_escapedUnit {n : Nat} (small : n < 0xd800 ∨ 0xdfff < n ∧ n < 0x10000)
    (rest : List Char) :
    readText (escapedUnit n ++ rest) =
      (readText rest).map fun (cs, rest) => (Char.ofNat n :: cs, rest) := by
  have high : ¬isHighUnit n = true := by
    rw [isHighUnit_iff]
    omega
  have low : ¬isLowUnit n = true := by
    rw [isLowUnit_iff]
    omega
  simp only [escapedUnit, List.cons_append, List.nil_append]
  rw [readText, unit?_escaped (by omega)]
  simp only [if_neg high, if_neg low]

/-- Two units that belong together are one character. -/
theorem readText_escapedUnits {high low : Nat} (isHigh : 0xd800 ≤ high ∧ high < 0xdc00)
    (isLow : 0xdc00 ≤ low ∧ low < 0xe000) (rest : List Char) :
    readText (escapedUnit high ++ escapedUnit low ++ rest) =
      (readText rest).map fun (cs, rest) =>
        (Char.ofNat (0x10000 + (high - 0xd800) * 0x400 + (low - 0xdc00)) :: cs, rest) := by
  simp only [escapedUnit, List.cons_append, List.nil_append]
  rw [readText, unit?_escaped (by omega)]
  simp only [if_pos (isHighUnit_iff.mpr isHigh), unit?_escaped (show low < 0x10000 by omega),
    if_pos (isLowUnit_iff.mpr isLow)]

/-- A character between the quotes is read as this character. -/
theorem readText_quoteChar (c : Char) (rest : List Char) :
    readText (quoteChar c ++ rest) = (readText rest).map fun (cs, rest) => (c :: cs, rest) := by
  have valid : c.toNat < 0xd800 ∨ 0xdfff < c.toNat ∧ c.toNat < 0x110000 := c.valid
  by_cases short : c = '"' ∨ c = '\\' ∨ c = '\n' ∨ c = '\r' ∨ c = '\t' ∨ c = '\x0c' ∨ c = '\x08'
  · rcases short with rfl | rfl | rfl | rfl | rfl | rfl | rfl <;> rfl
  push Not at short
  obtain ⟨quote, backslash, newline, back, tab, feed, erase⟩ := short
  rw [quoteChar, if_neg quote, if_neg backslash, if_neg newline, if_neg back, if_neg tab,
    if_neg feed, if_neg erase]
  by_cases plain : 0x20 ≤ c.toNat ∧ c.toNat < 0x7f
  · rw [if_pos plain, List.singleton_append, readText]
    · rw [if_neg]
      rintro (same | control)
      · exact backslash same
      · omega
    · exact quote
    · intro _ _ _ _ _ same
      exact absurd same backslash
    · intro _ _ same
      exact absurd same backslash
  rw [if_neg plain]
  by_cases first : c.toNat < 0x10000
  · rw [if_pos first, readText_escapedUnit (by omega), Char.ofNat_toNat]
  · have value : 0x10000 + (0xd800 + (c.toNat - 0x10000) / 0x400 - 0xd800) * 0x400 +
        (0xdc00 + (c.toNat - 0x10000) % 0x400 - 0xdc00) = c.toNat := by omega
    rw [if_neg first, readText_escapedUnits (by omega) (by omega), value, Char.ofNat_toNat]

theorem readText_quoteText (cs rest : List Char) :
    readText (cs.flatMap quoteChar ++ '"' :: rest) = some (cs, rest) := by
  induction cs with
  | nil => rfl
  | cons c cs ih =>
    rw [List.flatMap_cons, List.append_assoc, readText_quoteChar, ih]
    rfl

/-! ### Documents -/

/-- Blanks in front of a document change nothing. -/
theorem skipSpace_newLine (depth : Nat) (rest : List Char) :
    skipSpace (newLine depth ++ rest) = skipSpace rest := by
  have blanks : ∀ n, skipSpace (List.replicate n ' ' ++ rest) = skipSpace rest := by
    intro n
    induction n with
    | zero => rfl
    | succ n ih => exact ih
  exact blanks (2 * depth)

/-- A document is read back from its written form, at any depth and with enough fuel, up to its
end. -/
def ReadsBack (j : Json) : Prop :=
  ∀ depth fuel rest, (write depth j).length ≤ fuel →
    readValue fuel (write depth j ++ rest) = some (j, rest)

theorem readsBack_text (s : String) : ReadsBack (.text s) := by
  intro depth fuel rest enough
  have long : 0 < (write depth (.text s)).length := by
    rw [write, quoteText]
    exact Nat.succ_pos _
  obtain ⟨fuel, rfl⟩ : ∃ n, fuel = n + 1 :=
    Nat.exists_eq_add_one_of_ne_zero (Nat.ne_of_gt (Nat.lt_of_lt_of_le long enough))
  have read := readText_quoteText s.toList rest
  have begins : write depth (.text s) ++ rest =
      '"' :: (s.toList.flatMap quoteChar ++ '"' :: rest) := by
    simp only [write, quoteText, List.cons_append, List.append_assoc, List.nil_append]
  have value (cs : List Char) : readValue (fuel + 1) ('"' :: cs) =
      (readText cs).map fun (s, rest) => (.text (String.ofList s), rest) := rfl
  rw [begins, value, read]
  simp only [Option.map_some, String.ofList_toList]

theorem readValue_space (fuel : Nat) (cs : List Char) :
    readValue fuel (' ' :: cs) = readValue fuel cs := by
  cases fuel <;> rfl

theorem readFields_newLine (fuel depth : Nat) (cs : List Char) :
    readFields fuel (newLine depth ++ cs) = readFields fuel cs := by
  cases fuel with
  | zero => rfl
  | succ fuel => rw [readFields, readFields, skipSpace_newLine]

theorem skipSpace_quote (cs : List Char) : skipSpace ('"' :: cs) = '"' :: cs := rfl

theorem skipSpace_colon (cs : List Char) : skipSpace (':' :: cs) = ':' :: cs := rfl

theorem skipSpace_comma (cs : List Char) : skipSpace (',' :: cs) = ',' :: cs := rfl

/-- The written form of a key begins with a quotation mark. -/
theorem quoteText_key (k : String) (cs : List Char) : quoteText k.toList ++ ':' :: ' ' :: cs =
    '"' :: (k.toList.flatMap quoteChar ++ '"' :: ':' :: ' ' :: cs) := by
  simp only [quoteText, List.cons_append, List.append_assoc, List.nil_append]

/-- An entry of a table is the last one if the end of the table follows on its value. -/
theorem readFields_last {fuel : Nat} {v : Json} {cs after rest : List Char} (k : String)
    (read : readValue fuel cs = some (v, after)) (ends : skipSpace after = '\x7d' :: rest) :
    readFields (fuel + 1) (quoteText k.toList ++ ':' :: ' ' :: cs) = some ([(k, v)], rest) := by
  rw [quoteText_key, readFields, skipSpace_quote]
  simp only [readText_quoteText, skipSpace_colon, readValue_space, read, ends,
    String.ofList_toList]

/-- Further entries are read behind a comma. -/
theorem readFields_more {fuel : Nat} {v : Json} {cs after rest left : List Char}
    {fields : List (String × Json)} (k : String) (read : readValue fuel cs = some (v, after))
    (goes_on : skipSpace after = ',' :: rest) (others : readFields fuel rest = some (fields, left)) :
    readFields (fuel + 1) (quoteText k.toList ++ ':' :: ' ' :: cs) =
      some ((k, v) :: fields, left) := by
  rw [quoteText_key, readFields, skipSpace_quote]
  simp only [readText_quoteText, skipSpace_colon, readValue_space, read, goes_on, others,
    Option.map_some, String.ofList_toList]

/-- The entries of a table are read from their written form up to the end of the table. -/
theorem readFields_write (depth last : Nat) (rest : List Char) (fields : List (String × Json))
    (k : String) (v : Json) {fuel : Nat} (here : ReadsBack v)
    (later : ∀ e ∈ fields, ReadsBack e.2)
    (enough : (write depth v ++ writeFields depth fields).length < fuel) :
    readFields fuel (quoteText k.toList ++ ':' :: ' ' :: (write depth v ++
      (writeFields depth fields ++ (newLine last ++ '\x7d' :: rest)))) =
      some ((k, v) :: fields, rest) := by
  induction fields generalizing k v fuel with
  | nil =>
    obtain ⟨fuel, rfl⟩ : ∃ n, fuel = n + 1 :=
      Nat.exists_eq_add_one_of_ne_zero (Nat.ne_of_gt (Nat.zero_lt_of_lt enough))
    rw [List.length_append] at enough
    exact readFields_last k (here depth fuel _ (by omega)) (skipSpace_newLine ..)
  | cons e fields ih =>
    obtain ⟨k', v'⟩ := e
    obtain ⟨fuel, rfl⟩ : ∃ n, fuel = n + 1 :=
      Nat.exists_eq_add_one_of_ne_zero (Nat.ne_of_gt (Nat.zero_lt_of_lt enough))
    obtain ⟨next, others⟩ := List.forall_mem_cons.mp later
    have rest_fits : (write depth v' ++ writeFields depth fields).length < fuel := by
      simp only [writeFields, List.length_append, List.length_cons] at enough ⊢
      omega
    rw [List.length_append] at enough
    have read := ih k' v' next others rest_fits
    rw [← readFields_newLine] at read
    simp only [writeFields, List.cons_append, List.append_assoc, List.nil_append]
    exact readFields_more k (here depth fuel _ (by omega)) (skipSpace_comma _) read

/-- A table with an entry on its first line is read as its entries are. -/
theorem readValue_table (fuel depth : Nat) (cs : List Char) :
    readValue (fuel + 1) ('\x7b' :: (newLine depth ++ '"' :: cs)) =
      (readFields fuel ('"' :: cs)).map fun (fields, rest) => (.table fields, rest) := by
  have opened (cs : List Char) : skipSpace ('\x7b' :: cs) = '\x7b' :: cs := rfl
  have skip : skipSpace (newLine depth ++ '"' :: cs) = '"' :: cs := skipSpace_newLine ..
  rw [readValue, opened]
  simp only [skip]
  rfl

theorem readsBack_table {fields : List (String × Json)} (each : ∀ e ∈ fields, ReadsBack e.2) :
    ReadsBack (.table fields) := by
  intro depth fuel rest enough
  cases fields with
  | nil =>
    obtain ⟨fuel, rfl⟩ := Nat.exists_eq_add_one_of_ne_zero
      (Nat.ne_of_gt (Nat.lt_of_lt_of_le (by rw [write]; decide) enough))
    rw [write]
    rfl
  | cons e fields =>
    obtain ⟨k, v⟩ := e
    obtain ⟨here, later⟩ := List.forall_mem_cons.mp each
    simp only [write, List.length_append, List.length_cons] at enough
    obtain ⟨fuel, rfl⟩ : ∃ n, fuel = n + 1 := ⟨fuel - 1, by omega⟩
    have fits : (write (depth + 1) v ++ writeFields (depth + 1) fields).length < fuel := by
      rw [List.length_append]
      omega
    have read := readFields_write (depth + 1) depth rest fields k v here later fits
    simp only [write, quoteText, List.cons_append, List.append_assoc, List.nil_append] at read ⊢
    rw [readValue_table, read]
    rfl

/-- What reads back is what its text is parsed to. -/
theorem ReadsBack.parse? {j : Json} (h : ReadsBack j) : Json.parse? j.pretty = some j := by
  have read := h 0 (2 * (write 0 j).length + 2) [] (by omega)
  rw [List.append_nil] at read
  simp only [Json.parse?, Json.pretty, String.toList_ofList, read]
  rfl

end Json

namespace Bootstrap

theorem readsBack_skeletonDocument (uri version : String) :
    (skeletonDocument uri version).ReadsBack := by
  open Json in
  have source : ReadsBack (.table [("source", .text uri)]) :=
    readsBack_table (List.forall_mem_singleton.mpr (readsBack_text uri))
  have replace : ReadsBack (.table [("replace", _)]) :=
    readsBack_table (List.forall_mem_singleton.mpr source)
  have ignition : ReadsBack (.table [("version", .text version), ("config", _)]) :=
    readsBack_table
      (List.forall_mem_cons.mpr ⟨readsBack_text version, List.forall_mem_singleton.mpr replace⟩)
  exact readsBack_table (List.forall_mem_singleton.mpr ignition)

/-- The document that is found in what a machine is given. -/
def readUserData? (encoded : String) : Option Json := do
  let bytes ← Text.Base64.decode? encoded
  let text ← (Text.Utf8.decode bytes).toOption
  Json.parse? text

theorem readUserData?_encodeUserData (uri version : String) :
    readUserData? (encodeUserData uri version) = some (skeletonDocument uri version) := by
  have parsed := (readsBack_skeletonDocument uri version).parse?
  rw [readUserData?, encodeUserData, Text.Base64.decode?_encode]
  simp only [Option.bind_eq_bind, Option.bind_some, Text.Utf8.decode_encode, Except.toOption,
    skeleton, parsed]

end Bootstrap
end NodePools
