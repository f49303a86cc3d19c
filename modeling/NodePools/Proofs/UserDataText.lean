import NodePools.Proofs.Skeleton

/-!
# What a machine is given, letter by letter

What is handed to a machine goes through tools that take letters of base 64 only, and is read as
ASCII behind them.  Base 64 is written in the letters of its alphabet, with as much padding as its
last group of four lacks (`Base64.written_encode`).  A document is written in ASCII, whatever the
texts in it are (`Json.ascii_write`), so that its bytes are its characters
(`Utf8.encode_of_ascii`).

With what is read back from both, a machine is told the address and the version exactly
(`Bootstrap.encodeUserData_exact`).
-/

namespace NodePools

/-- Whether all characters are of ASCII. -/
def Text.Ascii (cs : List Char) : Prop := ∀ c ∈ cs, c.toNat < 0x80

open Text (Ascii)

/-! ## Letters of base 64 -/

namespace Text.Base64

/-- The letters of base 64. -/
def alphabet : List Char :=
  "ABCDEFGHIJKLMNOPQRSTUVWXYZabcdefghijklmnopqrstuvwxyz0123456789+/".toList

/-- Whether a text is a written form: letters, and padding that fills them up to groups of
four. -/
def Written (s : String) : Prop :=
  ∃ letters padding, s.toList = letters ++ List.replicate padding '=' ∧
    (∀ c ∈ letters, c ∈ alphabet) ∧ padding ≤ 2 ∧ 4 ∣ letters.length + padding

theorem letter_mem_alphabet : ∀ n < 64, letter n ∈ alphabet := by decide

/-- Bytes are written as the letters of values of six bits each, and padding. -/
theorem exists_values (bytes : Bytes) :
    ∃ (values : List Nat) (padding : Nat),
      encodeChars bytes = values.map letter ++ List.replicate padding '=' ∧
      (∀ n ∈ values, n < 64) ∧ padding ≤ 2 ∧ 4 ∣ values.length + padding := by
  induction bytes using encodeChars.induct with
  | case1 a b c rest ih =>
    obtain ⟨values, padding, later, small, few, groups⟩ := ih
    have ha := a.toNat_lt
    have hb := b.toNat_lt
    have hc := c.toNat_lt
    refine ⟨a.toNat / 4 :: (a.toNat % 4 * 16 + b.toNat / 16) :: (b.toNat % 16 * 4 + c.toNat / 64) ::
      c.toNat % 64 :: values, padding, ?_, ?_, few, ?_⟩
    · rw [encodeChars, later]
      rfl
    · simp only [List.forall_mem_cons]
      exact ⟨by omega, by omega, by omega, by omega, small⟩
    · simp only [List.length_cons]
      omega
  | case2 a b =>
    have ha := a.toNat_lt
    have hb := b.toNat_lt
    refine ⟨[a.toNat / 4, a.toNat % 4 * 16 + b.toNat / 16, b.toNat % 16 * 4], 1, rfl, ?_, by decide,
      ⟨1, rfl⟩⟩
    simp only [List.forall_mem_cons]
    exact ⟨by omega, by omega, by omega, List.forall_mem_nil _⟩
  | case3 a =>
    have ha := a.toNat_lt
    refine ⟨[a.toNat / 4, a.toNat % 4 * 16], 2, rfl, ?_, by decide, ⟨1, rfl⟩⟩
    simp only [List.forall_mem_cons]
    exact ⟨by omega, by omega, List.forall_mem_nil _⟩
  | case4 => exact ⟨[], 0, rfl, List.forall_mem_nil _, by decide, by decide⟩

/-- What bytes are written as is a written form. -/
theorem written_encode (bytes : Bytes) : Written (encode bytes) := by
  obtain ⟨values, padding, same, small, few, groups⟩ := exists_values bytes
  refine ⟨values.map letter, padding, ?_, ?_, few, ?_⟩
  · rw [encode, String.toList_ofList, same]
  · exact List.forall_mem_map.mpr fun n mem => letter_mem_alphabet n (small n mem)
  · rwa [List.length_map]

end Text.Base64

/-! ## Documents in ASCII -/

namespace Text

@[simp] theorem ascii_nil : Ascii [] := nofun

@[simp] theorem ascii_cons {c : Char} {cs : List Char} :
    Ascii (c :: cs) ↔ c.toNat < 0x80 ∧ Ascii cs :=
  List.forall_mem_cons

@[simp] theorem ascii_append {cs ds : List Char} : Ascii (cs ++ ds) ↔ Ascii cs ∧ Ascii ds :=
  List.forall_mem_append

@[simp] theorem Hex.ascii_digit (n : Nat) : (Hex.digit n).toNat < 0x80 := by
  have all : ∀ d < 16, (Nat.digitChar d).toNat < 0x80 := by decide
  exact all _ (Nat.mod_lt _ (by decide))

/-- A number is written in digits. -/
theorem ascii_digits (n : Nat) : Ascii n.repr.toList := by
  rw [Nat.toList_repr]
  intro c mem
  have digit := Nat.isDigit_of_mem_toDigits (by decide) (by decide) mem
  have last : c.val ≤ '9'.val := of_decide_eq_true (Bool.and_eq_true_iff.mp digit).2
  exact Nat.lt_of_le_of_lt (UInt32.le_iff_toNat_le.mp last) (by decide)

/-- The bytes of a text in ASCII are its characters. -/
theorem Utf8.encode_of_ascii {s : String} (plain : Ascii s.toList) :
    Utf8.encode s = s.toList.map fun c => UInt8.ofNat c.toNat := by
  rw [Utf8.encode]
  generalize s.toList = cs at plain
  induction cs with
  | nil => rfl
  | cons c cs ih =>
    obtain ⟨small, rest⟩ := ascii_cons.mp plain
    rw [List.flatMap_cons, ih rest, Utf8.encodeChar, if_pos small]
    rfl

end Text

namespace Json

open Text

@[simp] theorem ascii_escapedUnit (n : Nat) : Ascii (escapedUnit n) := by
  simp [escapedUnit]

/-- A character outside of ASCII is escaped. -/
theorem ascii_quoteChar (c : Char) : Ascii (quoteChar c) := by
  by_cases short : c = '"' ∨ c = '\\' ∨ c = '\n' ∨ c = '\r' ∨ c = '\t' ∨ c = '\x0c' ∨ c = '\x08'
  · rcases short with rfl | rfl | rfl | rfl | rfl | rfl | rfl <;> simp [quoteChar]
  push Not at short
  obtain ⟨quote, backslash, newline, back, tab, feed, erase⟩ := short
  rw [quoteChar, if_neg quote, if_neg backslash, if_neg newline, if_neg back, if_neg tab,
    if_neg feed, if_neg erase]
  split
  next plain => exact ascii_cons.mpr ⟨Nat.lt_succ_of_lt plain.2, ascii_nil⟩
  · split
    · exact ascii_escapedUnit _
    · exact ascii_append.mpr ⟨ascii_escapedUnit _, ascii_escapedUnit _⟩

@[simp] theorem ascii_quoteText (cs : List Char) : Ascii (quoteText cs) := by
  have quoted : Ascii (cs.flatMap quoteChar) := by
    intro x mem
    obtain ⟨c, -, inside⟩ := List.mem_flatMap.mp mem
    exact ascii_quoteChar c x inside
  simp [quoteText, quoted]

@[simp] theorem ascii_newLine (depth : Nat) : Ascii (newLine depth) := by
  refine ascii_cons.mpr ⟨by decide, fun c mem => ?_⟩
  rw [List.eq_of_mem_replicate mem]
  decide

theorem ascii_whole (n : Int) : Ascii (toString n).toList := by
  cases n with
  | ofNat n => exact ascii_digits n
  | negSucc n =>
    show Ascii ("-" ++ n.succ.repr).toList
    rw [String.toList_append]
    exact ascii_append.mpr ⟨ascii_cons.mpr ⟨by decide, ascii_nil⟩, ascii_digits n.succ⟩

theorem ascii_numberText (mantissa exponent : Int) : Ascii (numberText mantissa exponent) := by
  refine ascii_append.mpr ⟨ascii_whole mantissa, ?_⟩
  split
  · exact ascii_nil
  · exact ascii_cons.mpr ⟨by decide, ascii_whole exponent⟩

mutual

/-- Whatever is in a document, it is written in ASCII. -/
theorem ascii_write (depth : Nat) : (j : Json) → Ascii (write depth j)
  | .null | .bool true | .bool false | .list [] | .table [] => by simp [write]
  | .number mantissa exponent => ascii_numberText mantissa exponent
  | .text s => ascii_quoteText s.toList
  | .list (item :: items) => by
    have here := ascii_write (depth + 1) item
    have later := ascii_writeItems (depth + 1) items
    simp [write, here, later]
  | .table ((k, v) :: fields) => by
    have here := ascii_write (depth + 1) v
    have later := ascii_writeFields (depth + 1) fields
    simp [write, here, later]

theorem ascii_writeItems (depth : Nat) : (items : List Json) → Ascii (writeItems depth items)
  | [] => ascii_nil
  | item :: items => by
    have here := ascii_write depth item
    have later := ascii_writeItems depth items
    simp [writeItems, here, later]

theorem ascii_writeFields (depth : Nat) :
    (fields : List (String × Json)) → Ascii (writeFields depth fields)
  | [] => ascii_nil
  | (k, v) :: fields => by
    have here := ascii_write depth v
    have later := ascii_writeFields depth fields
    simp [writeFields, here, later]

end

end Json

/-! ## What a machine is given -/

namespace Bootstrap

theorem ascii_skeleton (uri version : String) : Ascii (skeleton uri version).toList := by
  rw [skeleton, Json.pretty, String.toList_ofList]
  exact Json.ascii_write 0 _

/-- Whatever an address and a version are, a machine is given letters of base 64 with the padding
that is due; they stand for a document in ASCII, byte by byte; and this is read as the version and
the address in their places.  So a machine is given the same only for the same address and the same
version. -/
theorem encodeUserData_exact (uri version : String) :
    Text.Base64.Written (encodeUserData uri version) ∧
    Ascii (skeleton uri version).toList ∧
    Text.Base64.decode? (encodeUserData uri version) =
      some ((skeleton uri version).toList.map fun c => UInt8.ofNat c.toNat) ∧
    Json.parse? (skeleton uri version) = some (.table [("ignition", .table [
      ("version", .text version),
      ("config", .table [("replace", .table [("source", .text uri)])])])]) ∧
    ∀ uri' version', encodeUserData uri version = encodeUserData uri' version' ↔
      uri = uri' ∧ version = version' := by
  have plain := ascii_skeleton uri version
  refine ⟨Text.Base64.written_encode _, plain, ?_, (readsBack_skeletonDocument uri version).parse?,
    fun uri' version' => ⟨fun same => ?_, ?_⟩⟩
  · rw [encodeUserData, Text.Base64.decode?_encode, Text.Utf8.encode_of_ascii plain]
  · have read := readUserData?_encodeUserData uri version
    rw [same, readUserData?_encodeUserData] at read
    simp only [skeletonDocument, Option.some.injEq, Json.table.injEq, List.cons.injEq,
      Prod.mk.injEq, Json.text.injEq, true_and, and_true] at read
    exact ⟨read.2.symm, read.1.symm⟩
  · rintro ⟨rfl, rfl⟩
    rfl

end Bootstrap
end NodePools
