import NodePools.Text.Utf8

/-!
# Texts and their bytes

A text is decoded from its bytes (`decode_encode`), and nothing else is decoded: where strict
decoding comes to a text, the bytes are those of this text (`encode_of_decode`), so that there
are no two ways to write a text.  The bytes that are decoded are thus those of texts
(`decode_eq_ok_iff`).

The decoder is followed from one character to the next.  Between two of them it remembers
nothing, and within one the bounds of the byte to come keep out what the encoder does not make.
-/

namespace NodePools.Text.Utf8

/-! ## What is encoded is decoded -/

/-- A byte that the begun character allows goes on with it. -/
theorem scan_continues {g : Begun} {n : Nat} (low : g.low ≤ n) (high : n ≤ g.high)
    (small : n < 256) (rest : Bytes) :
    scan (some g) (UInt8.ofNat n :: rest) =
      if g.missing ≤ 1 then .char (Char.ofNat (g.value * 0x40 + (n - 0x80))) :: scan none rest
      else scan (some ⟨g.read ++ [UInt8.ofNat n], g.missing - 1, 0x80, 0xbf,
        g.value * 0x40 + (n - 0x80)⟩) rest := by
  have value : (UInt8.ofNat n).toNat = n := by
    rw [UInt8.toNat_ofNat', Nat.mod_eq_of_lt small]
  rw [scan, value, if_pos (by simp [low, high])]

/-- A byte that begins a character is remembered with what may follow it. -/
theorem scan_begins {n : Nat} {g : Begun} (begins : start (UInt8.ofNat n) = .begun g)
    (rest : Bytes) : scan none (UInt8.ofNat n :: rest) = scan (some g) rest := by
  rw [scan, begins]

/-- What a byte does at the start of a character, by its value. -/
theorem start_ofNat {n : Nat} (small : n < 256) :
    start (UInt8.ofNat n) =
      if n < 0x80 then .whole (Char.ofNat n)
      else if n < 0xc2 then .invalid
      else if n < 0xe0 then .begun ⟨[UInt8.ofNat n], 1, 0x80, 0xbf, n - 0xc0⟩
      else if n < 0xf0 then
        .begun ⟨[UInt8.ofNat n], 2, if n = 0xe0 then 0xa0 else 0x80,
          if n = 0xed then 0x9f else 0xbf, n - 0xe0⟩
      else if n < 0xf5 then
        .begun ⟨[UInt8.ofNat n], 3, if n = 0xf0 then 0x90 else 0x80,
          if n = 0xf4 then 0x8f else 0xbf, n - 0xf0⟩
      else .invalid := by
  simp only [start, UInt8.toNat_ofNat', Nat.mod_eq_of_lt small]

/-- The bytes of a character are read as this character. -/
theorem scan_encodeChar (c : Char) (rest : Bytes) :
    scan none (encodeChar c ++ rest) = .char c :: scan none rest := by
  have valid : c.toNat < 0xd800 ∨ 0xdfff < c.toNat ∧ c.toNat < 0x110000 := c.valid
  have same (m : Nat) (h : m = c.toNat) : Char.ofNat m = c := by rw [h, Char.ofNat_toNat]
  unfold encodeChar
  dsimp only
  split
  next one =>
    rw [List.singleton_append, scan, start_ofNat (by omega), if_pos one]
    dsimp only
    rw [Char.ofNat_toNat]
  next =>
  split
  next two =>
    have begins := start_ofNat (n := 0xc0 + c.toNat / 0x40) (by omega)
    rw [if_neg (by omega), if_neg (by omega), if_pos (by omega)] at begins
    simp only [List.cons_append, List.nil_append]
    rw [scan_begins begins, scan_continues (by dsimp only; omega) (by dsimp only; omega) (by omega),
      if_pos (Nat.le_refl _), same _ (by dsimp only; omega)]
  next =>
  split
  next three =>
    have begins := start_ofNat (n := 0xe0 + c.toNat / 0x1000) (by omega)
    rw [if_neg (by omega), if_neg (by omega), if_neg (by omega), if_pos (by omega)] at begins
    simp only [List.cons_append, List.nil_append]
    rw [scan_begins begins, scan_continues (by dsimp only; split <;> omega)
        (by dsimp only; split <;> omega) (by omega), if_neg (by dsimp only; omega),
      scan_continues (by dsimp only; omega) (by dsimp only; omega) (by omega),
      if_pos (by dsimp only; omega), same _ (by dsimp only; omega)]
  next =>
    have begins := start_ofNat (n := 0xf0 + c.toNat / 0x40000) (by omega)
    rw [if_neg (by omega), if_neg (by omega), if_neg (by omega), if_neg (by omega),
      if_pos (by omega)] at begins
    simp only [List.cons_append, List.nil_append]
    rw [scan_begins begins, scan_continues (by dsimp only; split <;> omega)
        (by dsimp only; split <;> omega) (by omega), if_neg (by dsimp only; omega),
      scan_continues (by dsimp only; omega) (by dsimp only; omega) (by omega),
      if_neg (by dsimp only; omega),
      scan_continues (by dsimp only; omega) (by dsimp only; omega) (by omega),
      if_pos (by dsimp only; omega), same _ (by dsimp only; omega)]

theorem gather_char (cs : List Char) (position : Nat) :
    gather position (cs.map .char) = .ok cs := by
  induction cs generalizing position with
  | nil => rfl
  | cons c cs ih =>
    rw [List.map_cons, gather, ih]
    rfl

theorem decode_encode (s : String) : decode (encode s) = .ok s := by
  have pieces (cs : List Char) : scan none (cs.flatMap encodeChar) = cs.map .char := by
    induction cs with
    | nil => rfl
    | cons c cs ih => rw [List.flatMap_cons, scan_encodeChar, ih, List.map_cons]
  rw [decode, encode, pieces, gather_char]
  exact congrArg Except.ok String.ofList_toList

/-! ## What is decoded was encoded -/

theorem gather_eq_ok {pieces : List Piece} {position : Nat} {cs : List Char}
    (h : gather position pieces = .ok cs) : pieces = cs.map .char := by
  induction pieces generalizing position cs with
  | nil =>
    cases h
    rfl
  | cons piece pieces ih =>
    cases piece with
    | invalid bytes defect => cases h
    | char c =>
      rw [gather] at h
      cases gathered : gather (position + (encodeChar c).length) pieces with
      | error u =>
        rw [gathered] at h
        cases h
      | ok rest =>
        rw [gathered] at h
        cases h
        rw [ih gathered, List.map_cons]

/-- If no part is invalid, a begun character goes on with a byte within its bounds. -/
theorem scan_begun {g : Begun} {bytes : Bytes} {cs : List Char}
    (h : scan (some g) bytes = cs.map .char) :
    ∃ b rest, bytes = b :: rest ∧ g.low ≤ b.toNat ∧ b.toNat ≤ g.high := by
  cases bytes with
  | nil =>
    rw [scan] at h
    cases cs <;> cases h
  | cons b rest =>
    rw [scan] at h
    split at h
    next within =>
      obtain ⟨low, high⟩ := Bool.and_eq_true_iff.mp within
      exact ⟨b, rest, rfl, of_decide_eq_true low, of_decide_eq_true high⟩
    · cases cs <;> cases h

section

variable {read : Bytes} {low high value : Nat} {bytes : Bytes} {cs : List Char}

/-- The last byte completes the character. -/
theorem scan_last {c : Char}
    (h : scan (some ⟨read, 1, low, high, value⟩) bytes = (c :: cs).map .char) :
    ∃ b rest, bytes = b :: rest ∧ low ≤ b.toNat ∧ b.toNat ≤ high ∧
      c = Char.ofNat (value * 0x40 + (b.toNat - 0x80)) ∧ scan none rest = cs.map .char := by
  obtain ⟨b, rest, rfl, least, most⟩ := scan_begun h
  rw [scan, if_pos (by simp only [least, most, decide_true, Bool.and_true])] at h
  obtain ⟨first, others⟩ := List.cons.inj h
  exact ⟨b, rest, rfl, least, most, (Piece.char.inj first).symm, others⟩

/-- A byte before the last leaves the character begun. -/
theorem scan_more {missing : Nat}
    (h : scan (some ⟨read, missing + 2, low, high, value⟩) bytes = cs.map .char) :
    ∃ b rest, bytes = b :: rest ∧ low ≤ b.toNat ∧ b.toNat ≤ high ∧
      scan (some ⟨read ++ [b], missing + 1, 0x80, 0xbf, value * 0x40 + (b.toNat - 0x80)⟩) rest =
        cs.map .char := by
  obtain ⟨b, rest, rfl, least, most⟩ := scan_begun h
  rw [scan, if_pos (by simp only [least, most, decide_true, Bool.and_true])] at h
  exact ⟨b, rest, rfl, least, most, h⟩

end

theorem encodeChar_ofNat {n : Nat} (valid : n < 0xd800 ∨ 0xdfff < n ∧ n < 0x110000) :
    encodeChar (Char.ofNat n) =
      if n < 0x80 then [UInt8.ofNat n]
      else if n < 0x800 then
        [UInt8.ofNat (0xc0 + n / 0x40), UInt8.ofNat (0x80 + n % 0x40)]
      else if n < 0x10000 then
        [UInt8.ofNat (0xe0 + n / 0x1000), UInt8.ofNat (0x80 + n / 0x40 % 0x40),
          UInt8.ofNat (0x80 + n % 0x40)]
      else
        [UInt8.ofNat (0xf0 + n / 0x40000), UInt8.ofNat (0x80 + n / 0x1000 % 0x40),
          UInt8.ofNat (0x80 + n / 0x40 % 0x40), UInt8.ofNat (0x80 + n % 0x40)] := by
  have same : (Char.ofNat n).toNat = n := by
    rw [Char.ofNat, dif_pos valid]
    rfl
  rw [encodeChar, same]

theorem ofNat_eq {n : Nat} {b : UInt8} (h : n = b.toNat) : UInt8.ofNat n = b := by
  rw [h, UInt8.ofNat_toNat]

/-- Bytes behind the beginning of a character are read as something. -/
theorem scan_some_ne_nil (g : Begun) (bytes : Bytes) : scan (some g) bytes ≠ [] := by
  induction bytes generalizing g with
  | nil =>
    rw [scan]
    exact List.cons_ne_nil _ _
  | cons b rest ih =>
    rw [scan]
    split
    · dsimp only
      split
      · exact List.cons_ne_nil _ _
      · exact ih _
    · exact List.cons_ne_nil _ _

/-- A byte that begins a character is followed by the bytes that it asks for. -/
theorem scan_of_begun {b : UInt8} {g : Begun} {rest : Bytes} {cs : List Char}
    (begins : start b = .begun g) (h : scan none (b :: rest) = cs.map .char) :
    scan (some g) rest = cs.map .char := by
  rw [scan, begins] at h
  exact h

/-- Bytes of which no part is invalid begin with those of the character that is read first. -/
theorem split_of_scan {bytes : Bytes} {c : Char} {cs : List Char}
    (h : scan none bytes = (c :: cs).map .char) :
    ∃ rest, bytes = encodeChar c ++ rest ∧ scan none rest = cs.map .char := by
  obtain _ | ⟨b, rest⟩ := bytes
  · cases h
  have small := b.toNat_lt
  -- the range of the first byte tells how many bytes the character has
  by_cases one : b.toNat < 0x80
  · have whole : start b = .whole (Char.ofNat b.toNat) := by simp only [start, if_pos one]
    rw [scan, whole] at h
    obtain ⟨first, others⟩ := List.cons.inj h
    obtain rfl := Piece.char.inj first
    refine ⟨rest, ?_, others⟩
    rw [encodeChar_ofNat (by omega), if_pos one, ofNat_eq rfl]
    rfl
  by_cases two : 0xc2 ≤ b.toNat ∧ b.toNat < 0xe0
  · have begins : start b = .begun ⟨[b], 1, 0x80, 0xbf, b.toNat - 0xc0⟩ := by
      simp only [start, if_neg one, if_pos two.2, if_neg (Nat.not_lt.mpr two.1)]
    obtain ⟨b₂, rest, rfl, low, high, same, others⟩ := scan_last (scan_of_begun begins h)
    refine ⟨rest, ?_, others⟩
    rw [same, encodeChar_ofNat (by omega), if_neg (by omega), if_pos (by omega),
      ofNat_eq (b := b) (by omega), ofNat_eq (b := b₂) (by omega)]
    rfl
  by_cases three : 0xe0 ≤ b.toNat ∧ b.toNat < 0xf0
  · have begins : start b = .begun ⟨[b], 2, if b.toNat = 0xe0 then 0xa0 else 0x80,
        if b.toNat = 0xed then 0x9f else 0xbf, b.toNat - 0xe0⟩ := by
      simp only [start, if_neg one, if_pos three.2, if_neg (Nat.not_lt.mpr three.1),
        if_neg (show ¬b.toNat < 0xc2 by omega)]
    obtain ⟨b₂, rest, rfl, low, high, more⟩ := scan_more (scan_of_begun begins h)
    obtain ⟨b₃, rest, rfl, low', high', same, others⟩ := scan_last more
    refine ⟨rest, ?_, others⟩
    split at low <;> split at high <;>
      rw [same, encodeChar_ofNat (by omega), if_neg (by omega), if_neg (by omega), if_pos (by omega),
        ofNat_eq (b := b) (by omega), ofNat_eq (b := b₂) (by omega),
        ofNat_eq (b := b₃) (by omega)] <;>
      rfl
  by_cases four : 0xf0 ≤ b.toNat ∧ b.toNat < 0xf5
  · have begins : start b = .begun ⟨[b], 3, if b.toNat = 0xf0 then 0x90 else 0x80,
        if b.toNat = 0xf4 then 0x8f else 0xbf, b.toNat - 0xf0⟩ := by
      simp only [start, if_neg one, if_pos four.2, if_neg (Nat.not_lt.mpr four.1),
        if_neg (show ¬b.toNat < 0xc2 by omega), if_neg (show ¬b.toNat < 0xe0 by omega)]
    obtain ⟨b₂, rest, rfl, low, high, more⟩ := scan_more (scan_of_begun begins h)
    obtain ⟨b₃, rest, rfl, low', high', more⟩ := scan_more more
    obtain ⟨b₄, rest, rfl, low'', high'', same, others⟩ := scan_last more
    refine ⟨rest, ?_, others⟩
    split at low <;> split at high <;>
      rw [same, encodeChar_ofNat (by omega), if_neg (by omega), if_neg (by omega), if_neg (by omega),
        ofNat_eq (b := b) (by omega), ofNat_eq (b := b₂) (by omega),
        ofNat_eq (b := b₃) (by omega), ofNat_eq (b := b₄) (by omega)] <;>
      rfl
  -- no other byte begins a character
  have invalid : start b = .invalid := by
    simp only [start, if_neg one]
    by_cases low : b.toNat < 0xc2
    · rw [if_pos low]
    · rw [if_neg low, if_neg (by omega), if_neg (by omega), if_neg (by omega)]
  rw [scan, invalid] at h
  cases h

theorem encode_of_decode {bytes : Bytes} {s : String} (h : decode bytes = .ok s) :
    bytes = encode s := by
  obtain ⟨cs, gathered, rfl⟩ : ∃ cs, gather 0 (scan none bytes) = .ok cs ∧ s = String.ofList cs := by
    rw [decode] at h
    cases gathered : gather 0 (scan none bytes) with
    | error u =>
      rw [gathered] at h
      cases h
    | ok cs =>
      rw [gathered] at h
      cases h
      exact ⟨cs, rfl, rfl⟩
  have pieces := gather_eq_ok gathered
  clear gathered h
  rw [encode, String.toList_ofList]
  -- one character after the other, each with its bytes
  induction cs generalizing bytes with
  | nil =>
    obtain _ | ⟨b, rest⟩ := bytes
    · rfl
    · rw [scan] at pieces
      split at pieces
      · cases pieces
      · exact absurd pieces (scan_some_ne_nil _ _)
      · cases pieces
  | cons c cs ih =>
    obtain ⟨rest, rfl, others⟩ := split_of_scan pieces
    rw [List.flatMap_cons, ih others]

/-- The bytes that are decoded are those of texts. -/
theorem decode_eq_ok_iff {bytes : Bytes} {s : String} :
    decode bytes = .ok s ↔ bytes = encode s :=
  ⟨encode_of_decode, fun same => same ▸ decode_encode s⟩

end NodePools.Text.Utf8
