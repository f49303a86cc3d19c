import NodePools.Text.CodeRange

/-!
# White space

White space is what Unicode counts as white space or as a separator of
paragraphs, segments and records: besides the space and the line controls it
holds the four information separators and the wide spaces, and it holds neither
the zero-width space nor the byte order mark.
-/

namespace NodePools.Text

/-- The code points of white space. -/
def blankRanges : List (Nat × Nat) := [
  (0x9, 0xd), (0x1c, 0x20), (0x85, 0x85), (0xa0, 0xa0), (0x1680, 0x1680), (0x2000, 0x200a),
  (0x2028, 0x2029), (0x202f, 0x202f), (0x205f, 0x205f), (0x3000, 0x3000)]

/-- Whether a character is white space. -/
def isBlank (c : Char) : Bool := inRanges blankRanges c

/-- Drops the characters of a class from the end of a text. -/
def dropEndWhile (p : Char → Bool) (cs : List Char) : List Char :=
  (cs.reverse.dropWhile p).reverse

/-- Drops the characters of a class from both ends of a text. -/
def trimWhile (p : Char → Bool) (cs : List Char) : List Char :=
  dropEndWhile p (cs.dropWhile p)

/-- A text without the white space at its ends. -/
def strip (s : String) : String := String.ofList (trimWhile isBlank s.toList)

theorem mem_of_mem_dropEndWhile {p : Char → Bool} {cs : List Char} {c : Char}
    (h : c ∈ dropEndWhile p cs) : c ∈ cs := by
  have := List.dropWhile_suffix p (l := cs.reverse)
  exact List.mem_reverse.1 (this.subset (List.mem_reverse.1 h))

end NodePools.Text
