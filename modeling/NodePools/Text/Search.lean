/-!
# Finding, cutting and replacing

Searches for one text inside another, from left to right and without overlap.
-/

namespace NodePools.Text

/-- The rest of a text after a given beginning. -/
def afterStart? : List Char → List Char → Option (List Char)
  | [], cs => some cs
  | _ :: _, [] => none
  | p :: ps, c :: cs => if p = c then afterStart? ps cs else none

/-- Whether a text begins with another. -/
def beginsWith (start cs : List Char) : Bool := (afterStart? start cs).isSome

theorem afterStart?_eq_some_iff {start cs rest : List Char} :
    afterStart? start cs = some rest ↔ cs = start ++ rest := by
  induction start generalizing cs with
  | nil => simp [afterStart?, eq_comm]
  | cons p ps ih =>
    cases cs with
    | nil => simp [afterStart?]
    | cons c cs =>
      by_cases same : p = c
      · simp [afterStart?, same, ih]
      · simp [afterStart?, same, Ne.symm same]

theorem beginsWith_iff {start cs : List Char} : beginsWith start cs = true ↔ start <+: cs := by
  simp only [beginsWith, Option.isSome_iff_exists, afterStart?_eq_some_iff]
  exact exists_congr fun _ => eq_comm

/-- Whether a text ends with another. -/
def finishesWith (ending cs : List Char) : Bool := beginsWith ending.reverse cs.reverse

theorem finishesWith_iff {ending cs : List Char} :
    finishesWith ending cs = true ↔ ending <:+ cs := by
  rw [finishesWith, beginsWith_iff, List.reverse_prefix]

/-- The parts of a text before and after the first occurrence of another. -/
def splitFirst? (needle : List Char) : List Char → Option (List Char × List Char)
  | [] => if needle.isEmpty then some ([], []) else none
  | c :: cs =>
    match afterStart? needle (c :: cs) with
    | some rest => some ([], rest)
    | none => (splitFirst? needle cs).map fun (before, rest) => (c :: before, rest)

/-- Whether a text occurs in another. -/
def occursIn (needle cs : List Char) : Bool := (splitFirst? needle cs).isSome

theorem occursIn_iff {needle cs : List Char} : occursIn needle cs = true ↔ needle <:+: cs := by
  induction cs with
  | nil => cases needle <;> simp [occursIn, splitFirst?]
  | cons c cs ih =>
    rw [List.infix_cons_iff, ← ih, occursIn, splitFirst?]
    cases found : afterStart? needle (c :: cs) with
    | none =>
      have no : ¬needle <+: c :: cs := by
        rw [← beginsWith_iff, beginsWith, found]
        simp
      simp [no, occursIn]
    | some rest =>
      have yes : needle <+: c :: cs := ⟨rest, (afterStart?_eq_some_iff.mp found).symm⟩
      simp [yes]

/-- The pieces of a text between the occurrences of a separator, at most `limit`
of which are used. -/
def splitOnText (separator : List Char) (limit : Nat) (cs : List Char) : List (List Char) :=
  match limit with
  | 0 => [cs]
  | limit + 1 =>
    match splitFirst? separator cs with
    | none => [cs]
    | some (before, rest) => before :: splitOnText separator limit rest

/-- Puts a text in front of every character and at the end, at most `limit`
times. -/
def interleaveText (filler : List Char) : Nat → List Char → List Char
  | 0, cs => cs
  | _ + 1, [] => filler
  | limit + 1, c :: cs => filler ++ c :: interleaveText filler limit cs

/-- Replaces the first `limit` occurrences of a text, or all of them.  The
empty text occurs before every character and at the end. -/
def replaceText (old new : List Char) (limit : Option Nat) (cs : List Char) : List Char :=
  let limit := limit.getD (cs.length + 1)
  if old.isEmpty then interleaveText new limit cs
  else List.intercalate new (splitOnText old limit cs)

end NodePools.Text
