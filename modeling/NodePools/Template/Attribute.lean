import NodePools.Template.Method

/-!
# Attributes of items

Filters that look at an attribute of each item are given its path: names and places
with points between them.  The path is looked up one part after the other, each as a
subscript.
-/

namespace NodePools.Template.Value

/-- One part of a path: digits stand for a place. -/
def pathPart (part : List Char) : Eval Value :=
  if part.isEmpty || !part.all Text.isAnyDigit then pure (.text (String.ofList part))
  else
    match Decimal.readInt? (String.ofList part) with
    | some n => pure (.whole n)
    | none => throw (.fault ⟨.value, "a place in a path is not a whole number"⟩)

/-- The parts of a path.  Nothing has none, and what is no text is one part. -/
def pathParts (v : Value) : Eval (List Value) :=
  match v with
  | .null => pure []
  | v =>
    match v.text? with
    | some s => (Text.splitOnText ['.'] s.length s.toList).mapM pathPart
    | none => pure [v]

/-- The parts of several paths with commas between them. -/
def pathsParts (v : Value) : Eval (List (List Value)) :=
  match v.text? with
  | some s =>
    (Text.splitOnText [','] s.length s.toList).mapM fun p => pathParts (.text (String.ofList p))
  | none => return [← pathParts v]

/-- What a path leads to from a value. -/
def attributeOf (parts : List Value) (v : Value) : Eval Value := parts.foldlM item v

/-- What a path leads to, a default standing for each part that is not there. -/
def attributeOr (default : Option Value) (parts : List Value) (v : Value) : Eval Value :=
  parts.foldlM (fun v part => do
    let w ← v.item part
    return if w.isUndefined then default.getD w else w) v

/-- A text in lower case, if it is compared without regard to case. -/
def ignoringCase (caseSensitive : Bool) (v : Value) : Value :=
  if caseSensitive then v
  else
    match v.text? with
    | some s => .text (Text.lower s)
    | none => v

end NodePools.Template.Value
