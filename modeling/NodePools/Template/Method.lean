import NodePools.Template.Lookup
import NodePools.Template.Print
import NodePools.Text.LetterCase
import NodePools.Text.Lines

/-!
# Calls

What the methods of tables, texts and lists give, and the ranges of whole
numbers.  Arguments are given by place or by name; a call with too many, too
few or unknown ones is a fault.

No meaning is given to the methods that change a table or a list, to the other
methods of texts and lists (`splitlines` with an argument among them), to those
of other values, and to the functions besides `range`.
-/

namespace NodePools.Template

/-- A parameter: its name, and its value if it may be left out. -/
structure Parameter where
  name : String
  default : Option Value

namespace Arguments

/-- Values for parameters: those given by place first, then those given by name,
then defaults. -/
def fill (placed : List Value) (named : List (String × Value)) : List Parameter →
    Eval (List Value)
  | [] =>
    if !placed.isEmpty then typeFault "takes fewer positional arguments than were given"
    else
      match named with
      | [] => pure []
      | (name, _) :: _ => typeFault s!"got an unexpected keyword argument {Text.quoted name}"
  | p :: rest =>
    match placed with
    | v :: placed =>
      if named.any fun n => n.1 == p.name then
        typeFault s!"got multiple values for argument {Text.quoted p.name}"
      else return v :: (← fill placed named rest)
    | [] =>
      match named.find? fun n => n.1 == p.name with
      | some (_, v) => return v :: (← fill [] (named.filter fun n => n.1 != p.name) rest)
      | none =>
        match p.default with
        | some v => return v :: (← fill [] named rest)
        | none => typeFault s!"missing a required argument: {Text.quoted p.name}"

/-- Values for parameters. -/
def bind (args : Arguments) (parameters : List Parameter) : Eval (List Value) :=
  fill args.placed args.named parameters

/-- Values for parameters that can only be given by place. -/
def bindPlaced (args : Arguments) (parameters : List Parameter) : Eval (List Value) :=
  match args.named with
  | [] => fill args.placed [] parameters
  | _ => typeFault "takes no keyword arguments"

end Arguments

namespace Value

/-- A parameter that must be given. -/
def required (name : String) : Parameter := ⟨name, none⟩

/-- A parameter that may be left out. -/
def optional (name : String) (default : Value) : Parameter := ⟨name, some default⟩

/-- The text that an argument must be. -/
def asText (v : Value) : Eval String :=
  match v.text? with
  | some s => pure s
  | none => typeFault s!"must be str, not {v.typeName}"

/-- The whole number that an argument must be. -/
def asWhole (v : Value) : Eval Int :=
  match v.wholeNumber? with
  | some n => pure n
  | none => typeFault s!"'{v.typeName}' object cannot be interpreted as an integer"

/-- How often something is done: as often as there is reason to if the number is
negative. -/
def limitOf (v : Value) : Eval (Option Nat) := do
  let n ← counting (← v.asWhole)
  return if n < 0 then none else some n.toNat

/-- The words of a text between white space, at most `limit` of them cut off. -/
def words : Nat → Option Nat → List Char → List (List Char)
  | 0, _, _ => []
  | fuel + 1, limit, cs =>
    match cs.dropWhile Text.isBlank with
    | [] => []
    | cs =>
      if limit = some 0 then [cs]
      else
        let word := cs.takeWhile fun c => !Text.isBlank c
        word :: words fuel (limit.map (· - 1)) (cs.dropWhile fun c => !Text.isBlank c)

/-- The pieces of a text between separators, or its words if there is none. -/
def split (v : Value) (s : String) (separator limit : Value) : Eval Value := do
  let limit ← limit.limitOf
  let cs := s.toList
  let pieces ←
    match separator with
    | .null => pure (words (cs.length + 1) limit cs)
    | v => do
      let sep ← v.asText
      if sep.isEmpty then throw (.fault ⟨.value, "empty separator"⟩)
      else pure (Text.splitOnText sep.toList (limit.getD cs.length) cs)
  return .list (pieces.map fun p => v.likeText (String.ofList p))

/-- A text as it goes into another one: escaped if that one is, and not escaped
before. -/
def textWithin (v w : Value) (t : String) : String :=
  match v, w with
  | .escaped _, .escaped _ => t
  | .escaped _, _ => escapeText t
  | _, _ => t

/-- An argument that must be a text, as it goes into a text. -/
def asTextWithin (v w : Value) : Eval String := return v.textWithin w (← w.asText)

/-- Values joined with a text between them.  All must be texts, except that escaped
text takes whatever can be printed. -/
def joinTexts (v : Value) (separator : String) (w : Value) : Eval Value := do
  let part (x : Value) : Eval String := do
    match v with
    | .escaped _ => return v.textWithin x (← x.plain)
    | _ => x.asText
  return v.likeText (String.intercalate separator (← (← (← w.feed).toList).mapM part))

/-- A bound of the part of a text that is looked at. -/
def partBound (size : Nat) (default : Int) (v : Value) : Eval Int := do
  match ← v.bound with
  | some n => return if n < 0 then max 0 (n + size) else n
  | none => return default

/-- Whether a part of a text begins or ends with another text.  A part that would
begin behind its end has neither. -/
def hasEnd (atStart : Bool) (cs : List Char) (start stop : Int) (t : String) : Bool :=
  let stop := min stop cs.length
  let part := (cs.take stop.toNat).drop start.toNat
  start + t.length ≤ stop &&
    (if atStart then Text.beginsWith else Text.finishesWith) t.toList part

/-- Whether a part of a text begins or ends with one of those given, which are tried
from the first on. -/
def hasAnyEnd (atStart : Bool) (cs : List Char) (start stop : Int) (v : Value) : Eval Value := do
  let choices :=
    match v with
    | .tuple items => items
    | v => [v]
  let found ← firstOf? (fun w => return hasEnd atStart cs start stop (← w.asText)) choices
  return .bool found.isSome

/-- A text without given characters, or white space, at its ends. -/
def stripped (fromStart fromEnd : Bool) (v : Value) (s : String) (set : Value) : Eval Value := do
  let drop ←
    match set with
    | .null => pure Text.isBlank
    | w => do
      let chars := (← v.asTextWithin w).toList
      pure fun c => chars.contains c
  let cs := s.toList
  let cs := if fromStart then cs.dropWhile drop else cs
  return v.likeText (String.ofList (if fromEnd then Text.dropEndWhile drop cs else cs))

/-- Calls a method of a text. -/
def callText (v : Value) (s : String) (name : String) (args : Arguments) : Eval Value := do
  if name = "split" then
    match ← args.bind [optional "sep" .null, optional "maxsplit" (.whole (-1))] with
    | [sep, limit] => v.split s sep limit
    | _ => return .null
  else if name = "replace" then
    match ← args.bindPlaced [required "old", required "new", optional "count" (.whole (-1))] with
    | [old, new, count] =>
      let old ← v.asTextWithin old
      let new ← v.asTextWithin new
      let limit ← count.limitOf
      return v.likeText (String.ofList (Text.replaceText old.toList new.toList limit s.toList))
    | _ => return .null
  else if name = "join" then
    match ← args.bindPlaced [required "iterable"] with
    | [w] => v.joinTexts s w
    | _ => return .null
  else if name = "startswith" || name = "endswith" then
    match ← args.bindPlaced [required "text", optional "start" .null, optional "end" .null] with
    | [w, start, stop] =>
      let cs := s.toList
      let start ← start.partBound cs.length 0
      let stop ← stop.partBound cs.length cs.length
      hasAnyEnd (name = "startswith") cs start stop w
    | _ => return .null
  else if name = "strip" || name = "lstrip" || name = "rstrip" then
    match ← args.bindPlaced [optional "chars" .null] with
    | [w] => stripped (name ≠ "rstrip") (name ≠ "lstrip") v s w
    | _ => return .null
  else if name = "upper" || name = "lower" || name = "capitalize" then
    let _ ← args.bindPlaced []
    if name = "upper" then return v.likeText (Text.upper s)
    else if name = "lower" then return v.likeText (Text.lower s)
    else return v.likeText (Text.capitalize s)
  else if name = "splitlines" && args.placed.isEmpty && args.named.isEmpty then
    return .list ((Text.splitLines s).map v.likeText)
  else unavailable s!"method {Text.quoted name} of texts"

/-- Calls a method of a table. -/
def callTable (entries : List (Value × Value)) (name : String) (args : Arguments) : Eval Value := do
  if name = "get" then
    match ← args.bindPlaced [required "key", optional "default" .null] with
    | [key, default] =>
      asKey key
      return (← lookup? key entries).getD default
    | _ => return .null
  else if name = "items" || name = "keys" || name = "values" || name = "copy" then
    let _ ← args.bindPlaced []
    if name = "items" then return .view .items entries (← newMark)
    else if name = "keys" then return .view .keys entries (← newMark)
    else if name = "values" then return .view .values entries (← newMark)
    else return .table entries
  else unavailable s!"method {Text.quoted name} of tables"

/-- Calls a method of a list or a tuple. -/
def callList (items : List Value) (name : String) (args : Arguments) : Eval Value := do
  if name = "count" then
    match ← args.bindPlaced [required "value"] with
    | [v] =>
      let equal ← items.filterM fun w => sameItem w v
      return .whole equal.length
    | _ => return .null
  else unavailable s!"method {Text.quoted name} of lists"

/-- A range of whole numbers. -/
def callRange (args : Arguments) : Eval Value := do
  match args.placed, args.named with
  | [stop], [] => return .range 0 1 (← stop.asWhole)
  | [start, stop], [] => return .range (← start.asWhole) 1 (← stop.asWhole)
  | [start, stop, step], [] =>
    let start ← start.asWhole
    let stop ← stop.asWhole
    let step ← step.asWhole
    if step = 0 then throw (.fault ⟨.value, "range() arg 3 must not be zero"⟩)
    else return .range start step stop
  | _, _ => typeFault "range expected from 1 to 3 arguments"

/-- Calls a value. -/
def call (v : Value) (args : Arguments) : Eval Value :=
  match v with
  | .undefined why => throw (.missing why)
  | .method receiver name =>
    match receiver with
    | .table entries => callTable entries name args
    | .list items | .tuple items => callList items name args
    | receiver =>
      match receiver.text? with
      | some s => receiver.callText s name args
      | none => unavailable s!"method {Text.quoted name}"
  | .function name =>
    if name = "range" then callRange args
    else unavailable s!"function {Text.quoted name}"
  | v => typeFault s!"'{v.typeName}' object is not callable"

end Value
end NodePools.Template
