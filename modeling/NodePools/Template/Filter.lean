import NodePools.Template.Attribute
import NodePools.Template.Sort
import NodePools.Template.Test

/-!
# Filters

A filter makes one value of another.  Those that walk through a value fail on
one that cannot be walked through, and those that work on text take the printed
form of any value.

There are more filters than a meaning is given to here (`leftOutFilters`).
-/

namespace NodePools.Template

/-- A filter: what it takes besides the value, and its result. -/
structure FilterRule where
  parameters : List Parameter
  result : Value → List Value → Eval Value

namespace Value

/-- The value given for a parameter. -/
def argument (args : List Value) (i : Nat) : Value := (args[i]?).getD .null

/-- A value that is a text, or else the text that is printed for it. -/
def asPrinted (v : Value) : Eval Value := do
  if v.text?.isSome then return v else return .text (← v.plain)

/-- A filter that changes the text of a value, which stays escaped if it was. -/
def textFilter (change : String → String) : FilterRule :=
  ⟨[], fun v _ => return v.likeText (change (← v.plain))⟩

/-- A switch that an argument must be: a whole number, of which only zero is off. -/
def asSwitch (v : Value) : Eval Bool := do
  let n ← v.asWhole
  if -(Int.pow 2 31) ≤ n && n < Int.pow 2 31 then return n != 0
  else throw (.fault ⟨.overflow, "signed integer is out of range"⟩)

/-- What `default` gives. -/
def orDefault (v : Value) (args : List Value) : Eval Value := do
  if v.isUndefined then return argument args 0
  else if ← (argument args 1).truthy then
    if ← v.truthy then return v else return argument args 0
  else return v

/-- What `trim` gives. -/
def trimmed (v : Value) (args : List Value) : Eval Value := do
  let w ← v.asPrinted
  stripped true true w (← w.plain) (argument args 0)

/-- What `replace` gives. -/
def replaced (v : Value) (args : List Value) : Eval Value := do
  let s ← v.plain
  let old ← (argument args 0).plain
  let new ← (argument args 1).plain
  let limit ←
    match argument args 2 with
    | .null => pure none
    | n => n.limitOf
  return .text (String.ofList (Text.replaceText old.toList new.toList limit s.toList))

/-- What `join` gives.  With an attribute, the walk through the value begins before
the separator is printed. -/
def joined (v : Value) (args : List Value) : Eval Value := do
  let texts (separator : String) (parts : List Value) (f : Feed) : Eval Value := do
    let texts ← f.forEach fun w => do (← attributeOf parts w).plain
    return .text (String.intercalate separator texts)
  match argument args 1 with
  | .null =>
    let separator ← (argument args 0).plain
    texts separator [] (← v.feed)
  | path =>
    let parts ← path.pathParts
    let f ← v.feed
    texts (← (argument args 0).plain) parts f

/-- The whole number that a double stands for, the default if there is none. -/
def truncated (default : Value) (x : Float) : Value :=
  match Decimal.Binary64.ofFloat x with
  | .finite negative mantissa exponent =>
    .whole (Decimal.Binary64.truncate negative mantissa exponent)
  | _ => default

/-- The whole number that a text stands for in a base. -/
def wholeIn? (base : Value) (s : String) : Option Int :=
  base.wholeNumber?.bind fun b => if b < 0 then none else Decimal.readIntIn? b.toNat s

/-- What `int` gives: a text is read as a whole number in a base or else as a
decimal. -/
def toWhole (v : Value) (args : List Value) : Eval Value := do
  let default := argument args 0
  match v with
  | .undefined why => throw (.missing why)
  | .real x =>
    match Decimal.Binary64.ofFloat x with
    | .infinite _ => throw (.fault ⟨.overflow, "cannot convert float infinity to integer"⟩)
    | _ => return truncated default x
  | v =>
    match v.wholeNumber? with
    | some n => return .whole n
    | none =>
      match v.text? with
      | some s =>
        match wholeIn? (argument args 1) s with
        | some n => return .whole n
        | none =>
          match Decimal.readFloat? s with
          | some x => return truncated default x
          | none => return default
      | none => return default

/-- What `first` gives. -/
def firstOf (v : Value) : Eval Value := do
  match ← (← v.feed).next with
  | some (item, _) => return item
  | none => missing "No first item, sequence was empty."

/-- Whether a whole number has at most sixty-four bits. -/
def isLong (n : Int) : Bool := canCount n

/-- The name of a walk through a range from the back. -/
def rangeWalkName (start step stop : Int) : String :=
  if isLong start && isLong step && isLong stop then "range_iterator" else "longrange_iterator"

/-- A walk from the back, with its name, if a value has one. -/
def feedFromBack? (v : Value) : Eval (Option (String × Feed)) := do
  match v with
  | .undefined why => if why.strict then throw (.missing why) else return some ("reversed", .items [])
  | .list items => return some ("list_reverseiterator", .items items.reverse)
  | .tuple items => return some ("reversed", .items items.reverse)
  | .table entries =>
    return some ("dict_reversekeyiterator", .items (viewItems .keys entries).reverse)
  | .view kind entries _ =>
    let name :=
      match kind with
      | .keys => "dict_reversekeyiterator"
      | .values => "dict_reversevalueiterator"
      | .items => "dict_reverseitemiterator"
    return some (name, .items (viewItems kind entries).reverse)
  | .range start step stop =>
    let n := rangeSize start step stop
    return some (rangeWalkName start step stop, .range (start + ((n : Int) - 1) * step) (-step) n)
  | .bytes _ => return some ("reversed", .items (← v.items).reverse)
  | v =>
    return v.text?.map fun s =>
      ("reversed", .items (s.toList.reverse.map fun c => v.likeText (String.singleton c)))

/-- What `last` gives. -/
def lastOf (v : Value) : Eval Value := do
  match ← v.feedFromBack? with
  | none => typeFault s!"'{v.typeName}' object is not reversible"
  | some (_, f) =>
    match ← f.next with
    | some (item, _) => return item
    | none => missing "No last item, sequence was empty."

/-- What `reverse` gives. -/
def reversed (v : Value) : Eval Value := do
  match v.text? with
  | some s => return v.likeText (String.ofList s.toList.reverse)
  | none =>
    match ← v.feedFromBack? with
    | some (name, f) => newStream name (.plain f) (← f.most)
    | none =>
      let items ← unlessTypeFault (return .list (← v.items).reverse)
      match items with
      | some items => return items
      | none => throw (.refused "argument must be iterable")

/-- What `sort` gives. -/
def sorted (v : Value) (args : List Value) : Eval Value := do
  let caseSensitive ← (argument args 1).truthy
  let paths ← (argument args 2).pathsParts
  let items ← v.items
  let descending ← (argument args 0).asSwitch
  let key (v : Value) : Eval Value := do
    return .list (← paths.mapM fun p => return ignoringCase caseSensitive (← attributeOf p v))
  return .list (← sortBy descending key items)

/-- What `dictsort` gives. -/
def sortedEntries (v : Value) (args : List Value) : Eval Value := do
  let selector := argument args 1
  let byValue ←
    if ← same selector (.text "key") then pure false
    else if ← same selector (.text "value") then pure true
    else throw (.refused "You can only sort by either \"key\" or \"value\"")
  match v with
  | .undefined why => throw (.missing why)
  | .table entries =>
    let descending ← (argument args 2).asSwitch
    let key (v : Value) : Eval Value := do
      let part :=
        match v with
        | .tuple [k, x] => if byValue then x else k
        | v => v
      return ignoringCase (← (argument args 0).truthy) part
    return .list (← sortBy descending key (viewItems .items entries))
  | v => throw (.fault (.noMember v.typeName "items"))

/-- What `indent` gives. -/
def indented (v : Value) (args : List Value) : Eval Value := do
  let width := argument args 0
  let margin ← if width.text?.isSome then pure width else binary .mul (.text " ") width
  let margin ←
    match v with
    | .escaped _ => pure (.escaped (← margin.plain))
    | _ => pure margin
  let s ←
    match v with
    | .undefined why => throw (.missing why)
    | .list _ => pure none
    | v =>
      match v.text? with
      | some s => pure (some s)
      | none => typeFault s!"unsupported operand type(s) for +=: '{v.typeName}' and 'str'"
  let blank ← (argument args 2).truthy
  match s with
  | none => throw (.fault (.noMember v.typeName "splitlines"))
  | some s =>
    let lineEnd := v.likeText "\n"
    let lines := (Text.splitLines (s ++ "\n")).map v.likeText
    let body ←
      if blank then
        let separator ← binary .add lineEnd margin
        separator.joinTexts (← separator.plain) (.list lines)
      else
        match lines with
        | [] => pure (v.likeText "")
        | [line] => pure line
        | line :: rest => do
          let rest ← rest.mapM fun line => do
            if ← line.truthy then binary .add margin line else return line
          binary .add line (← binary .add lineEnd (← lineEnd.joinTexts "\n" (.list rest)))
    if ← (argument args 1).truthy then binary .add margin body else return body

/-- What `sum` gives. -/
def summed (v : Value) (args : List Value) : Eval Value := do
  let parts ← (argument args 0).pathParts
  let f ← v.feed
  let start := argument args 1
  if start.text?.isSome then typeFault "texts cannot be summed"
  else f.fold (fun total w => do binary .add total (← attributeOf parts w)) start

/-- The least or greatest item by its key. -/
def extreme (c : Comparison) (v : Value) (args : List Value) : Eval Value := do
  match ← (← v.feed).next with
  | none => missing "No aggregated item, sequence was empty."
  | some (first, f) =>
    let caseSensitive ← (argument args 0).truthy
    let parts ← (argument args 1).pathParts
    let key (v : Value) : Eval Value := return ignoringCase caseSensitive (← attributeOf parts v)
    let best ← f.fold (fun (best : Keyed) w => do
      let k ← key w
      if ← ordered c k best.1 then return (k, w) else return best) (← key first, first)
    return best.2

/-- The filters with a meaning, but those that take another filter or test. -/
def filters : List (String × FilterRule) :=
  let orElse : FilterRule :=
    ⟨[optional "default_value" (.text ""), optional "boolean" (.bool false)], orDefault⟩
  let count : FilterRule := ⟨[], fun v _ => return .whole (← v.size)⟩
  let escape : FilterRule := ⟨[], fun v _ => do
    match v with
    | .escaped s => return .escaped s
    | v => return .escaped (escapeText (← v.plain))⟩
  [("default", orElse), ("d", orElse),
    ("upper", textFilter Text.upper),
    ("lower", textFilter Text.lower),
    ("capitalize", textFilter Text.capitalize),
    ("trim", ⟨[optional "chars" .null], trimmed⟩),
    ("replace", ⟨[required "old", required "new", optional "count" .null], replaced⟩),
    ("length", count), ("count", count),
    ("join", ⟨[optional "d" (.text ""), optional "attribute" .null], joined⟩),
    ("int", ⟨[optional "default" (.whole 0), optional "base" (.whole 10)], toWhole⟩),
    ("string", ⟨[], fun v _ => v.asPrinted⟩),
    ("first", ⟨[], fun v _ => firstOf v⟩),
    ("last", ⟨[], fun v _ => lastOf v⟩),
    ("sort", ⟨[optional "reverse" (.bool false), optional "case_sensitive" (.bool false),
      optional "attribute" .null], sorted⟩),
    ("reverse", ⟨[], fun v _ => reversed v⟩),
    ("list", ⟨[], fun v _ => return .list (← v.items)⟩),
    ("indent", ⟨[optional "width" (.whole 4), optional "first" (.bool false),
      optional "blank" (.bool false)], indented⟩),
    ("dictsort", ⟨[optional "case_sensitive" (.bool false), optional "by" (.text "key"),
      optional "reverse" (.bool false)], sortedEntries⟩),
    ("sum", ⟨[optional "attribute" .null, optional "start" (.whole 0)], summed⟩),
    ("min", ⟨[optional "case_sensitive" (.bool false), optional "attribute" .null], extreme .lt⟩),
    ("max", ⟨[optional "case_sensitive" (.bool false), optional "attribute" .null], extreme .gt⟩),
    ("e", escape), ("escape", escape)]

/-- The filters that give a stream, with the change that it makes. -/
def changes : List (String × (Arguments → Change)) :=
  [("map", .map), ("select", .select true false), ("reject", .select false false),
    ("selectattr", .select true true), ("rejectattr", .select false true)]

/-- The filter of a name, if there is one. -/
def filter? (name : String) : Option (Value → Arguments → Eval Value) :=
  match filters.find? (·.1 == name) with
  | some (_, rule) => some fun v args => do rule.result v (← args.bind rule.parameters)
  | none =>
    (changes.find? (·.1 == name)).map fun (_, change) v args => do
      if args.named.any fun (n, _) => n == "value" || n == "context" then
        typeFault "got multiple values for an argument"
      else newStream "generator" (.waiting (change args) v) (← v.most)

/-- The filters to which no meaning is given here. -/
def leftOutFilters : List String :=
  ["abs", "attr", "batch", "center", "filesizeformat", "float", "forceescape", "format", "groupby",
    "items", "pprint", "random", "round", "safe", "slice", "striptags", "title", "tojson",
    "truncate", "unique", "urlencode", "urlize", "wordcount", "wordwrap", "xmlattr"]

/-- Whether there is a filter of a name, with a meaning here or not. -/
def knowsFilter (name : String) : Bool := (filter? name).isSome || leftOutFilters.contains name

/-- Whether a filter needs more than its value and its arguments. -/
def isContextFilter (name : String) : Bool := changes.any (·.1 == name)

/-- Whether there is a test of a name with a meaning. -/
def isTest (name : String) : Bool := tests.any (·.1 == name)

/-- Whether there is a test of a name, with a meaning here or not. -/
def knowsTest (name : String) : Bool := isTest name || leftOutTests.contains name

/-- A name given as an argument.  What is no text names nothing. -/
def nameArgument (kind : String) (v : Value) : Eval String := do
  asKey v
  match v with
  | .undefined why =>
    throw (.refused (s!"No {kind} named {← v.shown}. ({← why.message}; " ++
      "did you forget to quote the callable name?)"))
  | v =>
    match v.text? with
    | some s => return s
    | none => throw (.refused s!"No {kind} named {← v.shown}.")

end Value

/-- What `map` does to an item: it takes an attribute or applies a filter. -/
def Change.mapping (args : Arguments) : Eval (Value → Eval Value) := do
  match args.placed with
  | [] =>
    match args.named.find? (·.1 == "attribute") with
    | none => throw (.refused "map requires a filter argument")
    | some (_, a) =>
      let others := args.named.filter fun n => n.1 != "attribute" && n.1 != "default"
      match others with
      | (name, _) :: _ => throw (.refused s!"Unexpected keyword argument {Text.quoted name}")
      | [] =>
        let default : Option Value :=
          match args.named.find? (·.1 == "default") with
          | none | some (_, .null) => none
          | some (_, v) => some v
        let parts ← a.pathParts
        return Value.attributeOr default parts
  | f :: placed =>
    return fun v => do
      let name ← f.nameArgument "filter"
      match Value.filter? name with
      | some apply => apply v ⟨placed, args.named⟩
      | none =>
        if Value.leftOutFilters.contains name then unavailable s!"filter {Text.quoted name}"
        else throw (.refused s!"No filter named {Text.quoted name}.")

/-- Whether an item passes the test that the arguments name, or counts as true if they
name none. -/
def Change.testing (args : Arguments) : Value → Eval Bool :=
  match args.placed with
  | [] => Value.truthy
  | t :: others => fun v => do
    Value.ask (fun s => s!"No test named {Text.quoted s}.") (← t.nameArgument "test") v
      ⟨others, args.named⟩

/-- What a change makes of an item, nothing if it leaves it out. -/
def Change.action : Change → Eval (Value → Eval (Option Value))
  | .map args => do
    let f ← mapping args
    return fun v => some <$> f v
  | .select keep false args => do
    return fun v => do
      if (← testing args v) == keep then return some v else return none
  | .select keep true args => do
    match args.placed with
    | [] => throw (.refused "Missing parameter for attribute name")
    | a :: placed =>
      let parts ← a.pathParts
      return fun v => do
        if (← testing ⟨placed, args.named⟩ (← Value.attributeOf parts v)) == keep then
          return some v
        else return none

/-- The next item that a change gives, after at most so many. -/
def Change.next (change : Change) (place : Nat) : Nat → Feed → Eval (Option Value)
  | 0, _ => do
    setCell place .ended
    return none
  | n + 1, f => do
    match ← f.next with
    | none =>
      setCell place .ended
      return none
    | some (v, f) =>
      setCell place (.changing change f)
      match ← (← change.action) v with
      | some w => return some w
      | none => change.next place n f

/-- The first item that a change gives.  Nothing is done for a value that does not
count as true. -/
def Change.start (change : Change) (place : Nat) (source : Value) : Eval (Option Value) := do
  if ← source.truthy then
    let _ ← change.action
    let f ← source.feed
    change.next place ((← f.most) + 1) f
  else
    setCell place .ended
    return none

end NodePools.Template
