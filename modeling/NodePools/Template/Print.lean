import NodePools.Template.Stream

/-!
# The text of a value

A template prints a value as its text; inside another value it stands as it would
be written in a template, texts between quotes.  Whole numbers of more digits than
are ever read are not written either.

What has no text but its address in memory, such as a method or a stream, is printed
without the address: `<built-in method items of dict object>` for what is printed as
`<built-in method items of dict object at 0x7f...>`.
-/

namespace NodePools.Template

/-- Between curly brackets. -/
def inCurly (parts : List String) : String := "\x7b" ++ String.intercalate ", " parts ++ "\x7d"

/-- Between square brackets. -/
def inSquare (parts : List String) : String := "[" ++ String.intercalate ", " parts ++ "]"

/-- A list between round brackets; a comma follows a lone item. -/
def inRound : List String → String
  | [item] => "(" ++ item ++ ",)"
  | items => "(" ++ String.intercalate ", " items ++ ")"

/-- The digits of a whole number. -/
def wholeText (n : Int) : Eval String :=
  if Decimal.canWrite n then pure (toString n) else throw (.fault .tooManyDigits)

namespace Value

/-- The methods of a type, which are printed as such and not as those of a value. -/
def typeMethods : List String := ["fromkeys", "from_bytes", "fromhex", "maketrans"]

/-- A method of a value. -/
def shownMethod (receiver : Value) (name : String) : Eval String :=
  match receiver with
  | .pool _ => pure s!"<bound method NodePool.{name} of <class 'nodeform.models.NodePool'>>"
  | .cluster _ => pure s!"<bound method Cluster.{name} of <class 'nodeform.models.Cluster'>>"
  | .escaped _ => unavailable "text of a method of escaped text"
  | receiver =>
    let owner := if typeMethods.contains name then "type" else receiver.typeName
    pure s!"<built-in method {name} of {owner} object>"

/-- The name of the constant that stands for a known strategy. -/
def strategyConstant : DiscountStrategy → String
  | .none => "NONE"
  | .spotMaxPrice => "SPOT_MAX_PRICE"
  | .named name => name

/-- A strategy with its type, or the name that was given for one. -/
def shownStrategy : DiscountStrategy → String
  | .named name => Text.quoted name
  | s => s!"<DiscountStrategy.{strategyConstant s}: {Text.quoted s.name}>"

/-- A pool with its fields. -/
def shownPool (p : NodePool) : String :=
  s!"NodePool(name={Text.quoted p.name}, profile={Text.quoted p.profile}, " ++
    s!"instance_type={Text.quoted p.instanceType}, " ++
    s!"discount_strategy={shownStrategy p.discountStrategy}, min_size={p.minSize}, " ++
    s!"max_size={p.maxSize})"

/-- A cluster with its fields. -/
def shownCluster (c : Cluster) : String :=
  s!"Cluster(id={Text.quoted c.id}, region={Text.quoted c.region}, " ++
    s!"node_pools={inRound (c.pools.map shownPool)})"

/-- A global function, which mostly is a type. -/
def shownFunction (name : String) : String :=
  if name = "cycler" then "<class 'jinja2.utils.Cycler'>"
  else if name = "joiner" then "<class 'jinja2.utils.Joiner'>"
  else if name = "namespace" then "<class 'jinja2.utils.Namespace'>"
  else if name = "lipsum" then "<function generate_lorem_ipsum>"
  else s!"<class '{name}'>"

mutual

/-- A value as it stands inside another one. -/
def shown : Value → Eval String
  | .undefined _ => pure "Undefined"
  | .null => pure "None"
  | .bool b => pure (if b then "True" else "False")
  | .whole n => wholeText n
  | .real x => pure (Decimal.text x)
  | .nan _ => pure "nan"
  | .text s => pure (Text.quoted s)
  | .escaped s => pure ("Markup(" ++ Text.quoted s ++ ")")
  | .moment m => pure m.label
  | .bytes b => pure (Datum.quotedBytes b)
  | .tuple items => return inRound (← shownAll items)
  | .list items => return inSquare (← shownAll items)
  | .table entries => return inCurly (← shownEntries entries)
  | .view .keys entries _ => return "dict_keys(" ++ inSquare (← shownKeys entries) ++ ")"
  | .view .values entries _ => return "dict_values(" ++ inSquare (← shownValues entries) ++ ")"
  | .view .items entries _ => return "dict_items(" ++ inSquare (← shownItems entries) ++ ")"
  | .range start step stop => do
    let bounds := (← wholeText start) ++ ", " ++ (← wholeText stop)
    if step = 1 then return s!"range({bounds})" else return s!"range({bounds}, {← wholeText step})"
  | .group frozen items => do
    let parts ← shownAll items
    if frozen then
      return if parts.isEmpty then "frozenset()" else "frozenset(" ++ inCurly parts ++ ")"
    else return if parts.isEmpty then "set()" else inCurly parts
  | .slice start stop step => do
    return "slice(" ++ (← shown start) ++ ", " ++ (← shown stop) ++ ", " ++ (← shown step) ++ ")"
  | .strategy s => pure (shownStrategy s)
  | .pool p => pure (shownPool p)
  | .cluster c => pure (shownCluster c)
  | .loop place => do
    match ← loopAt place with
    | some l => return s!"<LoopContext {l.reached}/{← loopSize place}>"
    | none => return "<LoopContext>"
  | .stream name _ => pure s!"<{name} object>"
  | .method receiver name => shownMethod receiver name
  | .function name => pure (shownFunction name)
  | .itself => pure "<TemplateReference None>"

/-- Several values as they stand inside another one. -/
def shownAll : List Value → Eval (List String)
  | [] => pure []
  | v :: rest => return (← shown v) :: (← shownAll rest)

/-- The entries of a table. -/
def shownEntries : List (Value × Value) → Eval (List String)
  | [] => pure []
  | (k, v) :: rest => do
    let key ← shown k
    let value ← shown v
    return (key ++ ": " ++ value) :: (← shownEntries rest)

/-- The keys of a table. -/
def shownKeys : List (Value × Value) → Eval (List String)
  | [] => pure []
  | (k, _) :: rest => return (← shown k) :: (← shownKeys rest)

/-- The values of a table. -/
def shownValues : List (Value × Value) → Eval (List String)
  | [] => pure []
  | (_, v) :: rest => return (← shown v) :: (← shownValues rest)

/-- The entries of a table as pairs. -/
def shownItems : List (Value × Value) → Eval (List String)
  | [] => pure []
  | (k, v) :: rest => do
    let key ← shown k
    let value ← shown v
    return inRound [key, value] :: (← shownItems rest)

end

/-- A value as the text that a template prints for it. -/
def plain : Value → Eval String
  | .undefined why => if why.strict then throw (.missing why) else pure ""
  | .text s | .escaped s => pure s
  | .strategy s => pure s.name
  | .moment m => pure m.text
  | v => v.shown

end Value

/-- What the use of an undefined value fails with. -/
def Absence.message (why : Absence Value) : Eval String :=
  match why.subscript with
  | none => pure why.text
  | some v => return why.text ++ " has no element " ++ (← v.shown)

end NodePools.Template
