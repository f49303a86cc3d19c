import NodePools.Service

/-!
# A world that answers as told

Collaborators for a rehearsal: an object store and stacks in memory, prices, a
converter and a scaler, each of which fails where it is told to.  What was asked
is kept.  Stacks that are applied go live at the end of a step, all at once.
-/

namespace NodePools.Rehearsal

/-- Where collaborators fail and how: by stack, by pool, or in listing. -/
structure Failures where
  apply : Fields Error
  wait : Fields Error
  delete : Fields Error
  scale : Fields Error
  list : Option Error

/-- Nothing fails. -/
def Failures.none : Failures := ⟨[], [], [], [], .none⟩

/-- An object store: how it fails by bucket, and what is in it.  `puts` is how
often something was stored. -/
structure Store where
  bucketErrors : Fields Error
  putErrors : Fields Error
  buckets : List String
  objects : Fields Bytes
  puts : Nat

namespace Store

/-- The empty store. -/
def empty (bucketErrors putErrors : Fields Error) : Store := ⟨bucketErrors, putErrors, [], [], 0⟩

/-- The name of an object in the whole store. -/
def place (bucket key : String) : String := bucket ++ "/" ++ key

/-- Makes a bucket unless it is there. -/
def ensureBucket (s : Store) (bucket : String) : Except Error Unit × Store :=
  match s.bucketErrors.get? bucket with
  | some e => (.error e, s)
  | none =>
    (.ok (), if s.buckets.contains bucket then s else { s with buckets := s.buckets ++ [bucket] })

/-- Stores bytes. -/
def put (s : Store) (bucket key : String) (content : Bytes) : Except Error Unit × Store :=
  match s.putErrors.get? bucket with
  | some e => (.error e, s)
  | none =>
    (.ok (), { s with objects := s.objects.set (place bucket key) content, puts := s.puts + 1 })

/-- The buckets in order. -/
def bucketNames (s : Store) : List String := s.buckets.mergeSort fun a b => a ≤ b

/-- The objects in order, each with the number of its bytes. -/
def sizes (s : Store) : List (String × Nat) :=
  (s.objects.map fun (place, content) => (place, content.length)).mergeSort fun a b => a.1 ≤ b.1

end Store

/-- A converter that fails, gives fixed bytes, or puts the user data into a
document. -/
structure Conversion where
  failure : Option Error
  payload : Option Bytes

/-- The document around user data. -/
def wrapped (rendered : String) : Bytes :=
  Text.Utf8.encode ("\x7b\"ignition\":" ++ rendered ++ "\x7d")

/-- What a conversion gives. -/
def Conversion.convert (c : Conversion) (rendered : String) : Except Error Bytes :=
  match c.failure with
  | some e => .error e
  | none => .ok (c.payload.getD (wrapped rendered))

/-- A document that was applied, with its tags. -/
structure Applied where
  template : String
  tags : Tags
deriving Repr, DecidableEq

/-- Something that is done to what is there. -/
inductive Event where
  | drain (pool : NodePool) (replicas : Int)
  | delete (stack : String)
deriving Repr, DecidableEq

/-- One wait for a stack. -/
structure Waited where
  name : String
  timeout : Number
  interval : Number

/-- Whether a wait may stand before another one: by the stack and then by the two
times. -/
def Waited.precedes (a b : Waited) : Bool :=
  if a.name ≠ b.name then a.name ≤ b.name
  else if a.timeout.same b.timeout then a.interval ≤ b.interval
  else a.timeout ≤ b.timeout

/-- The world. -/
structure World where
  prices : PriceTable
  conversion : Conversion
  failures : Failures
  store : Store
  live : List Stack
  applied : Fields Applied
  waited : List Waited
  events : List Event
  logs : List Record

namespace World

/-- A world in which nothing has happened. -/
def fresh (prices : PriceTable) (conversion : Conversion) (failures : Failures) (store : Store)
    (live : List Stack) : World :=
  ⟨prices, conversion, failures, store, live, [], [], [], []⟩

/-- The status of a stack that has settled well. -/
def settledStatus : String := "CREATE_COMPLETE"

/-- Fails as told for a name, if so told. -/
def outcome (failures : Fields Error) (name : String) : Except Error Unit :=
  match failures.get? name with
  | some e => .error e
  | none => .ok ()

/-- Answers a request to a cloud service. -/
def answerCloud : (op : CloudOp) → World → op.Answer × World
  | .ensureBucket bucket, w =>
    let (r, store) := w.store.ensureBucket bucket
    (r, { w with store })
  | .put bucket key content, w =>
    let (r, store) := w.store.put bucket key content
    (r, { w with store })
  | .apply name template tags, w =>
    match outcome w.failures.apply name with
    | .error e => (.error e, w)
    | .ok () => (.ok (), { w with applied := w.applied.set name ⟨template, tags⟩ })
  | .wait name timeout interval, w =>
    ((outcome w.failures.wait name).map fun _ => settledStatus,
      { w with waited := w.waited ++ [⟨name, timeout, interval⟩] })
  | .list tags, w =>
    match w.failures.list with
    | some e => (.error e, w)
    | none => (.ok (w.live.filter fun s => Tags.holdAll s.tags tags), w)
  | .delete name, w =>
    let w := { w with events := w.events ++ [.delete name] }
    match outcome w.failures.delete name with
    | .error e => (.error e, w)
    | .ok () => (.ok (), { w with live := w.live.filter fun s => s.name ≠ name })

/-- Answers a request at the site. -/
def answerSite : (op : SiteOp) → World → op.Answer × World
  | .instanceInfo instanceType, w => (.ok (w.prices.find? instanceType), w)
  | .convert rendered, w => (w.conversion.convert rendered, w)
  | .scale pool replicas, w =>
    (outcome w.failures.scale pool.name,
      { w with events := w.events ++ [.drain pool replicas] })
  | .log record, w => ((), { w with logs := w.logs ++ [record] })

/-- Answers a request. -/
def answer : (op : Service.Op) → World → Service.Answer op × World
  | .inl op, w => answerCloud op w
  | .inr op, w => answerSite op w

/-- Puts a stack in the place of the one of its name, or at the end. -/
def goLive (live : List Stack) (s : Stack) : List Stack :=
  if live.any (·.name == s.name) then live.map fun l => if l.name = s.name then s else l
  else live ++ [s]

/-- What was applied, in the order of the names. -/
def appliedInOrder (w : World) : Fields Applied := w.applied.mergeSort fun a b => a.1 ≤ b.1

/-- The waits in order. -/
def waitsInOrder (w : World) : List Waited := w.waited.mergeSort Waited.precedes

/-- What was applied goes live, in the order of the names. -/
def settle (w : World) : World :=
  let applied := w.appliedInOrder.map fun (name, a) => (⟨name, a.tags, settledStatus⟩ : Stack)
  { w with live := applied.foldl goLive w.live }

/-- Forgets what was asked before. -/
def rewound (w : World) : World := { w with applied := [], waited := [], events := [], logs := [] }

/-- Runs an action as one step: what was asked before is forgotten, and what was
applied goes live in the end. -/
def step {α : Type} (w : World) (action : Action Service α) : Option (Except Error α) × World :=
  let (r, w) := action.outcome.run answer w.rewound
  (r, w.settle)

end World
end NodePools.Rehearsal
