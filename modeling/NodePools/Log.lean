import NodePools.Datum
import NodePools.Text.Search

/-!
# Log records

A record has a level, the cluster that it is about, if it is bound to one, and a
message.  Records reach the sinks that were set up, each from its own level on,
as long as logging is enabled.
-/

namespace NodePools

/-- The levels at which records are made. -/
inductive Level where
  | debug
  | info
  | warning
  | error
deriving Repr, DecidableEq

namespace Level

/-- The name of a level. -/
def name : Level → String
  | .debug => "DEBUG"
  | .info => "INFO"
  | .warning => "WARNING"
  | .error => "ERROR"

/-- How much a record of a level weighs. -/
def severity : Level → Int
  | .debug => 10
  | .info => 20
  | .warning => 30
  | .error => 40

end Level

/-- A log record. -/
structure Record where
  level : Level
  cluster : Option String
  message : String
deriving Repr, DecidableEq

namespace Log

/-- What stands for the cluster of a record that is bound to none. -/
def noCluster : String := "-"

/-- The cluster of a record as it is written. -/
def clusterText (r : Record) : String := r.cluster.getD noCluster

/-- Whether a record may stand before another one when the order in which they were
made is open: by level, cluster and message. -/
def precedes (a b : Record) : Bool :=
  let key (r : Record) := [r.level.name, clusterText r, r.message]
  -- The order of lists is the one of the core library, whatever else is imported.
  @LE.le (List String) List.instLE (key a) (key b)

/-- Records in that order. -/
def sorted (records : List Record) : List Record := records.mergeSort precedes

/-- The name of the logger whose records are kept, with those below it. -/
def loggerName : String := "nodeform"

/-- Whether the records of a logger are kept: of this library's own one, and of
those below it. -/
def keepsLogger (name : String) : Bool :=
  name == loggerName || Text.beginsWith (loggerName ++ ".").toList name.toList

/-- What is added to a kept record: the cluster, if it has none.  Nothing comes
back for a record that is dropped. -/
def keep? {α : Type} (name : String) (blank : α) (extra : Fields α) : Option (Fields α) :=
  if keepsLogger name then some (extra.setDefault "cluster" blank) else none

/-- The names that a least level may be given by. -/
def thresholds : List (String × Int) :=
  [("TRACE", 5), ("DEBUG", 10), ("INFO", 20), ("SUCCESS", 25), ("WARNING", 30), ("ERROR", 40),
    ("CRITICAL", 50)]

/-- The severity of a least level: by name, or as a number that is not negative. -/
def threshold (level : Datum) : Except Fault Int :=
  match level with
  | .text name =>
    match thresholds.find? (·.1 == name) with
    | some (_, n) => .ok n
    | none => .error ⟨.value, s!"Level {Text.quoted name} does not exist"⟩
  | .bool b => .ok (if b then 1 else 0)
  | .whole n =>
    if 0 ≤ n then .ok n
    else .error ⟨.value, s!"Invalid level value, it should be a positive integer, not: {n}"⟩
  | d => .error ⟨.type,
      s!"Invalid level, it should be an integer or a string, not: '{d.typeName}'"⟩

/-- Where records are written to. -/
inductive Sink where
  | console
  | file (name : String)
deriving Repr, DecidableEq

/-- A sink and the least severity it takes. -/
structure Handler where
  sink : Sink
  least : Int
deriving Repr, DecidableEq

/-- How logging is set up. -/
structure Config where
  level : Datum
  file : Option String
  console : Bool

/-- Logging as it stands: whether it is enabled, its handlers, and what has been
written. -/
structure Desk where
  enabled : Bool
  handlers : List Handler
  console : List Record
  files : Fields (List Record)

namespace Desk

/-- Before anything is set up. -/
def closed : Desk := ⟨false, [], [], []⟩

/-- Enables logging and adds the handlers of a configuration: how many there
are, and the desk behind it.  The console takes records from the configured
level on, a file takes all. -/
def setup (config : Config) (d : Desk) : Except Fault Nat × Desk :=
  let d := { d with enabled := true }
  let addFile (count : Nat) (d : Desk) : Except Fault Nat × Desk :=
    match config.file with
    | some name =>
      (.ok (count + 1),
        { d with
          handlers := d.handlers ++ [⟨.file name, Level.debug.severity⟩]
          files := d.files.setDefault name [] })
    | none => (.ok count, d)
  if config.console then
    match threshold config.level with
    | .error f => (.error f, d)
    | .ok least => addFile 1 { d with handlers := d.handlers ++ [⟨.console, least⟩] }
  else addFile 0 d

/-- Removes all handlers and disables logging. -/
def teardown (d : Desk) : Desk := { d with enabled := false, handlers := [] }

/-- Writes a record to a sink. -/
def append (d : Desk) (r : Record) : Sink → Desk
  | .console => { d with console := d.console ++ [r] }
  | .file name => { d with files := d.files.set name (((d.files.get? name).getD []) ++ [r]) }

/-- Takes a record. -/
def write (d : Desk) (r : Record) : Desk :=
  if d.enabled then
    d.handlers.foldl (fun d h => if h.least ≤ r.level.severity then d.append r h.sink else d) d
  else d

/-- Takes records one after the other. -/
def writeAll (d : Desk) (records : List Record) : Desk := records.foldl write d

end Desk
end Log
end NodePools
