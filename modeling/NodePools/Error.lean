import NodePools.Datum
import NodePools.Path

/-!
# Errors

Every way in which provisioning or reconciling can fail, by cause.  The text of
an error is derived from its cause by `Error.message`.  Errors of a remote
service and faults stand beside the errors of this library, since some
operations hand them on as they are.
-/

namespace NodePools

/-- Why a configuration is refused. -/
inductive ConfigError where
  | missingSetting (field : String)
  | unknownSettings (names : List String)
  | missingClusterField (field : String)
  | unnamedPool
  | duplicatePool (name : String)
  /-- A discount strategy in a document that is none of the known ones; `shown`
  is how the document's value is written. -/
  | unsupportedStrategy (shown : String)
  /-- A pool carries a discount strategy that has no price rule. -/
  | unpricedStrategy (name : String)
  | valueNotScalar (key : String)
  | invalidToml (path : String)
  | unknownInstanceType (name : String)
  | noPrice (region instanceType : String)
  | profileNotFound (profile : String)
  | described (text : String)
deriving Repr, DecidableEq

/-- The discount strategies a document may name. -/
def validStrategies : List String := ["none", "spot_max_price"]

/-- The text of a refused configuration.  That of a document that does not read ends
with the path of the document; what the reader says behind it is left out. -/
def ConfigError.message : ConfigError → String
  | .missingSetting field => s!"provisioner missing '{field}' field"
  | .unknownSettings names =>
    "unknown provisioner settings: " ++ String.intercalate ", " names
  | .missingClusterField field => s!"cluster missing '{field}' field"
  | .unnamedPool => "node pool missing 'name' field"
  | .duplicatePool name => s!"duplicate node pool name '{name}'"
  | .unsupportedStrategy shown =>
    s!"unsupported node pool discount_strategy {shown}. Valid: " ++
      String.intercalate ", " validStrategies
  | .unpricedStrategy name => s!"unsupported node pool discount_strategy {name}"
  | .valueNotScalar key => s!"value '{key}' must be a scalar"
  | .invalidToml path => s!"invalid TOML in {path}"
  | .unknownInstanceType name => s!"unknown instance type {name}"
  | .noPrice region instanceType =>
    s!"no price data for region {region}, instance type {instanceType}"
  | .profileNotFound profile =>
    s!"failed to find configuration for node pool profile '{profile}'"
  | .described text => text

/-- Why a template gave no text. -/
inductive TemplateReason where
  /-- The source does not parse at a line. -/
  | malformed (line : Nat)
  /-- The operating system does not hand out the file. -/
  | unreadable (why : String)
  /-- The rendered user data was refused by the converter. -/
  | unconverted (why : String)
  /-- Rendering met something undefined or not allowed. -/
  | described (text : String)
  /-- The reason of an error from outside, which may be any value. -/
  | told (reason : Datum)

/-- The text of the reason.  That of a source that does not parse ends with the line;
what the parser says behind it is left out. -/
def TemplateReason.message : TemplateReason → String
  | .malformed line => s!"line {line}"
  | .unreadable why => why
  | .unconverted why => "failed to parse config: " ++ why
  | .described text => text
  | .told reason => reason.plain

/-- The reason as a value. -/
def TemplateReason.value : TemplateReason → Datum
  | .told reason => reason
  | reason => .text reason.message

/-- Why nothing was published. -/
inductive PublishFailure where
  | inaccessibleBucket (bucket why : String)
  | bucketNotCreated (bucket why : String)
  | notUploaded (bucket key why : String)
  /-- The store failed in a way of its own. -/
  | storeFailed (key bucket why : String)
  | described (text : String)
deriving Repr, DecidableEq

/-- The text of the reason. -/
def PublishFailure.message : PublishFailure → String
  | .inaccessibleBucket bucket why => s!"bucket {bucket} is not accessible: {why}"
  | .bucketNotCreated bucket why => s!"failed to create bucket {bucket}: {why}"
  | .notUploaded bucket key why => s!"failed to upload s3://{bucket}/{key}: {why}"
  | .storeFailed key bucket why => s!"failed to publish {key} to bucket {bucket}: {why}"
  | .described text => text

/-- Why a pool was not scaled. -/
inductive ScalingFailure where
  /-- The scaler failed in a way of its own. -/
  | notDrained (pool why : String)
  /-- Instances were left when the time was up; `seconds` is that time. -/
  | stillRunning (pool seconds : String)
  | described (text : String)
deriving Repr, DecidableEq

/-- The text of the reason. -/
def ScalingFailure.message : ScalingFailure → String
  | .notDrained pool why => s!"failed to drain node pool {pool}: {why}"
  | .stillRunning pool seconds => s!"node pool {pool} still running after {seconds}s"
  | .described text => text

/-- Why user data was not converted. -/
inductive ConversionFailure where
  | programNotFound (binary : String)
  | timedOut (binary seconds : String)
  | exited (binary : String) (code : Int)
  /-- The converter refused the user data and said why. -/
  | described (text : String)
deriving Repr, DecidableEq

/-- The text of the reason. -/
def ConversionFailure.message : ConversionFailure → String
  | .programNotFound binary => s!"{binary} not found in PATH"
  | .timedOut binary seconds => s!"{binary} timed out after {seconds}s"
  | .exited binary code => s!"{binary} exited with {code}"
  | .described text => text

/-- What a failed stack request was about. -/
inductive StackConcern where
  | stack
  | apply
  | wait
  | delete
deriving Repr, DecidableEq

/-- An error answer of a remote service to an operation.  What the answer does
not say is left out; `retries` is the number of retries after which the client
gave up. -/
structure ClientError where
  operation : String
  code : Option Datum
  message : Option Datum
  retries : Option Datum

/-- The code if it is a text, else the empty text. -/
def ClientError.codeText (e : ClientError) : String :=
  match e.code with
  | some (.text code) => code
  | _ => ""

/-- Whether the code is among given ones.  It must be of a kind that can be looked up. -/
def ClientError.codeIsIn (e : ClientError) (codes : List String) : Except Fault Bool := do
  (e.code.getD (.text "")).asKey
  return codes.contains e.codeText

/-- The whole text of an error answer. -/
def ClientError.text (e : ClientError) : String :=
  let known (d : Option Datum) : String := (d.map Datum.plain).getD "Unknown"
  let retried :=
    match e.retries with
    | some n => s!" (reached max retries: {n.plain})"
    | none => ""
  s!"An error occurred ({known e.code}) when calling the {e.operation} operation{retried}: " ++
    known e.message

/-- What the service said, or the whole text if it said nothing. -/
def ClientError.detail (e : ClientError) : Datum := e.message.getD (.text e.text)

/-- How an operation fails. -/
inductive Error where
  /-- An error of this library without a cause of its own. -/
  | general (text : String)
  | config (cause : ConfigError)
  /-- The template at a path, spelled as given, could not be rendered. -/
  | template (path : String) (reason : TemplateReason)
  | publish (cause : PublishFailure)
  /-- A request about a stack failed.  An error from outside may name the stack by any
  value. -/
  | stack (concern : StackConcern) (name reason : Datum)
  /-- A stack did not converge in time. -/
  | stackTimeout (name timeout : Datum)
  | scaling (cause : ScalingFailure)
  /-- Node pools failed, each with its name and its own error. -/
  | provisioning (failures : List (String × Error))
  | conversion (cause : ConversionFailure)
  | client (answer : ClientError)
  /-- A service was not in the awaited state in the end. -/
  | waiter (reason : String)
  | fault (f : Fault)

namespace Error

/-- Why a stack did not converge in time. -/
def timeoutReason (timeout : Datum) : String :=
  let seconds := (timeout.number?.map fun n => Decimal.wholeText n.toFloat).getD timeout.plain
  s!"timed out after {seconds}s waiting for convergence"

/-- The error of a stack that did not converge in time, or the fault of telling a
time that is too large or no number. -/
def timedOut (name timeout : Datum) : Error :=
  match timeout.number?, timeout with
  | some n, _ => if n.wholeText?.isSome then .stackTimeout name timeout else .fault .wholeTooLarge
  | none, .text _ => .fault ⟨.value, "a text is no number of seconds"⟩
  | none, d => .fault ⟨.type, s!"a time in seconds was expected, not {d.typeName}"⟩

/-- The text of a failed stack request. -/
def stackText (name : Datum) (reason : String) : String := s!"stack {name.plain}: {reason}"

mutual

/-- The text of an error. -/
def message : Error → String
  | .general text => text
  | .config cause => cause.message
  | .template path reason => s!"failed to render {path}: {reason.message}"
  | .publish cause => cause.message
  | .stack _ name reason => stackText name reason.plain
  | .stackTimeout name timeout => stackText name (timeoutReason timeout)
  | .scaling cause => cause.message
  | .provisioning failures => String.intercalate ", " (failureTexts failures)
  | .conversion cause => cause.message
  | .client answer => answer.text
  | .waiter reason => s!"Waiter StackDeleteComplete failed: {reason}"
  | .fault f => f.text

/-- The texts of the failures of node pools. -/
def failureTexts : List (String × Error) → List String
  | [] => []
  | (name, e) :: rest => s!"failed to provision node pool {name}: {e.message}" :: failureTexts rest

end

/-- Whether an error is one of this library. -/
def isOwn : Error → Bool
  | .general _ | .config _ | .template .. | .publish _ | .stack .. | .stackTimeout .. | .scaling _
  | .provisioning _ => true
  | .conversion _ | .client _ | .waiter _ | .fault _ => false

end Error

instance : Coe ConfigError Error := ⟨.config⟩

/-- A fault is an error where errors are expected. -/
instance : MonadLift (Except Fault) (Except Error) := ⟨fun x => x.mapError .fault⟩

end NodePools
