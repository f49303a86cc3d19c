import NodePools.Bootstrap
import NodePools.FileTree
import NodePools.Publisher
import NodePools.Template.Render
import NodePools.Text.Lines

/-!
# Rendering profiles

A profile is a folder with two templates.  That of the user data is rendered
first; the result is converted and published.  Then that of the stack is
rendered, which sees how a machine gets at what was published.
-/

namespace NodePools

/-- Values that templates see, by name. -/
abbrev Values := Fields Datum

/-- Texts as values. -/
def Values.ofTexts (texts : Fields String) : Values := texts.mapValues .text

/-- Renders the template at a path in a context. -/
def renderTemplate (files : FileTree) (path : Path) (context : Fields Template.Value) :
    Except Error String :=
  match files.read path with
  | .error f => .error (.fault f)
  | .ok (.error refusal) => .error (.template path.text (.unreadable refusal.text))
  | .ok (.ok content) =>
    match Text.Utf8.decode content with
    | .error u => .error (.fault ⟨.decoding, u.text⟩)
    | .ok source =>
      match Template.render (String.ofList (Text.unifyLineEnds source.toList)) context with
      | .ok text => .ok text
      | .error (.refused reason) => .error (.template path.text reason)
      | .error (.fault f) => .error (.fault f)

/-- Where profiles are found and where user data goes. -/
structure Profiles where
  files : FileTree
  folder : Path
  bucket : String
  /-- How addresses in the object store begin. -/
  scheme : String
  /-- The version of the configuration format that the converter writes. -/
  version : String

/-- The user data of one attempt. -/
structure UserData where
  rendered : String
  payload : Bytes
  uri : String
  encoded : String
deriving Repr, DecidableEq

namespace Profiles

/-- The template of the user data. -/
def userDataFile : String := "userdata.clc.yaml"

/-- The template of the stack. -/
def stackFile : String := "stack.yaml"

/-- The folder of a pool's profile. -/
def profileFolder (t : Profiles) (pool : NodePool) : Except Error Path :=
  let missing : Except Error Path := .error (.config (.profileNotFound pool.profile))
  if pool.profile.isEmpty then missing
  else
    let path := t.folder.child pool.profile
    match t.files.probe path with
    | .error f => .error (.fault f)
    | .ok (some .folder) => .ok path
    | .ok _ => missing

/-- What the template of the user data sees. -/
def userDataContext (c : Cluster) (pool : NodePool) (values : Values) : Fields Template.Value :=
  [("Cluster", .cluster c), ("NodePool", .pool pool), ("Values", .ofDatum (.table values))]

/-- What the template of the stack sees. -/
def stackContext (c : Cluster) (pool : NodePool) (values : Values) (userData : String) :
    Fields Template.Value :=
  userDataContext c pool values ++ [("UserData", .text userData)]

/-- Renders, converts and publishes the user data of a pool. -/
def prepareUserData (t : Profiles) (c : Cluster) (pool : NodePool) (values : Values) :
    Action Service UserData := do
  let folder ← t.profileFolder pool
  let path := folder.child userDataFile
  let rendered ← renderTemplate t.files path (userDataContext c pool values)
  let payload ← Action.mapError (fun e => .template path.text (.unconverted e.message))
    (Service.convert rendered)
  let uri ← Publisher.publish t.scheme t.bucket payload
  return ⟨rendered, payload, uri, Bootstrap.encodeUserData uri t.version⟩

/-- The stack document of a pool. -/
def renderStack (t : Profiles) (c : Cluster) (pool : NodePool) (values : Values) :
    Action Service String := do
  let userData ← t.prepareUserData c pool values
  Service.log .debug none s!"User data for {pool.name} published to {userData.uri}"
  let folder ← t.profileFolder pool
  renderTemplate t.files (folder.child stackFile) (stackContext c pool values userData.encoded)

end Profiles
end NodePools
