import NodePools.Path
import NodePools.Text.Quoted
import NodePools.Text.Utf8

/-!
# Files

A tree of folders and files below a working folder.  A path is followed name by
name: what it goes through must be folders, a name longer than the file system
allows is refused where it is looked up, and a path that is too long as a whole
is refused at once.  Outside of the working folder there is nothing to be found
but the folders that lead to it.
-/

namespace NodePools

/-- Why the operating system does not hand out a file. -/
inductive FileRefusal where
  | notFound
  | isFolder
  | notFolder
  | nameTooLong
deriving Repr, DecidableEq

/-- The operating system's text for it. -/
def FileRefusal.text : FileRefusal → String
  | .notFound => "No such file or directory"
  | .isFolder => "Is a directory"
  | .notFolder => "Not a directory"
  | .nameTooLong => "File name too long"

/-- Folders and files by the names on the way to them, the last one written
first. -/
structure FileTree where
  files : List (List String × Bytes)
  folders : List (List String)
deriving Repr, DecidableEq

namespace FileTree

/-- The empty working folder. -/
def empty : FileTree := ⟨[], []⟩

/-- Adds a file, and the folders on the way to it. -/
def addFile (t : FileTree) (path : Path) (content : Bytes) : FileTree :=
  { t with files := (path.names, content) :: t.files }

/-- Adds a folder, and the folders on the way to it. -/
def addFolder (t : FileTree) (path : Path) : FileTree :=
  { t with folders := path.names :: t.folders }

/-- The file at a place. -/
def file? (t : FileTree) (names : List String) : Option Bytes :=
  (t.files.find? (·.1 == names)).map (·.2)

/-- Whether a place leads to another one. -/
def leadsTo (names longer : List String) : Bool :=
  names.isPrefixOf longer && names.length < longer.length

/-- Whether there is a folder at a place. -/
def isFolderAt (t : FileTree) (names : List String) : Bool :=
  names.isEmpty || t.folders.any names.isPrefixOf || t.files.any fun f => leadsTo names f.1

/-- A place on the way: within the working folder, some folders above it, or at
the root. -/
inductive Place where
  | within (names : List String)
  | above (levels : Nat)
  | root
deriving Repr, DecidableEq

/-- What is found at the end of a way. -/
inductive Found where
  | folder
  | file (content : Bytes)
deriving Repr, DecidableEq

/-- The most bytes a name may have. -/
def maxName : Nat := 255

/-- The least bytes with which a whole path is too long. -/
def maxPath : Nat := 4096

/-- Whether there is a folder at a place of the way. -/
def isFolder (t : FileTree) : Place → Bool
  | .within names => t.isFolderAt names
  | .above _ | .root => true

/-- The place that a name leads to from a folder. -/
def step (p : Place) (name : String) : Except FileRefusal Place :=
  if name = ".." then
    .ok (match p with
      | .within [] => .above 1
      | .within names => .within names.dropLast
      | .above n => .above (n + 1)
      | .root => .root)
  else if maxName < (Text.Utf8.encode name).length then .error .nameTooLong
  else
    match p with
    | .within names => .ok (.within (names ++ [name]))
    | .above _ | .root => .error .notFound

/-- Follows names from a place. -/
def follow (t : FileTree) (p : Place) : List String → Except FileRefusal Found
  | [] =>
    match p with
    | .within names =>
      match t.file? names with
      | some content => .ok (.file content)
      | none => if t.isFolderAt names then .ok .folder else .error .notFound
    | .above _ | .root => .ok .folder
  | name :: rest =>
    if t.isFolder p then
      match step p name with
      | .ok p => follow t p rest
      | .error e => .error e
    else
      match p with
      | .within names => .error (if (t.file? names).isSome then .notFolder else .notFound)
      | .above _ | .root => .error .notFound

/-- What is found at a path. -/
def find (t : FileTree) (path : Path) : Except FileRefusal Found :=
  if maxPath ≤ (Text.Utf8.encode path.text).length then .error .nameTooLong
  else
    match path.root with
    | .relative => t.follow (.within []) path.names
    | .slash | .doubleSlash => t.follow .root path.names

/-- Whether no operating system takes a path. -/
def unaskable (path : Path) : Bool := path.names.any fun n => n.toList.contains (Char.ofNat 0)

/-- The content of a file, or the reason why there is none; a path that cannot
even be asked for is a fault. -/
def read (t : FileTree) (path : Path) : Except Fault (Except FileRefusal Bytes) :=
  if unaskable path then .error ⟨.value, "embedded null byte"⟩
  else
    .ok (match t.find path with
      | .ok (.file content) => .ok content
      | .ok .folder => .error .isFolder
      | .error e => .error e)

/-- The number by which the operating system tells that a name is too long. -/
def nameTooLongCode : Int := 36

/-- What is found at a path, if anything.  A name that is too long is a fault;
anything else that stands in the way means that nothing is there. -/
def probe (t : FileTree) (path : Path) : Except Fault (Option Found) :=
  if unaskable path then .ok none
  else
    match t.find path with
    | .ok found => .ok (some found)
    | .error .nameTooLong =>
      .error ⟨.system (some nameTooLongCode),
        s!"[Errno {nameTooLongCode}] {FileRefusal.nameTooLong.text}: {Text.quoted path.text}"⟩
    | .error _ => .ok none

end FileTree
end NodePools
