import NodePools.Fault
import NodePools.Text.Search

/-!
# Paths

A path is a root, if it has one, and the names on the way.  Repeated slashes,
slashes at the end and single dots vanish; two dots stay, since what is above a
linked directory is not what is written before it.  Exactly two slashes in
front are a root of their own.
-/

namespace NodePools

/-- Where a path starts. -/
inductive Root where
  | relative
  | slash
  | doubleSlash
deriving Repr, DecidableEq

/-- A path in normal form. -/
structure Path where
  root : Root
  names : List String
deriving Repr, DecidableEq

namespace Path

/-- The pieces of a text between slashes. -/
def pieces (cs : List Char) : List (List Char) := Text.splitOnText ['/'] cs.length cs

/-- The names in a text: the pieces that say something. -/
def namesOf (cs : List Char) : List String :=
  ((pieces cs).filter fun p => !p.isEmpty && p != ['.']).map String.ofList

/-- Reads a path. -/
def ofString (s : String) : Path :=
  let cs := s.toList
  let slashes := (cs.takeWhile (· == '/')).length
  let root := if slashes = 0 then .relative else if slashes = 2 then .doubleSlash else .slash
  ⟨root, namesOf cs⟩

/-- What stands for the root in a written path. -/
def Root.text : Root → String
  | .relative => ""
  | .slash => "/"
  | .doubleSlash => "//"

/-- A path as text; the empty path is a dot. -/
def text (p : Path) : String :=
  match p.root, p.names with
  | .relative, [] => "."
  | root, names => Root.text root ++ String.intercalate "/" names

/-- The path of the second as seen from the first: a path with a root stays as
it is. -/
def join (p q : Path) : Path :=
  match q.root with
  | .relative => ⟨p.root, p.names ++ q.names⟩
  | _ => q

/-- The path of a name as seen from a directory. -/
def child (p : Path) (name : String) : Path := p.join (ofString name)

/-- The home directories that are known: the user's own and those of named users. -/
structure Homes where
  own : String
  named : List (String × String)

/-- Replaces a home sign at the start of a path without root. -/
def expandHome (homes : Homes) (p : Path) : Except Fault Path :=
  match p.root, p.names with
  | .relative, first :: rest =>
    match first.toList with
    | '~' :: user =>
      if user.contains (Char.ofNat 0) then .error ⟨.value, "embedded null byte"⟩
      else
        let home? :=
          if user.isEmpty then some homes.own
          else (homes.named.find? (·.1 == String.ofList user)).map (·.2)
        match home? with
        | some home =>
          let start := ofString home
          .ok ⟨start.root, start.names ++ rest⟩
        | none => .error ⟨.runtime, "Could not determine home directory."⟩
    | _ => .ok p
  | _, _ => .ok p

end Path
end NodePools
