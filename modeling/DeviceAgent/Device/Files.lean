import DeviceAgent.Text.Octets
import DeviceAgent.Text.Word

/-!
# A tree of files

Files and directories under one root, addressed by lists of names, with the ways in which reading, writing and
listing fail. A text with slashes is a way through the tree, which may go up again and has to go through
directories.
-/

namespace DeviceAgent

abbrev FilePath := List String

/-- The files under a root with their octets, and directories that exist without files. The directories above
a file or directory exist too. -/
structure FileTree where
  files : List (FilePath × List UInt8)
  directories : List FilePath
deriving DecidableEq, Repr

inductive FileError where
  | notFound
  | isDirectory
  | notDirectory
  | notText
  | nameTooLong
  /-- No name holds a NUL. -/
  | nulInName
deriving DecidableEq, Repr

def FileError.message : FileError → String
  | .notFound => "No such file or directory (os error 2)"
  | .isDirectory => "Is a directory (os error 21)"
  | .notDirectory => "Not a directory (os error 20)"
  | .notText => "stream did not contain valid UTF-8"
  | .nameTooLong => "File name too long (os error 36)"
  | .nulInName => "file name contained an unexpected NUL byte"

/-- A way through a tree of files, as a text writes it with slashes. -/
structure Route where
  /-- What stands between the slashes, be it nothing. -/
  names : List String
deriving DecidableEq, Repr

namespace Route

def ofText (text : String) : Route := ⟨(text.toList.splitOnP (· == '/')).map String.ofList⟩

/-- Whether a name stays in its directory: an empty one, as behind a last slash, and a single point do. -/
def isIdle (name : String) : Bool := name.isEmpty || name == "."

/-- The names of the directories on the way to the last name that does not stay in its directory. -/
def parents (r : Route) : List String := (r.names.filter (! isIdle ·)).dropLast

def longestName : Nat := 255

def longestRoute : Nat := 4095

/-- Why no tree has such a name, if none has. -/
def nameFault? (name : String) : Option FileError :=
  if name.toList.contains '\x00' then some .nulInName
  else if longestName < (Text.octets name).length then some .nameTooLong
  else none

/-- Why no tree has such a route, if none has. -/
def fault? (r : Route) : Option FileError :=
  if r.names = [""] then some .notFound
  else if longestRoute < (Text.octets (String.intercalate "/" r.names)).length then some .nameTooLong
  else r.names.findSome? nameFault?

end Route

namespace FileTree

/-- The paths with an entry of their own. -/
def entries (t : FileTree) : List FilePath :=
  t.files.map Prod.fst ++ t.directories

def octets? (t : FileTree) (path : FilePath) : Option (List UInt8) :=
  t.files.lookup path

def isDirectory (t : FileTree) (path : FilePath) : Bool :=
  path.isEmpty || t.directories.contains path ||
    t.entries.any fun e => path.isPrefixOf e && path.length < e.length

def isBlocked (t : FileTree) (path : FilePath) : Bool :=
  t.files.any fun (e, _) => e.isPrefixOf path && e.length < path.length

def exist (t : FileTree) (path : FilePath) : Bool :=
  (t.octets? path).isSome || t.isDirectory path

def read (t : FileTree) (path : FilePath) : Except FileError String :=
  match t.octets? path with
  | some bs => match Text.ofOctets? bs with
    | some s => .ok s
    | none => .error .notText
  | none =>
    if t.isDirectory path then .error .isDirectory
    else if t.isBlocked path then .error .notDirectory
    else .error .notFound

def write (t : FileTree) (path : FilePath) (bs : List UInt8) : Except FileError FileTree :=
  if (t.octets? path).isSome then
    .ok { t with files := t.files.map fun (p, old) => (p, if p = path then bs else old) }
  else if t.isDirectory path then .error .isDirectory
  else if t.isBlocked path then .error .notDirectory
  else if t.isDirectory path.dropLast then .ok { t with files := t.files ++ [(path, bs)] }
  else .error .notFound

/-- Where names lead from a place, each but the last being that of a directory; two points lead up. -/
def follow (t : FileTree) (place : FilePath) : List String → Except FileError FilePath
  | [] => .ok place
  | name :: rest =>
    if ! t.isDirectory place then .error (if t.exist place then .notDirectory else .notFound)
    else if Route.isIdle name then t.follow place rest
    else if name = ".." then t.follow place.dropLast rest
    else t.follow (place ++ [name]) rest

/-- Where a route leads; there need not be anything yet. -/
def locate (t : FileTree) (r : Route) : Except FileError FilePath :=
  match r.fault? with
  | some e => .error e
  | none => t.follow [] r.names

/-- Makes the directories with these names, each in the one before, that are not there yet; those made before
one that cannot be made stay. -/
def makeDirectories (t : FileTree) (place : FilePath) : List String → Except FileError Unit × FileTree
  | [] => (.ok (), t)
  | name :: rest =>
    if name = ".." then t.makeDirectories place.dropLast rest
    else
      let next := place ++ [name]
      if t.isDirectory next then t.makeDirectories next rest
      else if t.exist next then (.error .notDirectory, t)
      else match Route.nameFault? name with
        | some e => (.error e, t)
        | none => { t with directories := t.directories ++ [next] }.makeDirectories next rest

/-- Makes the directories on a route that are not there yet. -/
def makeParents (t : FileTree) (r : Route) : Except FileError Unit × FileTree :=
  if r.parents.any (·.toList.contains '\x00') then (.error .nulInName, t)
  else t.makeDirectories [] r.parents

def remove (t : FileTree) (path : FilePath) : Except FileError FileTree :=
  if t.isDirectory path then .error .isDirectory
  else if (t.octets? path).isSome then
    .ok ⟨t.files.filter fun (p, _) => p != path, t.directories ++ [path.dropLast]⟩
  else .error .notFound

/-- The names in a directory that do not start with a point, in increasing order. -/
def list (t : FileTree) (path : FilePath) : List String :=
  let names := t.entries.filterMap fun e =>
    if path.isPrefixOf e then e[path.length]? else none
  (names.filter fun n => n.toList.head? != some '.').mergeSort.eraseDups

end FileTree

end DeviceAgent
