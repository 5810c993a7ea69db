import TriggerScript.Command.Run

/-!
# File trees

A file system as a value: files, directories and links by their places, which are told from the
root, the directory in which a program works, and what the system refuses. A path is followed part
by part, from the root or from the working directory, through the links on its way.
-/

namespace TriggerScript

/-- What a program does at a place: it goes through a directory, or reads or writes a file. -/
inductive Access where
  | search
  | read
  | write
  deriving DecidableEq

/-- A directory is there when it is told, and also when anything is in it or below it. -/
structure FileTree where
  files : List (List String × List UInt8)
  directories : List (List String)
  /-- Places that stand for the path they hold. -/
  links : List (List String × String)
  working : List String
  /-- What an access fails with, for want of permission or for any other cause. -/
  refuses : Access → List String → Option IoFailure

namespace FileTree

def maxPart : Nat := 255

def maxPath : Nat := 4095

def maxLinks : Nat := 40

def parts (path : String) : List String := (path.toList.splitOn '/').map String.ofList

/-- Files in the working directory and below it. Nothing is refused. -/
def ofList (working : List String) (files : List (String × List UInt8)) : FileTree where
  files := files.map fun (path, content) => (working ++ parts path, content)
  directories := []
  links := []
  working := working
  refuses _ _ := none

def file? (t : FileTree) (place : List String) : Option (List UInt8) := t.files.lookup place

def isDirectory (t : FileTree) (place : List String) : Bool :=
  (t.working :: t.directories).any place.isPrefixOf ||
    (t.files.map (·.1) ++ t.links.map (·.1)).any fun p =>
      place.isPrefixOf p && place.length < p.length

/-! ## Paths -/

/-- Where a path starts that is met in a directory. -/
def start (directory : List String) (path : String) : List String :=
  if path.startsWith "/" then [] else directory

/-- Follows the parts of a path. The last part need not be there; all before it have to be
directories. Nothing is above the root. What a link stands for is followed by `jump`. -/
def followParts (t : FileTree)
    (jump : List String → List String → Except IoFailure (List String)) (place : List String) :
    List String → Except IoFailure (List String)
  | [] => .ok place
  | part :: rest =>
    if !t.isDirectory place then
      .error (if (t.file? place).isSome then .notDirectory else .notFound)
    else
      match t.refuses .search place with
      | some failure => .error failure
      | none =>
        if part = "" || part = "." then t.followParts jump place rest
        else if part = ".." then t.followParts jump place.dropLast rest
        else if maxPart < part.utf8ByteSize then .error .nameTooLong
        else
          match t.links.lookup (place ++ [part]) with
          | some path => jump (start place path) (parts path ++ rest)
          | none => t.followParts jump (place ++ [part]) rest

/-- Follows the parts of a path through so many links at most. -/
def follow (t : FileTree) : Nat → List String → List String → Except IoFailure (List String)
  | 0 => t.followParts fun _ _ => .error .tooManyLinks
  | links + 1 => t.followParts (t.follow links)

/-- Where the parts of a path lead. An empty path leads nowhere. -/
def locate (t : FileTree) (path : String) (parts : List String) :
    Except IoFailure (List String) :=
  if maxPath < path.utf8ByteSize then .error .nameTooLong
  else if path.isEmpty then .error .notFound
  else t.follow maxLinks (start t.working path) parts

def place (t : FileTree) (path : String) : Except IoFailure (List String) :=
  t.locate path (parts path)

/-! ## Reading and writing -/

def holds (t : FileTree) (place : List String) : Bool :=
  (t.file? place).isSome || t.isDirectory place

def present (t : FileTree) (path : String) : Bool :=
  match t.place path with
  | .ok place => t.holds place
  | .error _ => false

def read (t : FileTree) (path : String) : Except IoFailure (List UInt8) := do
  let place ← t.place path
  if !t.holds place then .error .notFound
  else
    match t.refuses .read place with
    | some failure => .error failure
    | none =>
      match t.file? place with
      | some content => .ok content
      | none => .error .isDirectory

/-- Puts a content in a place, which may hold a file already. -/
def put (t : FileTree) (place : List String) (content : List UInt8) : FileTree :=
  { t with
    files :=
      if (t.file? place).isSome then
        t.files.map fun (p, old) => (p, if p = place then content else old)
      else t.files ++ [(place, content)] }

def withoutSlashes (path : String) : String :=
  String.ofList (path.toList.reverse.dropWhile (· = '/')).reverse

/-- A file can be written in any directory that is there. A slash at the end of a path asks for a
directory, which cannot be written. -/
def write (t : FileTree) (path : String) (content : List UInt8) : Except IoFailure FileTree := do
  let place ← t.locate path (parts (withoutSlashes path))
  if t.isDirectory place || path.endsWith "/" then .error .isDirectory
  else
    match t.refuses .write place with
    | some failure => .error failure
    | none => .ok (t.put place content)

end FileTree

/-- The variables of an environment, and the home of the account that runs the program. -/
structure Environment where
  configPath : Option String
  home : Option String
  accountHome : Option String
  terminal : Bool

namespace Environment

/-- An empty home counts as none. -/
def homePath (e : Environment) : Option String :=
  match e.home with
  | some home => if home.isEmpty then e.accountHome else some home
  | none => e.accountHome

def surroundings (e : Environment) (t : FileTree) : Surroundings where
  configPath := e.configPath
  home := e.homePath
  terminal := e.terminal
  present := t.present
  read := t.read

end Environment

/-! ## Runs -/

/-- Carries out a plan on a file tree. A write that fails changes nothing. -/
def Plan.perform (t : FileTree) : Plan → Reply × FileTree
  | .finish reply => (reply, t)
  | .write path content success failure =>
    match t.write path content with
    | .ok t => (success, t)
    | .error e => (failure e, t)

def Invocation.run (i : Invocation) (e : Environment) (t : FileTree) : Reply × FileTree :=
  (i.plan (e.surroundings t)).perform t

def runOn (e : Environment) (args : List String) (t : FileTree) : Reply × FileTree :=
  (planOf args (e.surroundings t)).perform t

end TriggerScript
