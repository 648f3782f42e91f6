import AisFeed.Error
import AisFeed.Text.Split
import AisFeed.Text.Utf8

/-!
# Storage

Files and the directories that lead to them. A path is walked one name at a time from where one
is, or from the root if it starts with a slash; each name but the last has to be that of a
directory. What the last name is may be a file, a directory, a place where a file could be made,
or a fault.
-/

set_option autoImplicit false

namespace AisFeed

open Text

/-- The names on the way to a file or directory, from where one is or, if the first name is a
slash, from the root. Names that lead up are two points and stand in front. -/
abbrev Route := List String

/-- Files by the ways to them. A directory is there if a file lies in it, or by itself. -/
structure Storage where
  files : List (Route × List UInt8)
  /-- Directories that are there even if no file lies in them. -/
  directories : List Route
  /-- Files that are empty and stay so whatever is added to them. -/
  voids : List Route
  deriving DecidableEq, Repr

/-- What a path leads to. -/
inductive Place where
  | file (route : Route) (bytes : List UInt8)
  | directory
  /-- No file, but room for one. -/
  | vacant (route : Route)
  | fault (error : IoError)
  deriving DecidableEq, Repr

namespace Route

/-- Where a path starts. -/
def start (path : String) : Route :=
  if path.toList.head? = some '/' then ["/"] else []

/-- The names along a path: nothing between two slashes is no name. -/
def names (path : String) : List String :=
  ((partsBetween '/' path.toList).filter fun part => !part.isEmpty).map String.ofList

/-- Does a name stand for where one is already, or for what is above it? -/
def isRelative (name : String) : Bool :=
  name = "." || name = ".."

/-- Does a route lead nowhere but up, or to the root? -/
def isAbove (r : Route) : Bool :=
  r.all fun name => name = "/" || name = ".."

/-- The directory above. Above the root is the root itself. -/
def up (r : Route) : Route :=
  if r = ["/"] then r
  else if r.isAbove then r ++ [".."]
  else r.dropLast

/-- Follow a name. -/
def follow (r : Route) (name : String) : Route :=
  if name = "." then r
  else if name = ".." then r.up
  else r ++ [name]

/-- The routes that one passes when one follows names. -/
def along (r : Route) : List String → List Route
  | [] => [r]
  | name :: rest => r :: (r.follow name).along rest

/-- The route that a path describes. -/
def ofPath (path : String) : Route :=
  (names path).foldl follow (start path)

end Route

namespace Storage

/-- Nothing is stored. -/
def empty : Storage := ⟨[], [], []⟩

/-- How many bytes a name has at most. -/
def longestName : Nat := 255

/-- How many bytes a path has at most. -/
def longestPath : Nat := 4095

/-- Does a path ask for a directory, as it ends in a slash? -/
def asksDirectory (path : String) : Bool :=
  path.toList.getLast? = some '/'

/-- The bytes of a file. -/
def file? (s : Storage) (r : Route) : Option (List UInt8) :=
  if s.voids.contains r then some [] else (s.files.find? fun f => f.1 = r).map Prod.snd

/-- Is there a directory? Where one is there is one, and so there is above. -/
def isDirectory (s : Storage) (r : Route) : Bool :=
  r.isAbove ||
    (s.directories ++ (s.files.map Prod.fst ++ s.voids).map List.dropLast).any r.isPrefixOf

/-- What a name leads to from a directory, of which a path may ask that it be a directory. -/
def placeOf (s : Storage) (r : Route) (name : String) (asksDirectory : Bool) : Place :=
  let found := r.follow name
  if Route.isRelative name then .directory
  else if longestName < (Utf8.bytesOf name).length then .fault (.system .nameTooLong)
  else if s.isDirectory found then .directory
  else
    match s.file? found with
    | some bytes => if asksDirectory then .fault (.system .notDirectory) else .file found bytes
    | none => if asksDirectory then .fault (.system .noEntry) else .vacant found

/-- Walk from one directory to another. -/
def walk (s : Storage) (r : Route) : List String → Except IoError Route
  | [] => .ok r
  | name :: rest =>
    match s.placeOf r name true with
    | .fault error => .error error
    | _ => s.walk (r.follow name) rest

/-- Walk to the directory in which the last name of a path is looked up, if it has any name. -/
def approach (s : Storage) (path : String) : Except IoError (Route × Option String) :=
  let names := Route.names path
  if path.toList.contains '\x00' then
    .error (.described .invalidInput "file name contained an unexpected NUL byte")
  else if longestPath < (Utf8.bytesOf path).length then .error (.system .nameTooLong)
  else if path.isEmpty then .error (.system .noEntry)
  else (s.walk (Route.start path) names.dropLast).map fun r => (r, names.getLast?)

/-- What a path leads to. -/
def place (s : Storage) (path : String) : Place :=
  match s.approach path with
  | .error error => .fault error
  | .ok (_, none) => .directory
  | .ok (r, some name) => s.placeOf r name (asksDirectory path)

/-- Does a path lead to something? -/
def leadsSomewhere (s : Storage) (path : String) : Bool :=
  match s.place path with
  | .file .. | .directory => true
  | .vacant _ | .fault _ => false

/-- Open a path to read it; a directory can be opened, but not read. -/
def openToRead (s : Storage) (path : String) : Except IoError (Option (List UInt8)) :=
  match s.place path with
  | .file _ bytes => .ok (some bytes)
  | .directory => .ok none
  | .vacant _ => .error (.system .noEntry)
  | .fault error => .error error

/-- Make an empty file. -/
def make (s : Storage) (r : Route) : Storage :=
  { s with files := s.files ++ [(r, [])] }

/-- Open a path to add to the file there, which is made if there is none. A path that asks for a
directory is refused before its last name is looked up. -/
def openToAppend (s : Storage) (path : String) : Except IoError (Storage × Route) :=
  match s.approach path, s.place path with
  | .error error, _ => .error error
  | .ok _, place =>
    if asksDirectory path then .error (.system .isDirectory)
    else
      match place with
      | .file r _ => .ok (s, r)
      | .directory => .error (.system .isDirectory)
      | .vacant r => .ok (s.make r, r)
      | .fault error => .error error

/-- Add bytes to the end of an open file. -/
def append (s : Storage) (r : Route) (bytes : List UInt8) : Storage :=
  { s with files := s.files.map fun f => if f.1 = r then (f.1, f.2 ++ bytes) else f }

/-- The bytes at a path, none if there is no file. -/
def bytesAt (s : Storage) (path : String) : Option (List UInt8) :=
  match s.place path with
  | .file _ bytes => some bytes
  | _ => none

/-- A store with more files, by their paths. -/
def withFiles (s : Storage) (files : List (String × List UInt8)) : Storage :=
  { s with files := s.files ++ files.map fun f => (Route.ofPath f.1, f.2) }

/-- A store with a file at a path, which is known to be there, and the directories along it. -/
def ofFile (path : String) (bytes : List UInt8) : Storage :=
  ⟨[(Route.ofPath path, bytes)], (Route.start path).along (Route.names path).dropLast, []⟩

end Storage

/-- Why the place cannot be opened as a terminal; in one's own storage none can. -/
def Place.terminalFault : Place → SystemFault
  | .file .. => .notTerminal
  | .directory => .isDirectory
  | .vacant _ => .noEntry
  | .fault (.system cause) => cause
  | .fault _ => .invalidArgument

end AisFeed
