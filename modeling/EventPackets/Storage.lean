import EventPackets.Bytes
import EventPackets.Stream.Source
import EventPackets.Text.Basic

/-!
# Storage

Files in folders, as far as a program sees them that reads and creates files by path.

All folders lie in the root folder, which is its own parent, and one of them is the working
folder.  A path is walked name by name, from the root folder if it starts with a slash and from
the working folder otherwise, and every name has to be looked up in a folder that is there.

## Main definitions

* `Storage` : the files and folders that there are.
* `Storage.resolve` : where a path leads.
* `Storage.openFile` : the content of a file as a source.
* `Storage.create` : the storage with an empty file at a path.
-/

namespace EventPackets

/-- A place, as the names that lead to it from the root folder. -/
abbrev Place := List String

/-- The files and folders that there are. -/
structure Storage where
  /-- the working folder -/
  home : Place
  files : List (Place × Bytes)
  folders : List Place

namespace Storage

/-- The folders on the way to a place, the root folder and the place itself included. -/
def foldersTo (p : Place) : List Place :=
  (List.range (p.length + 1)).map fun n => p.take n

/-- A working folder with files in it. -/
def ofFiles (home : Place) (files : List (String × Bytes)) : Storage :=
  ⟨home, files.map fun f => (home ++ [f.1], f.2), foldersTo home⟩

/-- The most bytes that a path can have. -/
def pathLimit : Nat := 4095

/-- The most bytes that a name can have. -/
def nameLimit : Nat := 255

/-- Whether there is a folder at a place. -/
def hasFolder (s : Storage) (p : Place) : Bool :=
  s.folders.contains p

/-- The content of the file at a place. -/
def file? (s : Storage) (p : Place) : Option Bytes :=
  s.files.lookup p

/-- The place of the folder around a place. -/
def parent (p : Place) : Place := p.dropLast

/-- Makes sure that there is a folder at a place. -/
def checkFolder (s : Storage) (p : Place) : Except IoError Unit :=
  if s.hasFolder p then .ok ()
  else if (s.file? p).isSome then .error .notFolder
  else .error .notFound

/-- Where a name leads from a place. -/
def step (here : Place) (name : String) : Place :=
  if name = "." then here
  else if name = ".." then parent here
  else here ++ [name]

/-- Where names lead from a place.  Whether there is anything at the last place does not matter. -/
def walk (s : Storage) (here : Place) : List String → Except IoError Place
  | [] => .ok here
  | name :: names =>
    match s.checkFolder here with
    | .error e => .error e
    | .ok () =>
      if nameLimit < name.utf8ByteSize then .error .nameTooLong
      else s.walk (step here name) names

/-- The names on a path. -/
def pathNames (path : String) : List String :=
  ((Text.splitAt '/' path.toList).map String.ofList).filter fun name => name != ""

/-- Where a path starts. -/
def start (s : Storage) (path : String) : Place :=
  if path.toList.head? == some '/' then [] else s.home

/-- Where some of the names on a path lead. -/
def follow (s : Storage) (path : String) (names : List String) : Except IoError Place :=
  if pathLimit < path.utf8ByteSize then .error .nameTooLong else s.walk (s.start path) names

/-- Where a path leads, whether or not something is there. -/
def resolve (s : Storage) (path : String) : Except IoError Place :=
  s.follow path (pathNames path)

/-- Whether a path asks for a folder by its last character. -/
def asksFolder (path : String) : Bool :=
  path.toList.getLast? == some '/'

/-- The content of the file that a path leads to.  A folder can be opened too, but the first read
from it fails. -/
def openFile (s : Storage) (path : String) : Except IoError Source :=
  match s.resolve path with
  | .error e => .error e
  | .ok p =>
    if s.hasFolder p then
      .ok { Source.ofBytes #[] with faults := [⟨0, .failed .isFolder⟩] }
    else
      match s.file? p with
      | none => .error .notFound
      | some b => if asksFolder path then .error .notFolder else .ok (.ofBytes b)

/-- Puts content at the place of a file, which may or may not exist. -/
def put (s : Storage) (p : Place) (b : Bytes) : Storage :=
  if (s.file? p).isSome then
    { s with files := s.files.map fun f => if f.1 = p then (p, b) else f }
  else { s with files := s.files ++ [(p, b)] }

/-- Why no file can be created where a path asks for a folder: there may be none to look for it
in, and otherwise it would not be a file. -/
def folderRefusal (s : Storage) (path : String) : IoError :=
  match s.follow path (pathNames path).dropLast with
  | .error e => e
  | .ok p =>
    match s.checkFolder p with
    | .error e => e
    | .ok () => .isFolder

/-- Creates an empty file where a path leads, or empties the file that is there: the place of the
file, and the storage afterwards. -/
def create (s : Storage) (path : String) : Except IoError (Place × Storage) :=
  if asksFolder path then .error (s.folderRefusal path)
  else
    match s.resolve path with
    | .error e => .error e
    | .ok p => if s.hasFolder p then .error .isFolder else .ok (p, s.put p #[])

/-- The files that are not the same in an earlier storage. -/
def changes (s earlier : Storage) : List (Place × Bytes) :=
  s.files.filter fun f => earlier.file? f.1 != some f.2

/-- The name of what stands directly in the working folder. -/
def localName? (s : Storage) (p : Place) : Option String :=
  if parent p = s.home then p.getLast? else none

/-- The files directly in the working folder that are not the same in an earlier storage. -/
def localChanges (s earlier : Storage) : List (String × Bytes) :=
  (s.changes earlier).filterMap fun f => (s.localName? f.1).map fun name => (name, f.2)

end Storage

end EventPackets
