import ChipEight.Failure

/-!
# Storage

Where programs are read from. A `Reader` answers a path with the bytes of a file or with the reason
why there are none; a machine only ever sees a reader, and a `Source` that is a path or a program which is
there already. `Storage` is a tree of files and directories, and `Storage.read` follows a path through it
component by component, as file systems do: every component but the last has to be a directory, a dot
stays where it is and two dots go up. `Storage.ofList` makes the tree by following paths in the same way,
and makes the directories that are on the way.
-/

namespace ChipEight

/-- Reads the file at a path. -/
abbrev Reader := String → Except ReadError (Array UInt8)

/-- Where a program comes from. -/
inductive Source
  /-- The bytes of the program are there already. -/
  | bytes (program : Array UInt8)
  | file (path : String)

/-- The program from a source. -/
def Source.program (read : Reader) : Source → Except ReadError (Array UInt8)
  | bytes program => .ok program
  | file path => read path

/-- What a path can lead to. -/
inductive Entry
  | file (content : Array UInt8)
  | directory

/-! ## Places -/

/-- Where a walk along a path has got to: the names on the way from where it began, the last one
first. Two dots stand for a place above the beginning, a slash for the root of all places. -/
abbrev Place := List String

namespace Place

/-- The root of all places. -/
def root : Place := ["/"]

/-- Whether a place lies outside the tree: it is the root, or the beginning or a place above it. A
walk can get there although no tree lists these places. -/
def isOutside (p : Place) : Bool := p == root || p.all (· == "..")

/-- The place above a place. The root has none above it. -/
def above (p : Place) : Place :=
  if p = root then p else if p.all (· == "..") then ".." :: p else p.tail

/-- Whether a component of a path names something, rather than a place that is known anyway. -/
def isName (component : String) : Bool := component != "" && component != "." && component != ".."

/-- One component further along a path. -/
def next (p : Place) (component : String) : Place :=
  if isName component then component :: p
  else if component = ".." then p.above
  else p

/-- Where a path begins. -/
def start (path : String) : Place := if path.toList.head? = some '/' then root else []

/-- The places that some components lead to, one after another. -/
def walk (p : Place) : List String → List Place
  | [] => []
  | component :: rest => p.next component :: walk (p.next component) rest

end Place

/-- The components of a path, empty ones included. -/
def pathComponents (path : String) : List String :=
  (path.toList.splitOn '/').map String.ofList

/-! ## Trees -/

/-- A tree of files and directories, as a list of the places where something is. What comes first in
the list counts. -/
structure Storage where
  entries : List (Place × Entry)

namespace Storage

/-- Puts an entry at the end of a path, and directories on the way. -/
def put (s : Storage) (path : String) (entry : Entry) : Storage :=
  let places := (Place.start path).walk (pathComponents path)
  let made := places.dropLast.map fun place => (place, Entry.directory)
  ⟨(places.getLast?.toList.map fun place => (place, entry)) ++ made ++ s.entries⟩

/-- The tree with the given paths; of several entries at one place the last one stays. -/
def ofList (paths : List (String × Entry)) : Storage :=
  paths.foldl (fun s (path, entry) => s.put path entry) ⟨[]⟩

/-- What is at a place. Outside the tree there are only directories. -/
def entry? (s : Storage) (place : Place) : Option Entry :=
  if place.isOutside then some .directory
  else (s.entries.find? (·.1 == place)).map (·.2)

/-- One component further along a path, which has to lead from a directory to something. -/
def step (s : Storage) (place : Place) (component : String) : Except Refusal Place :=
  match s.entry? place with
  | none => .error Refusal.notFound
  | some (.file _) => .error Refusal.notDirectory
  | some .directory =>
    if 255 < component.utf8ByteSize then .error Refusal.nameTooLong
    else
      match s.entry? (place.next component) with
      | none => .error Refusal.notFound
      | some _ => .ok (place.next component)

/-- The file at a path, or the reason why it cannot be read. -/
def lookup (s : Storage) (path : String) : Except Refusal (Array UInt8) := do
  if path = "" then throw Refusal.notFound
  if 4096 ≤ path.utf8ByteSize then throw Refusal.nameTooLong
  let place ← (pathComponents path).foldlM s.step (Place.start path)
  match s.entry? place with
  | some (.file content) => return content
  | some .directory => throw Refusal.isDirectory
  | none => throw Refusal.notFound

/-- Reads the file at a path of the tree. -/
def read (s : Storage) : Reader := fun path =>
  if '\x00' ∈ path.toList then .error .nullInPath
  else (s.lookup path).mapError (.refused · path)

end Storage

end ChipEight
