import NativeStubs.Files.System

/-! # File trees

A file tree lists its files and directories under their places, the rows of names that lead to
them from the root. Paths are resolved name by name: every name but the last must lead to a
directory, a name has at most 255 bytes and a path fewer than 4096. The working directory is the
root.
-/

namespace NativeStubs

/-- A file with its bytes, or a directory. -/
inductive Entry
  | file (bytes : ByteArray)
  | directory

/-- Files are the same if their bytes are. -/
instance : DecidableEq Entry
  | .file a, .file b =>
    decidable_of_iff (a.data = b.data) ⟨fun h => congrArg Entry.file (ByteArray.ext h),
      fun h => congrArg ByteArray.data (Entry.file.inj h)⟩
  | .directory, .directory => isTrue rfl
  | .file _, .directory | .directory, .file _ => isFalse Entry.noConfusion

def Entry.kind : Entry → FileKind
  | file _ => .file
  | directory => .directory

/-- The names that lead to an entry from the root. -/
abbrev Place := List String

structure FileTree where
  entries : List (Place × Entry) := []
  deriving DecidableEq

namespace FileTree

/-- The entry at a place. The root is always there. -/
def get? (t : FileTree) (place : Place) : Option Entry :=
  if place = [] then some .directory else t.entries.lookup place

/-- Sets an entry of a list, in place if it is present. -/
def setEntry (place : Place) (entry : Entry) : List (Place × Entry) → List (Place × Entry)
  | [] => [(place, entry)]
  | (p, e) :: rest =>
    if p = place then (place, entry) :: rest else (p, e) :: setEntry place entry rest

/-- The tree with an entry at a place. -/
def set (t : FileTree) (place : Place) (entry : Entry) : FileTree :=
  ⟨setEntry place entry t.entries⟩

def step (t : FileTree) (place : Place) (name : String) : Except FileFault Place :=
  if t.get? place ≠ some .directory then .error .notDirectory
  else if name = "." then .ok place
  else if name = ".." then .ok place.dropLast
  else if 255 < name.utf8ByteSize then .error .nameTooLong
  else if (t.get? (place ++ [name])).isNone then .error .notFound
  else .ok (place ++ [name])

def walk (t : FileTree) (names : List String) : Except FileFault Place :=
  names.foldlM t.step []

/-- What is wrong with a path whatever it leads to. -/
def pathFault? (path : String) : Option FileFault :=
  if path.toList.contains '\x00' then some .nulInName
  else if path.isEmpty then some .notFound
  else if 4096 ≤ path.utf8ByteSize then some .nameTooLong
  else none

/-- The place and the entry that a path leads to. -/
def find (t : FileTree) (path : String) : Except FileFault (Place × Entry) :=
  match pathFault? path with
  | some fault => .error fault
  | none => do
    let place ← t.walk (Path.names path)
    match t.get? place with
    | none => .error .notFound
    | some (.file bytes) =>
      if Path.endsInSlash path then .error .notDirectory else .ok (place, .file bytes)
    | some .directory => .ok (place, .directory)

/-- Where a new entry would go: a directory and the last name of the path. No name is left for the
root and for a path that ends in `.` or `..`. -/
def locate (t : FileTree) (path : String) : Except FileFault (Place × Option String) :=
  match pathFault? path with
  | some fault => .error fault
  | none => do
    let names := Path.names path
    let parent ← t.walk names.dropLast
    if t.get? parent ≠ some .directory then .error .notDirectory
    else match names.getLast? with
      | none => .ok (parent, none)
      | some name =>
        if name = "." ∨ name = ".." then .ok (parent, none) else .ok (parent, some name)

def read (t : FileTree) (path : String) : Except FileFault ByteArray :=
  match t.find path with
  | .error fault => .error fault
  | .ok (_, .directory) => .error .isDirectory
  | .ok (_, .file bytes) => .ok bytes

def openFile (t : FileTree) (path : String) : Except FileFault (Place × Option ByteArray) :=
  match t.locate path with
  | .error fault => .error fault
  | .ok (_, none) => .error .isDirectory
  | .ok (parent, some name) =>
    if Path.endsInSlash path then .error .isDirectory
    else if 255 < name.utf8ByteSize then .error .nameTooLong
    else match t.get? (parent ++ [name]) with
      | none => .ok (parent ++ [name], none)
      | some (.file bytes) => .ok (parent ++ [name], some bytes)
      | some .directory => .error .isDirectory

def write (t : FileTree) (path : String) (bytes : ByteArray) : Except FileFault FileTree :=
  (t.openFile path).map fun (place, _) => t.set place (.file bytes)

def append (t : FileTree) (path : String) (bytes : ByteArray) : Except FileFault FileTree :=
  (t.openFile path).map fun (place, old) => t.set place (.file (old.getD .empty ++ bytes))

def makeDirectory (t : FileTree) (path : String) : Except FileFault FileTree :=
  match t.locate path with
  | .error fault => .error fault
  | .ok (_, none) => .error .alreadyExists
  | .ok (parent, some name) =>
    if 255 < name.utf8ByteSize then .error .nameTooLong
    else match t.get? (parent ++ [name]) with
      | some _ => .error .alreadyExists
      | none => .ok (t.set (parent ++ [name]) .directory)

def pathOf (place : Place) : String := String.intercalate "/" place

/-- The paths of all entries with the bytes of the files, in increasing order. -/
def listing (t : FileTree) : List (String × Option ByteArray) :=
  let row : Place × Entry → String × Option ByteArray
    | (place, .file bytes) => (pathOf place, some bytes)
    | (place, .directory) => (pathOf place, none)
  (t.entries.map row).mergeSort fun a b => !decide (b.1 < a.1)

/-- Changes the tree, or leaves it as it is when there is a fault. -/
def change (f : FileTree → Except FileFault FileTree) : StateM FileTree (Except FileFault Unit) :=
  fun t => match f t with
    | .ok t => (.ok (), t)
    | .error fault => (.error fault, t)

instance : FileSystem (StateM FileTree) where
  kind path := do return (← get).find path |>.map fun (_, entry) => entry.kind
  makeDirectory path := change (·.makeDirectory path)
  read path := do return (← get).read path
  write path bytes := change (·.write path bytes)
  append path bytes := change (·.append path bytes)

end FileTree

end NativeStubs
