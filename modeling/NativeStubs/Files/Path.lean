/-! # Paths

A path is a text with slashes between its names. A path that starts with a slash starts at the
root; a name `.` stands for where it is and `..` for the directory above.
-/

namespace NativeStubs

namespace Path

/-- The texts between the slashes. -/
def pieces : List Char → List (List Char)
  | [] => [[]]
  | c :: s =>
    if c = '/' then [] :: pieces s
    else match pieces s with
      | [] => [[c]]
      | piece :: rest => (c :: piece) :: rest

def isAbsolute (path : String) : Bool := path.toList.head? == some '/'

/-- A path ends in a slash, so that it can only lead to a directory. -/
def endsInSlash (path : String) : Bool := path.toList.getLast? == some '/'

def names (path : String) : List String :=
  ((pieces path.toList).filter (· ≠ [])).map String.ofList

/-- A path inside a directory. An absolute path stays as it is. -/
def join (dir path : String) : String :=
  if isAbsolute path then path
  else if dir.isEmpty || endsInSlash dir then dir ++ path
  else dir ++ "/" ++ path

/-- The names that matter for the directories above a path: a `.` does so only at the start. -/
def components (path : String) : List String :=
  match names path with
  | [] => []
  | first :: rest =>
    let rest := rest.filter (· ≠ ".")
    if first = "." ∧ isAbsolute path then rest else first :: rest

def ofComponents (absolute : Bool) (components : List String) : String :=
  (if absolute then "/" else "") ++ String.intercalate "/" components

/-- The directories above a path with given components in reverse, innermost first. -/
def parentsOf (absolute : Bool) : List String → List String
  | [] => []
  | [_] => []
  | _ :: rest => ofComponents absolute rest.reverse :: parentsOf absolute rest

def parents (path : String) : List String :=
  parentsOf (isAbsolute path) (components path).reverse

/-- The path and the directories above it, unless it is empty or the root. -/
def ancestors (path : String) : List String :=
  if (components path).isEmpty then [] else path :: parents path

end Path

end NativeStubs
