import RowSieve.Bytes

/-! A tree of files and folders, and paths through it. A path is walked name by name from
the root or from the working folder; `.` stays where it is and `..` goes up. There are no links and
no permissions: what exists can be read and written. -/
namespace RowSieve.Cli

inductive OsError where
  | notFound
  | notAFolder
  | isAFolder
  | nameTooLong
  | alreadyThere
  deriving DecidableEq, Repr

def OsError.message : OsError → Text
  | notFound => "No such file or directory (os error 2)".toList
  | notAFolder => "Not a directory (os error 20)".toList
  | isAFolder => "Is a directory (os error 21)".toList
  | nameTooLong => "File name too long (os error 36)".toList
  | alreadyThere => "File exists (os error 17)".toList

/-- The names from the root to a file or folder. -/
abbrev Place := List Text

/-- Folders on the way to a file exist anyway; `folders` are those that exist on their own. -/
structure FileTree where
  files : List (Place × Bytes)
  folders : List Place
  deriving DecidableEq, Repr

inductive Node where
  | file (content : Bytes)
  | folder
  | missing
  deriving DecidableEq, Repr

namespace FileTree

def isFolder (t : FileTree) (p : Place) : Bool :=
  p.isEmpty || t.folders.any p.isPrefixOf ||
    t.files.any fun (q, _) => p.isPrefixOf q && p.length < q.length

def node (t : FileTree) (p : Place) : Node :=
  match t.files.lookup p with
  | some content => .file content
  | none => if t.isFolder p then .folder else .missing

/-- Goes on from a place that must be a folder if names follow. -/
def walk (t : FileTree) : Place → List Text → Except OsError Place
  | p, [] => .ok p
  | p, name :: names =>
    match t.node p with
    | .missing => .error .notFound
    | .file _ => .error .notAFolder
    | .folder =>
      if name = ['.'] then walk t p names
      else if name = ['.', '.'] then walk t p.dropLast names
      else if 255 < Text.size name then .error .nameTooLong
      else walk t (p ++ [name]) names

/-- The names of a path; slashes next to each other or at an end part nothing. -/
def namesOf (path : Text) : List Text := (Text.split '/' path).filter fun n => !n.isEmpty

/-- The place that a path leads to; there need not be anything. A path that ends in `/` or
`/.` must lead to a folder if it leads to anything. -/
def place (t : FileTree) (cwd : Place) (path : Text) : Except OsError Place :=
  if path.isEmpty then .error .notFound
  else do
    let p ← t.walk (if path.head? = some '/' then [] else cwd) (namesOf path)
    match t.node p with
    | .file _ => if path.getLast? = some '/' then .error .notAFolder else .ok p
    | _ => .ok p

def read (t : FileTree) (cwd : Place) (path : Text) : Except OsError Bytes := do
  match t.node (← t.place cwd path) with
  | .file content => .ok content
  | .folder => .error .isAFolder
  | .missing => .error .notFound

def existing (t : FileTree) (cwd : Place) (path : Text) : Except OsError Place := do
  let p ← t.place cwd path
  match t.node p with
  | .missing => .error .notFound
  | _ => .ok p

/-- The place where a path lets a file be written. -/
def writable (t : FileTree) (cwd : Place) (path : Text) : Except OsError Place := do
  let p ← t.place cwd path
  match t.node p with
  | .file _ => .ok p
  | .folder => .error .isAFolder
  | .missing => if path.getLast? = some '/' then .error .isAFolder else .ok p

def putIn (p : Place) (content : Bytes) : List (Place × Bytes) → List (Place × Bytes)
  | [] => [(p, content)]
  | (q, old) :: rest =>
    if q = p then (p, content) :: rest else (q, old) :: putIn p content rest

def put (t : FileTree) (p : Place) (content : Bytes) : FileTree :=
  { t with files := putIn p content t.files }

/-- Adds to the end of a file, which need not exist. -/
def append (t : FileTree) (p : Place) (content : Bytes) : FileTree :=
  t.put p ((t.files.lookup p).getD [] ++ content)

def makeFolders (t : FileTree) : Place → List Text → Except OsError (FileTree × Place)
  | p, [] => .ok (t, p)
  | p, name :: names =>
    if name = ['.'] then makeFolders t p names
    else if name = ['.', '.'] then makeFolders t p.dropLast names
    else if 255 < Text.size name then .error .nameTooLong
    else match t.node (p ++ [name]) with
      | .file _ => .error (if names.isEmpty then .alreadyThere else .notAFolder)
      | .folder => makeFolders t (p ++ [name]) names
      | .missing =>
        makeFolders { t with folders := t.folders ++ [p ++ [name]] } (p ++ [name]) names

def render (p : Place) : Text :=
  if p.isEmpty then ['/'] else p.flatMap fun name => '/' :: name

end FileTree
end RowSieve.Cli
