import RowSieve.Cli.Execute

/-! What a command asks of the disk: the places that decide what it does, and the files and
folders that are different after it. -/
namespace RowSieve.Cli

namespace FileTree

def onTheWay (p : Place) : List Text → List Place
  | [] => [p]
  | name :: names =>
    p :: onTheWay (if name = ['.'] then p else if name = ['.', '.'] then p.dropLast
      else p ++ [name]) names

/-- The places that decide where a path leads. -/
def placesOf (cwd : Place) (path : Text) : List Place :=
  onTheWay (if path.head? = some '/' then [] else cwd) (namesOf path)

/-- The files that hold something else than before or were not there. -/
def changedFiles (before after : FileTree) : List (Place × Bytes) :=
  after.files.filter fun (p, content) => before.files.lookup p != some content

def newFolders (before after : FileTree) : List Place :=
  after.folders.filter fun p => !before.folders.contains p

end FileTree

def Source.path? : Source → Option Text
  | inline _ => none
  | file path => some path

namespace Command

def paths : Command → List Text
  | run o => [o.program.path?, o.input, o.output, o.config].filterMap id
  | check program => program.path?.toList
  | explain program => program.path?.toList

def readsStdin : Command → Bool
  | run o => o.input.isNone
  | check _ => false
  | explain _ => false

end Command

def Machine.logPath? (m : Machine) : Command → Option Text
  | .run o =>
    match m.settings o with
    | .ok (s, base) => s.logging.path? (FileTree.render base)
    | .error _ => none
  | .check _ | .explain _ => none

def usage : Text :=
  ("usage: rowfilter run|check|explain (-p PROGRAM | -f FILE)\n" ++
    "       run also takes [-i FILE] [-o FILE] [-c FILE] [-d DELIMITER]\n").toList

end RowSieve.Cli
