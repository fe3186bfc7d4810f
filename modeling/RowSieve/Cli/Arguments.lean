import RowSieve.Text

/-! The command line: which command is meant and with which options. Arguments that make no
command give `none`. -/
namespace RowSieve.Cli

inductive Source where
  | inline (t : Text)
  | file (path : Text)
  deriving DecidableEq, Repr

structure RunOptions where
  program : Source
  input : Option Text
  output : Option Text
  config : Option Text
  delimiter : Option Text
  deriving DecidableEq, Repr

inductive Command where
  | run (o : RunOptions)
  | check (program : Source)
  | explain (program : Source)
  deriving DecidableEq, Repr

inductive Flag where
  | program
  | programFile
  | input
  | output
  | config
  | delimiter
  deriving DecidableEq, Repr

namespace Flag

def letter : Flag → Char
  | program => 'p'
  | programFile => 'f'
  | input => 'i'
  | output => 'o'
  | config => 'c'
  | delimiter => 'd'

def word : Flag → Text
  | program => "program".toList
  | programFile => "program-file".toList
  | input => "input".toList
  | output => "output".toList
  | config => "config".toList
  | delimiter => "delimiter".toList

/-- Paths must not be empty; a program or delimiter may. -/
def accepts (f : Flag) (value : Text) : Bool :=
  match f with
  | program | delimiter => true
  | programFile | input | output | config => !value.isEmpty

def ofRun : List Flag := [program, programFile, input, output, config, delimiter]

def ofOthers : List Flag := [program, programFile]

end Flag

abbrev Given := List (Flag × Text)

/-- An argument of its own is a value unless it looks like an option; `-` is a value. -/
def isValue (arg : Text) : Bool := arg.head? != some '-' || arg == ['-']

/-- How an argument begins an option: the option, and the value if it is attached. -/
def flagOf? (known : List Flag) (arg : Text) : Option (Flag × Option Text) :=
  match arg with
  | '-' :: '-' :: t => do
    let f ← known.find? fun f => f.word == t.takeWhile (· ≠ '=')
    match t.dropWhile (· ≠ '=') with
    | [] => return (f, none)
    | _ :: value => return (f, some value)
  | '-' :: c :: t => do
    let f ← known.find? fun f => f.letter == c
    match t with
    | [] => return (f, none)
    | '=' :: value => return (f, some value)
    | value => return (f, some value)
  | _ => none

def given? (known : List Flag) : List Text → Option Given
  | [] => some []
  | ['-', '-'] :: rest => if rest.isEmpty then some [] else none
  | arg :: rest =>
    match flagOf? known arg with
    | none => none
    | some (f, some value) =>
      if f.accepts value then (given? known rest).map ((f, value) :: ·) else none
    | some (f, none) =>
      match rest with
      | [] => none
      | value :: rest =>
        if isValue value && f.accepts value then (given? known rest).map ((f, value) :: ·)
        else none

def value? (g : Given) (f : Flag) : Option Text := g.lookup f

def noneTwice : Given → Bool
  | [] => true
  | (f, _) :: g => (value? g f).isNone && noneTwice g

def source? (g : Given) : Option Source :=
  match value? g .program, value? g .programFile with
  | some t, none => some (.inline t)
  | none, some path => some (.file path)
  | _, _ => none

def options? (known : List Flag) (args : List Text) : Option (Source × Given) := do
  let g ← given? known args
  if noneTwice g then
    let source ← source? g
    return (source, g)
  else none

def Command.parse? : List Text → Option Command
  | [] => none
  | name :: args =>
    if name == "run".toList then
      (options? Flag.ofRun args).map fun (source, g) =>
        .run ⟨source, value? g .input, value? g .output, value? g .config,
          value? g .delimiter⟩
    else if name == "check".toList then
      (options? Flag.ofOthers args).map fun (source, _) => .check source
    else if name == "explain".toList then
      (options? Flag.ofOthers args).map fun (source, _) => .explain source
    else none

end RowSieve.Cli
