import RowSieve.Toml.Quoted
import RowSieve.Toml.Scalar

/-! Reading a TOML document into the entries of its root table. A text that is no TOML
gives `none`; why is not told. -/
namespace RowSieve.Toml

def maxDepth : Nat := 80

def skipSpaces (t : Text) : Text := t.dropWhile isSpace

/-- Passes over blanks, line breaks and comments. -/
def skipLines : (comment : Bool) → Text → Option Text
  | _, [] => some []
  | _, '\r' :: '\n' :: t => skipLines false t
  | comment, c :: t =>
    if c = '\n' then skipLines false t
    else if comment then (if isVisible c then skipLines true t else none)
    else if isSpace c then skipLines false t
    else if c = '#' then skipLines true t
    else some (c :: t)

def endLine (t : Text) : Option Text :=
  let t := skipSpaces t
  match t with
  | '#' :: t =>
    let t := t.dropWhile isVisible
    if t.isEmpty then some [] else lineBreak? t
  | [] => some []
  | t => lineBreak? t

def isBareKeyChar (c : Char) : Bool := c.isAlphanum || c == '_' || c == '-'

/-- One part of a key: bare, or a string on one line. -/
def readKeyPart (t : Text) : Option (Key × Text) := do
  let (name, rest) ← match t with
    | '"' :: t => readBasic (t.length + 1) t
    | '\'' :: t => readLiteral t
    | t =>
      let name := t.takeWhile isBareKeyChar
      if name.isEmpty then none else some (name, t.dropWhile isBareKeyChar)
  return (⟨name, .between t rest⟩, rest)

def maxParts : Nat := 80

/-- A key with its parts before the last one; `room` is how many parts it may have. -/
def readParts : (room : Nat) → Text → Option ((List Key × Key) × Text)
  | 0, _ => none
  | room + 1, t => do
    let (part, t) ← readKeyPart (skipSpaces t)
    match skipSpaces t with
    | '.' :: t => do
      let ((path, key), t) ← readParts room t
      return ((part :: path, key), t)
    | t => return (([], part), t)

def readKey (t : Text) : Option ((List Key × Key) × Text) := readParts maxParts t

def isScalarChar (c : Char) : Bool := c.isAlphanum || c == '_' || c == '-' || c == '+' ||
  c == '.' || c == ':'

/-- The text of a scalar. One space inside a date is part of it where a time follows. -/
def scalarText (t : Text) : Text × Text :=
  let first := t.takeWhile isScalarChar
  let rest := t.dropWhile isScalarChar
  match rest with
  | ' ' :: c :: more =>
    if (date? first).any (·.2.isEmpty) && c.isDigit then
      (first ++ ' ' :: (c :: more).takeWhile isScalarChar, (c :: more).dropWhile isScalarChar)
    else (first, rest)
  | _ => (first, rest)

mutual

/-- A value; `room` is how many brackets may still be opened. -/
def readValue : (fuel : Nat) → (room : Nat) → Text → Option (Located × Text)
  | 0, _, _ => none
  | fuel + 1, room, t => do
    let (value, rest) ← match t with
      | '"' :: _ | '\'' :: _ => (readString t).map fun (s, t) => (.string s, t)
      | '[' :: t =>
        if room = 0 then none
        else (readItems fuel (room - 1) t).map fun (items, t) => (.array false items, t)
      | '{' :: t =>
        if room = 0 then none
        else (readPairs fuel (room - 1) [] t).map fun (entries, t) =>
          (.table .inline entries, t)
      | t =>
        let (text, t) := scalarText t
        (scalar? text).map fun v => (v, t)
    return ((.between t rest, value), rest)

def readItems : (fuel : Nat) → (room : Nat) → Text → Option (List Located × Text)
  | 0, _, _ => none
  | fuel + 1, room, t => do
    match ← skipLines false t with
    | ']' :: t => return ([], t)
    | t =>
      let (item, t) ← readValue fuel room t
      match ← skipLines false t with
      | ']' :: t => return ([item], t)
      | ',' :: t =>
        let (items, t) ← readItems fuel room t
        return (item :: items, t)
      | _ => none

/-- The entries of an inline table and its closing brace, after the opening one or a
comma. Lines may end anywhere but inside a key. -/
def readPairs : (fuel : Nat) → (room : Nat) → Entries → Text → Option (Entries × Text)
  | 0, _, _, _ => none
  | fuel + 1, room, entries, t => do
    match ← skipLines false t with
    | '}' :: t => return (entries, t)
    | t =>
      let ((path, key), t) ← readKey t
      match ← skipLines false t with
      | '=' :: t =>
        let (value, t) ← readValue fuel room (← skipLines false t)
        let entries ← entries.add? path key value
        match ← skipLines false t with
        | '}' :: t => return (entries, t)
        | ',' :: t => readPairs fuel room entries t
        | _ => none
      | _ => none

end

/-- Reads statements up to the end of the text: headers, which name the table that
`current` then leads to, and values for it. -/
def readStatements :
    (fuel : Nat) → (current : List Key) → Entries → Text → Option Entries
  | 0, _, _, _ => none
  | fuel + 1, current, entries, t => do
    let t ← skipLines false t
    match t with
    | [] => return entries
    | '[' :: '[' :: inner =>
      let ((path, key), rest) ← readKey inner
      match rest with
      | ']' :: ']' :: rest =>
        let entries ← entries.openItem? path key (.between t rest)
        readStatements fuel (path ++ [key]) entries (← endLine rest)
      | _ => none
    | '[' :: inner =>
      let ((path, key), rest) ← readKey inner
      match rest with
      | ']' :: rest =>
        let entries ← entries.openTable? path key (.between t rest)
        readStatements fuel (path ++ [key]) entries (← endLine rest)
      | _ => none
    | t =>
      let ((path, key), t) ← readKey t
      match t with
      | '=' :: t =>
        let (value, t) ← readValue (2 * t.length + 2) maxDepth (skipSpaces t)
        let entries ← entries.atPath? false
          (fun _ inner => inner.add? path key value) current .explicit
        readStatements fuel current entries (← endLine t)
      | _ => none

/-- A byte order mark at the front is passed over. -/
def read? (t : Text) : Option Entries :=
  let t := match t with
    | '\ufeff' :: t => t
    | t => t
  readStatements (t.length + 1) [] [] t

end RowSieve.Toml
