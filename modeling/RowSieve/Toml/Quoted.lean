import RowSieve.Toml.Value

/-! The four kinds of TOML strings. Each function reads what follows the opening quotes
and leaves what follows the closing ones. -/
namespace RowSieve.Toml

def hexValue? (c : Char) : Option Nat :=
  if c.isDigit then some (c.toNat - '0'.toNat)
  else if 'a' ≤ c ∧ c ≤ 'f' then some (c.toNat - 'a'.toNat + 10)
  else if 'A' ≤ c ∧ c ≤ 'F' then some (c.toNat - 'A'.toNat + 10)
  else none

def hexNumber? (ds : Text) : Option Nat :=
  ds.foldlM (fun n c => (hexValue? c).map (16 * n + ·)) 0

def hexChar? (ds : Text) : Option Char := do
  let n ← hexNumber? ds
  if n.isValidChar then some (Char.ofNat n) else none

def simpleEscape? (c : Char) : Option Char :=
  if c = 'b' then some '\x08'
  else if c = 't' then some '\t'
  else if c = 'n' then some '\n'
  else if c = 'f' then some '\x0c'
  else if c = 'r' then some '\r'
  else if c = 'e' then some '\x1b'
  else if c = '"' then some '"'
  else if c = '\\' then some '\\'
  else none

/-- Characters that may stand in strings and comments as they are. -/
def isVisible (c : Char) : Bool := c == '\t' || (0x20 ≤ c.toNat && c.toNat != 0x7F)

def isSpace (c : Char) : Bool := c == ' ' || c == '\t'

def before (c : Char) (read : Option (Text × Text)) : Option (Text × Text) :=
  read.map fun (t, rest) => (c :: t, rest)

/-- The digits after a backslash and the letter that tells how many they are, and what
follows them. -/
def coded? (letter : Char) (t : Text) : Option (Char × Text) := do
  let count := if letter = 'x' then 2 else if letter = 'u' then 4 else 8
  let ds := t.take count
  if ds.length < count then none
  else
    let c ← hexChar? ds
    return (c, t.drop count)

def isCodedLetter (c : Char) : Bool := c == 'x' || c == 'u' || c == 'U'

def readBasic : (fuel : Nat) → Text → Option (Text × Text)
  | 0, _ => none
  | _ + 1, [] => none
  | fuel + 1, c :: t =>
    if c = '"' then some ([], t)
    else if c = '\\' then
      match t with
      | [] => none
      | d :: t =>
        if isCodedLetter d then do
          let (c, t) ← coded? d t
          before c (readBasic fuel t)
        else do
          let c ← simpleEscape? d
          before c (readBasic fuel t)
    else if isVisible c then before c (readBasic fuel t)
    else none

def readLiteral : Text → Option (Text × Text)
  | [] => none
  | c :: t =>
    if c = '\'' then some ([], t)
    else if isVisible c then before c (readLiteral t)
    else none

def lineBreak? : Text → Option Text
  | '\n' :: t => some t
  | '\r' :: '\n' :: t => some t
  | _ => none

/-- The end of a string over several lines: three quotes, before which one or two more
may belong to the string. -/
def closing? (quote : Char) (t : Text) : Option (Text × Text) :=
  let quotes := (t.take 5).takeWhile (· == quote)
  if quotes.length < 3 then none
  else some (quotes.drop 3, t.drop quotes.length)

/-- A string over several lines between three quotes; a line break of two characters stays
one of two. `folding` is on after a backslash at the end of a line, where blanks and line
breaks are passed over. -/
def readMultiline (quote : Char) (escapes : Bool) :
    (fuel : Nat) → (folding : Bool) → Text → Option (Text × Text)
  | 0, _, _ => none
  | _ + 1, _, [] => none
  | fuel + 1, folding, c :: t =>
    match closing? quote (c :: t) with
    | some closed => some closed
    | none =>
      match lineBreak? (c :: t) with
      | some rest =>
        if folding then readMultiline quote escapes fuel true rest
        else if c == '\r' then
          before '\r' (before '\n' (readMultiline quote escapes fuel false rest))
        else before '\n' (readMultiline quote escapes fuel false rest)
      | none =>
        if folding && isSpace c then readMultiline quote escapes fuel true t
        else if escapes && c == '\\' then
          if (lineBreak? (t.dropWhile isSpace)).isSome then
            readMultiline quote escapes fuel true t
          else match t with
            | [] => none
            | d :: t =>
              if isCodedLetter d then do
                let (c, t) ← coded? d t
                before c (readMultiline quote escapes fuel false t)
              else do
                let c ← simpleEscape? d
                before c (readMultiline quote escapes fuel false t)
        else if isVisible c then before c (readMultiline quote escapes fuel false t)
        else none

/-- A string of any kind, from its first quote on. A line break right after three opening
quotes is dropped. -/
def readString (t : Text) : Option (Text × Text) :=
  match t with
  | '"' :: '"' :: '"' :: t =>
    let t := (lineBreak? t).getD t
    readMultiline '"' true (t.length + 1) false t
  | '\'' :: '\'' :: '\'' :: t =>
    let t := (lineBreak? t).getD t
    readMultiline '\'' false (t.length + 1) false t
  | '"' :: t => readBasic (t.length + 1) t
  | '\'' :: t => readLiteral t
  | _ => none

end RowSieve.Toml
