import GitPractice.Datum
import GitPractice.Text.Hex

/-!
# Reading JSON

`read` takes a whole text and answers the value it spells, or nothing. Numbers are read as integers
only if they are written as such; minus zero is not. A text may name half of a surrogate pair by an
escape: it is then no text that a record can hold, but still a value. The same is true of a table
with such a text as a key.

The reader descends with a bound on its steps that the length of the text provides, as each step
takes at least one character.
-/

namespace GitPractice.Json

open Text (isDigit isDigits digitsValue hexNumber?)

def isSpace (c : Char) : Bool := c == ' ' || c == '\n' || c == '\t' || c == '\r'

def skipSpace (cs : List Char) : List Char := cs.dropWhile isSpace

/-! ## Texts -/

/-- The character that a letter stands for after a backslash. -/
def escaped? : Char → Option Char
  | '"' => some '"'
  | '\\' => some '\\'
  | '/' => some '/'
  | 'b' => some (Char.ofNat 8)
  | 'f' => some (Char.ofNat 12)
  | 'n' => some '\n'
  | 'r' => some '\r'
  | 't' => some '\t'
  | _ => none

/-- The code points and surrogates up to the closing quote, and what follows it. -/
def readUnits : List Char → Option (List Nat × List Char)
  | [] => none
  | '"' :: r => some ([], r)
  | '\\' :: 'u' :: a :: b :: c :: d :: r => do
    let unit ← hexNumber? [a, b, c, d]
    let (units, rest) ← readUnits r
    some (unit :: units, rest)
  | '\\' :: e :: r => do
    let c ← escaped? e
    let (units, rest) ← readUnits r
    some (c.toNat :: units, rest)
  | c :: r =>
    if c < ' ' then none
    else do
      let (units, rest) ← readUnits r
      some (c.toNat :: units, rest)

def isHighHalf (n : Nat) : Bool := 0xd800 ≤ n && n < 0xdc00

def isLowHalf (n : Nat) : Bool := 0xdc00 ≤ n && n < 0xe000

/-- The characters that the units spell, if no half of a pair stands alone. -/
def joinUnits : List Nat → Option (List Char)
  | [] => some []
  | [n] => if isHighHalf n || isLowHalf n then none else some [Char.ofNat n]
  | n :: m :: r =>
    if isHighHalf n then
      if isLowHalf m then
        (joinUnits r).map (Char.ofNat (0x10000 + (n - 0xd800) * 0x400 + (m - 0xdc00)) :: ·)
      else none
    else if isLowHalf n then none
    else (joinUnits (m :: r)).map (Char.ofNat n :: ·)

/-- The text between quotes, after the opening one; nothing in its place if it is none. -/
def readQuoted (cs : List Char) : Option (Option String × List Char) :=
  (readUnits cs).map fun (units, rest) => ((joinUnits units).map String.ofList, rest)

/-- The value of a text. -/
def textDatum : Option String → Datum
  | some s => .text s
  | none => .other

/-- The value of a table, given its entries. -/
def tableDatum (entries : List (Option String × Datum)) : Datum :=
  match entries.mapM fun e => e.1.map (·, e.2) with
  | some named => .table named
  | none => .other

/-! ## Numbers and words -/

/-- The digits of a whole number, which begin with zero only if there is no other. -/
def readWhole (cs : List Char) : Option (List Char × List Char) :=
  match cs with
  | '0' :: r => if (r.head?.map isDigit).getD false then none else some (['0'], r)
  | _ =>
    let digits := cs.takeWhile isDigit
    if digits.isEmpty then none else some (digits, cs.dropWhile isDigit)

/-- At least one digit. -/
def skipDigits (cs : List Char) : Option (List Char) :=
  if (cs.takeWhile isDigit).isEmpty then none else some (cs.dropWhile isDigit)

/-- What follows a fraction, and whether there is one. -/
def readFraction : List Char → Option (Bool × List Char)
  | '.' :: r => (skipDigits r).map (true, ·)
  | r => some (false, r)

/-- What follows an exponent, and whether there is one. -/
def readExponent : List Char → Option (Bool × List Char)
  | e :: r =>
    if e = 'e' || e = 'E' then
      (skipDigits (match r with
        | '+' :: r' => r'
        | '-' :: r' => r'
        | _ => r)).map (true, ·)
    else some (false, e :: r)
  | [] => some (false, [])

def readNumber (cs : List Char) : Option (Datum × List Char) := do
  let (negative, cs) := match cs with
    | '-' :: r => (true, r)
    | _ => (false, cs)
  let (digits, cs) ← readWhole cs
  let (fraction, cs) ← readFraction cs
  let (exponent, cs) ← readExponent cs
  let n := digitsValue digits
  if fraction || exponent || (negative && n = 0) then some (.other, cs)
  else some (.integer (if negative then -n else n), cs)

/-- A value that is no text, list or table. -/
def readScalar : List Char → Option (Datum × List Char)
  | 't' :: 'r' :: 'u' :: 'e' :: r => some (.bool true, r)
  | 'f' :: 'a' :: 'l' :: 's' :: 'e' :: r => some (.bool false, r)
  | 'n' :: 'u' :: 'l' :: 'l' :: r => some (.null, r)
  | cs => readNumber cs

/-! ## Values -/

mutual

/-- A value and what follows it. -/
def readValue : Nat → List Char → Option (Datum × List Char)
  | 0, _ => none
  | n + 1, cs =>
    match skipSpace cs with
    | '"' :: r => (readQuoted r).map fun (text, rest) => (textDatum text, rest)
    | '[' :: r =>
      match skipSpace r with
      | ']' :: r' => some (.list [], r')
      | r' => (readItems n r').map fun (items, rest) => (.list items, rest)
    | '{' :: r =>
      match skipSpace r with
      | '}' :: r' => some (.table [], r')
      | r' => (readEntries n r').map fun (entries, rest) => (tableDatum entries, rest)
    | cs' => readScalar cs'

/-- The items of a list, at least one, up to its end. -/
def readItems : Nat → List Char → Option (List Datum × List Char)
  | 0, _ => none
  | n + 1, cs =>
    match readValue n cs with
    | none => none
    | some (item, r) =>
      match skipSpace r with
      | ',' :: r' => (readItems n r').map fun (items, rest) => (item :: items, rest)
      | ']' :: r' => some ([item], r')
      | _ => none

/-- The entries of a table, at least one, up to its end. -/
def readEntries : Nat → List Char → Option (List (Option String × Datum) × List Char)
  | 0, _ => none
  | n + 1, cs =>
    match skipSpace cs with
    | '"' :: r =>
      match readQuoted r with
      | none => none
      | some (key, r) =>
        match skipSpace r with
        | ':' :: r =>
          match readValue n r with
          | none => none
          | some (value, r) =>
            match skipSpace r with
            | ',' :: r' =>
              (readEntries n r').map fun (entries, rest) => ((key, value) :: entries, rest)
            | '}' :: r' => some ([(key, value)], r')
            | _ => none
        | _ => none
    | _ => none

end

/-- The value of a text, with nothing but space around it. -/
def readChars (cs : List Char) : Option Datum :=
  match readValue (cs.length + 1) cs with
  | some (value, rest) => if (skipSpace rest).isEmpty then some value else none
  | none => none

def read (s : String) : Option Datum := readChars s.toList

end GitPractice.Json
