import GitPractice.Text.Hex

/-!
# Text and keys in TOML

The four ways to write a text (in one kind of quotes or the other, on one line or on several), the
keys, and what may stand at the end of a line. A text on several lines ends at the first three
quotes; one or two more of them right before its end belong to it. Line breaks in it are plain ones
however they are written.
-/

namespace GitPractice.Toml

open Text (charOfHex?)

def isSpace (c : Char) : Bool := c == ' ' || c == '\t'

def skipSpace (cs : List Char) : List Char := cs.dropWhile isSpace

/-- What follows a line break. -/
def newline? : List Char → Option (List Char)
  | '\n' :: r => some r
  | '\r' :: '\n' :: r => some r
  | _ => none

/-- A character that is no control character but the tab. -/
def isTextChar (c : Char) : Bool := c == '\t' || (' ' ≤ c && c.toNat != 0x7f)

/-- What follows a comment, if there is one. -/
def skipComment : List Char → List Char
  | '#' :: r => r.dropWhile isTextChar
  | cs => cs

/-- What follows the rest of a line, on which only space and a comment may stand. -/
def endLine? (cs : List Char) : Option (List Char) :=
  match skipComment (skipSpace cs) with
  | [] => some []
  | r => newline? r

/-! ## Texts -/

/-- The character that a letter stands for after a backslash. -/
def escaped? : Char → Option Char
  | 'b' => some (Char.ofNat 8)
  | 'f' => some (Char.ofNat 12)
  | 'n' => some '\n'
  | 'r' => some '\r'
  | 't' => some '\t'
  | '\\' => some '\\'
  | '"' => some '"'
  | _ => none

/-- A character in front of a text read further on. -/
def putFront (c : Option Char) (r : Option (List Char × List Char)) :
    Option (List Char × List Char) :=
  match c, r with
  | some c, some (text, rest) => some (c :: text, rest)
  | _, _ => none

/-- A text in double quotes on one line, after the opening one. -/
def readBasic : List Char → Option (List Char × List Char)
  | [] => none
  | '"' :: r => some ([], r)
  | '\\' :: 'u' :: a :: b :: c :: d :: r => putFront (charOfHex? [a, b, c, d]) (readBasic r)
  | '\\' :: 'U' :: a :: b :: c :: d :: e :: f :: g :: h :: r =>
    putFront (charOfHex? [a, b, c, d, e, f, g, h]) (readBasic r)
  | '\\' :: e :: r => putFront (escaped? e) (readBasic r)
  | c :: r => if isTextChar c then putFront (some c) (readBasic r) else none

/-- A text in single quotes on one line, after the opening one. -/
def readLiteral : List Char → Option (List Char × List Char)
  | [] => none
  | '\'' :: r => some ([], r)
  | c :: r => if isTextChar c then putFront (some c) (readLiteral r) else none

/-- A text in double quotes on several lines. After a backslash at the end of a line, blank
characters are passed over up to the next other one. -/
def readLongBasic : Bool → List Char → Option (List Char × List Char)
  | _, [] => none
  | true, ' ' :: r => readLongBasic true r
  | true, '\t' :: r => readLongBasic true r
  | true, '\n' :: r => readLongBasic true r
  | true, '\r' :: '\n' :: r => readLongBasic true r
  | _, '"' :: '"' :: '"' :: '"' :: '"' :: r => some (['"', '"'], r)
  | _, '"' :: '"' :: '"' :: '"' :: r => some (['"'], r)
  | _, '"' :: '"' :: '"' :: r => some ([], r)
  | _, '\\' :: 'u' :: a :: b :: c :: d :: r =>
    putFront (charOfHex? [a, b, c, d]) (readLongBasic false r)
  | _, '\\' :: 'U' :: a :: b :: c :: d :: e :: f :: g :: h :: r =>
    putFront (charOfHex? [a, b, c, d, e, f, g, h]) (readLongBasic false r)
  | _, '\\' :: e :: r =>
    if (newline? (skipSpace (e :: r))).isSome then readLongBasic true (e :: r)
    else putFront (escaped? e) (readLongBasic false r)
  | _, '\r' :: '\n' :: r => putFront (some '\n') (readLongBasic false r)
  | _, c :: r =>
    if isTextChar c || c == '\n' then putFront (some c) (readLongBasic false r) else none

/-- A text in single quotes on several lines. -/
def readLongLiteral : List Char → Option (List Char × List Char)
  | [] => none
  | '\'' :: '\'' :: '\'' :: '\'' :: '\'' :: r => some (['\'', '\''], r)
  | '\'' :: '\'' :: '\'' :: '\'' :: r => some (['\''], r)
  | '\'' :: '\'' :: '\'' :: r => some ([], r)
  | '\r' :: '\n' :: r => putFront (some '\n') (readLongLiteral r)
  | c :: r => if isTextChar c || c == '\n' then putFront (some c) (readLongLiteral r) else none

/-- A line break right after the opening quotes is left out. -/
def skipNewline (cs : List Char) : List Char := (newline? cs).getD cs

/-- A text in any quotes. -/
def readText : List Char → Option (List Char × List Char)
  | '"' :: '"' :: '"' :: r => readLongBasic false (skipNewline r)
  | '"' :: r => readBasic r
  | '\'' :: '\'' :: '\'' :: r => readLongLiteral (skipNewline r)
  | '\'' :: r => readLiteral r
  | _ => none

/-! ## Keys -/

def isBareChar (c : Char) : Bool := c.isAlphanum || c == '-' || c == '_'

/-- A key in quotes on one line, or a bare one. -/
def readKey : List Char → Option (List Char × List Char)
  | '"' :: r => readBasic r
  | '\'' :: r => readLiteral r
  | cs =>
    let key := cs.takeWhile isBareChar
    if key.isEmpty then none else some (key, cs.dropWhile isBareChar)

/-- Keys with dots between them and space around each. -/
def readDotted : Nat → List Char → Option (List String × List Char)
  | 0, _ => none
  | n + 1, cs =>
    match readKey (skipSpace cs) with
    | none => none
    | some (key, r) =>
      match skipSpace r with
      | '.' :: r' => (readDotted n r').map fun (keys, rest) => (String.ofList key :: keys, rest)
      | r' => some ([String.ofList key], r')

/-- Tables within tables, and keys of one path, are less than this many. -/
def depthLimit : Nat := 80

/-- The path that dotted keys write. -/
def readPath (cs : List Char) : Option (List String × List Char) :=
  match readDotted (cs.length + 1) cs with
  | some (keys, rest) => if keys.length < depthLimit then some (keys, rest) else none
  | none => none

end GitPractice.Toml
