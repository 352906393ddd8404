import GitPractice.Regex.Expression
import GitPractice.Text.Classes
import GitPractice.Text.Hex
import GitPractice.Text.Join
import GitPractice.Text.Number

/-!
# Reading a pattern

`read` takes the text of a pattern to its `Expression`, or to nothing if the text is no pattern:
a parenthesis or bracket without its partner, a count with nothing to repeat, an unknown escape, a
reference back to a group, a look ahead or behind, and the like.

Under the flag `x` blank characters and comments are idle, in almost every place. The reader
descends with a bound on its steps that the length of the text provides, as each step takes at least
one character.
-/

namespace GitPractice.Regex

open Text (isBlank isDigit digitsValue isAlphabetic isNumeric cutAt charOfHex?)

/-! ## Idle text -/

/-- What follows the idle text, which may begin inside a comment. -/
def skipIdleFrom : Bool → List Char → List Char
  | _, [] => []
  | true, c :: r => skipIdleFrom (c != '\n') r
  | false, c :: r =>
    if isBlank c then skipIdleFrom false r
    else if c = '#' then skipIdleFrom true r
    else c :: r

/-- What follows the idle text, if there is such a thing. -/
def skipIdle (idle : Bool) (cs : List Char) : List Char :=
  if idle then skipIdleFrom false cs else cs

/-- The first characters that satisfy `p`, idle text between them left out. -/
def takeRun (idle : Bool) (p : Char → Bool) : Nat → List Char → List Char × List Char
  | 0, cs => ([], cs)
  | _ + 1, [] => ([], [])
  | n + 1, c :: r =>
    if p c then
      let (run, rest) := takeRun idle p n (skipIdle idle r)
      (c :: run, rest)
    else ([], c :: r)

def readRun (idle : Bool) (p : Char → Bool) (cs : List Char) : List Char × List Char :=
  takeRun idle p cs.length cs

/-! ## Escapes -/

/-- Exactly `k` characters, idle text after each left out. -/
def readExactly (idle : Bool) : Nat → List Char → Option (List Char × List Char)
  | 0, cs => some ([], cs)
  | _ + 1, [] => none
  | k + 1, c :: r => (readExactly idle k (skipIdle idle r)).map fun (cs, rest) => (c :: cs, rest)

/-- A character by its number: in braces, or in `width` digits. -/
def readHex (idle : Bool) (width : Nat) (cs : List Char) : Option (Expression × List Char) :=
  match skipIdle idle cs with
  | '\x7b' :: r =>
    match readRun idle (· != '\x7d') (skipIdle idle r) with
    | (digits, '\x7d' :: rest) => (charOfHex? digits).map fun c => (.literal c false, rest)
    | _ => none
  | r => do
    let (digits, rest) ← readExactly idle width r
    let c ← charOfHex? digits
    some (.literal c (width == 2), rest)

/-- What the braces of a property hold: a name, or a property and its value, and whether the class
is that of all other characters, as `!=` says. -/
def classNameOf (cs : List Char) : ClassName × Bool :=
  match cutAt ['!', '='] cs, cutAt [':'] cs, cutAt ['='] cs with
  | some (a, b), _, _ => (.valued (String.ofList a) (String.ofList b), true)
  | none, some (a, b), _ | none, none, some (a, b) =>
    (.valued (String.ofList a) (String.ofList b), false)
  | none, none, none => (.named (String.ofList cs), false)

/-- A property after `\p` or `\P`. A complement of a complement is the class itself. -/
def readProperty (idle negated : Bool) (cs : List Char) : Option (Expression × List Char) :=
  match skipIdle idle cs with
  | [] => none
  | '\x7b' :: r =>
    match readRun idle (· != '\x7d') (skipIdle idle r) with
    | (text, '\x7d' :: rest) =>
      let (name, unequal) := classNameOf text
      some (.charClass (.property name (negated != unequal)), rest)
    | _ => none
  | c :: r =>
    if c = '\\' then none
    else some (.charClass (.property (.named (String.ofList [c])) negated), skipIdle idle r)

def isBoundaryLetter (c : Char) : Bool :=
  'a' ≤ c && c ≤ 'z' || 'A' ≤ c && c ≤ 'Z' || c == '-'

/-- The boundary after `\b`: one named in braces, or a plain one. Braces that hold anything but
letters are left for a count. -/
def readBoundary (idle : Bool) (cs : List Char) : Option (Expression × List Char) :=
  match cs with
  | '\x7b' :: r =>
    match skipIdle idle r with
    | [] => none
    | c :: r' =>
      if isBoundaryLetter c then
        match readRun idle isBoundaryLetter (c :: r') with
        | (name, '\x7d' :: rest) =>
          let kind := match String.ofList name with
            | "start" => some Anchor.wordStart
            | "end" => some .wordEnd
            | "start-half" => some .wordStartHalf
            | "end-half" => some .wordEndHalf
            | _ => none
          kind.map fun k => (.anchor k, rest)
        | _ => none
      else some (.anchor .wordBoundary, cs)
  | _ => some (.anchor .wordBoundary, cs)

/-- The characters with a meaning of their own, and all other ASCII characters that are neither
letters, digits nor angle brackets, stand for themselves after a backslash. -/
def isPlainEscape (c : Char) : Bool :=
  c.toNat < 128 && !c.isAlphanum && c != '<' && c != '>'

/-- What follows a backslash. -/
def readEscape (idle : Bool) : List Char → Option (Expression × List Char)
  | [] => none
  | c :: r =>
    let literal (n : Nat) := some (Expression.literal (Char.ofNat n) false, r)
    let shorthand (kind : Shorthand) (negated : Bool) :=
      some (Expression.charClass (.shorthand kind negated), r)
    let anchor (kind : Anchor) := some (Expression.anchor kind, r)
    match c with
    | 'x' => readHex idle 2 r
    | 'u' => readHex idle 4 r
    | 'U' => readHex idle 8 r
    | 'p' => readProperty idle false r
    | 'P' => readProperty idle true r
    | 'd' => shorthand .digit false
    | 'D' => shorthand .digit true
    | 's' => shorthand .space false
    | 'S' => shorthand .space true
    | 'w' => shorthand .word false
    | 'W' => shorthand .word true
    | 'a' => literal 7
    | 'f' => literal 12
    | 't' => literal 9
    | 'n' => literal 10
    | 'r' => literal 13
    | 'v' => literal 11
    | 'A' => anchor .textStart
    | 'z' => anchor .textEnd
    | 'b' => readBoundary idle r
    | 'B' => anchor .notWordBoundary
    | '<' => anchor .wordStart
    | '>' => anchor .wordEnd
    | _ => if isPlainEscape c then literal c.toNat else none

/-! ## Classes in brackets -/

def asciiClasses : List (String × List (Nat × Nat)) :=
  [("alnum", [(0x30, 0x39), (0x41, 0x5a), (0x61, 0x7a)]),
    ("alpha", [(0x41, 0x5a), (0x61, 0x7a)]),
    ("ascii", [(0, 0x7f)]),
    ("blank", [(9, 9), (0x20, 0x20)]),
    ("cntrl", [(0, 0x1f), (0x7f, 0x7f)]),
    ("digit", [(0x30, 0x39)]),
    ("graph", [(0x21, 0x7e)]),
    ("lower", [(0x61, 0x7a)]),
    ("print", [(0x20, 0x7e)]),
    ("punct", [(0x21, 0x2f), (0x3a, 0x40), (0x5b, 0x60), (0x7b, 0x7e)]),
    ("space", [(9, 13), (0x20, 0x20)]),
    ("upper", [(0x41, 0x5a)]),
    ("word", [(0x30, 0x39), (0x41, 0x5a), (0x5f, 0x5f), (0x61, 0x7a)]),
    ("xdigit", [(0x30, 0x39), (0x41, 0x46), (0x61, 0x66)])]

/-- A class such as `[:alpha:]`, after its opening bracket. -/
def asciiClass? (cs : List Char) : Option (CharClass × List Char) :=
  match cs with
  | ':' :: r =>
    let (negated, r) := match r with
      | '^' :: r' => (true, r')
      | _ => (false, r)
    match r.dropWhile (· != ':') with
    | ':' :: ']' :: rest =>
      (asciiClasses.lookup (String.ofList (r.takeWhile (· != ':')))).map fun ranges =>
        (.ascii ranges negated, rest)
    | _ => none
  | _ => none

/-- The start of a class after its bracket: whether it is negated, and the hyphens, or the bracket,
that stand for themselves there. -/
def readClassStart (idle : Bool) (cs : List Char) : Bool × List CharClass × List Char :=
  let (negated, r) := match skipIdle idle cs with
    | '^' :: r => (true, skipIdle idle r)
    | r => (false, r)
  match readRun idle (· == '-') r with
  | ([], ']' :: r') => (negated, [.range ']' ']'], skipIdle idle r')
  | (hyphens, r') => (negated, hyphens.map fun c => .range c c, r')

/-- The character after a hyphen and idle text; of a comment only the sign is passed over. -/
def pastHyphen (idle : Bool) (cs : List Char) : Option Char :=
  if idle then
    match cs.dropWhile isBlank with
    | '#' :: r => (r.dropWhile isBlank).head?
    | r => r.head?
  else cs.head?

/-- One item of a class, which may turn out to be no class at all. -/
def readClassItem (idle : Bool) : List Char → Option (Expression × List Char)
  | [] => none
  | '\\' :: r => readEscape idle r
  | c :: r => some (.literal c false, r)

def asClass? : Expression → Option CharClass
  | .literal c _ => some (.range c c)
  | .charClass s => some s
  | _ => none

def asLiteral? : Expression → Option Char
  | .literal c _ => some c
  | _ => none

/-- An item of a class or a range between two. -/
def readClassRange (idle : Bool) (cs : List Char) : Option (CharClass × List Char) := do
  let (first, r) ← readClassItem idle cs
  match skipIdle idle r with
  | [] => none
  | '-' :: r' =>
    if pastHyphen idle r' == some ']' || pastHyphen idle r' == some '-' then
      (asClass? first).map (·, '-' :: r')
    else
      let (last, rest) ← readClassItem idle (skipIdle idle r')
      let a ← asLiteral? first
      let b ← asLiteral? last
      if a ≤ b then some (.range a b, rest) else none
  | rest => (asClass? first).map (·, rest)

/-- The class read so far: the items, joined to what stands before the last operator. -/
def closeOperand (pending : Option (SetOp × CharClass)) (items : List CharClass) : CharClass :=
  match pending with
  | none => .ofItems items
  | some (kind, left) => .op kind left (.ofItems items)

/-- A class up to its closing bracket. -/
def readClass : Nat → Bool → List Char → Option (SetOp × CharClass) → List CharClass →
    Option (CharClass × List Char)
  | 0, _, _, _, _ => none
  | n + 1, idle, cs, pending, items =>
    match skipIdle idle cs with
    | [] => none
    | ']' :: r => some (closeOperand pending items, r)
    | '[' :: r =>
      match asciiClass? r with
      | some (s, rest) => readClass n idle rest pending (items ++ [s])
      | none =>
        let (negated, first, r') := readClassStart idle r
        match readClass n idle r' none first with
        | some (inner, rest) =>
          readClass n idle rest pending (items ++ [.bracket negated inner])
        | none => none
    | '&' :: '&' :: r => readClass n idle r (some (.inter, closeOperand pending items)) []
    | '-' :: '-' :: r => readClass n idle r (some (.diff, closeOperand pending items)) []
    | '~' :: '~' :: r => readClass n idle r (some (.symmDiff, closeOperand pending items)) []
    | r =>
      match readClassRange idle r with
      | some (s, rest) => readClass n idle rest pending (items ++ [s])
      | none => none

/-- A class after its opening bracket. -/
def readBracket (idle : Bool) (cs : List Char) : Option (CharClass × List Char) :=
  let (negated, first, r) := readClassStart idle cs
  (readClass (cs.length + 1) idle r none first).map fun (inner, rest) =>
    (.bracket negated inner, rest)

/-! ## Counts -/

/-- A decimal number with blank characters around it; `some none` if there is no digit. -/
def readDecimal (idle : Bool) (cs : List Char) : Option (Option Nat × List Char) :=
  let (digits, r) := readRun idle isDigit (cs.dropWhile isBlank)
  let rest := (readRun idle isBlank r).2
  if digits.isEmpty then some (none, rest)
  else if digitsValue digits < UInt32.size then some (some (digitsValue digits), rest)
  else none

/-- A repetition that prefers few rounds is written with a question mark after it. -/
def skipLazy : List Char → List Char
  | '?' :: r => r
  | cs => cs

/-- A count in braces, after the opening one: the least and the greatest number of rounds. -/
def readCount (idle : Bool) (cs : List Char) : Option (Nat × Option Nat × List Char) := do
  let (least, r) ← readDecimal idle (skipIdle idle cs)
  let least ← least
  let close (greatest : Option Nat) : List Char → Option (Nat × Option Nat × List Char)
    | '\x7d' :: r =>
      if greatest.any (· < least) then none
      else some (least, greatest, skipLazy (skipIdle idle r))
    | _ => none
  match r with
  | ',' :: r' =>
    match skipIdle idle r' with
    | '\x7d' :: r'' => close none ('\x7d' :: r'')
    | r'' => do
      let (greatest, rest) ← readDecimal idle r''
      let greatest ← greatest
      close (some greatest) rest
  | _ => close (some least) r

/-- The repetition that begins with the given character, and the rounds it asks for. -/
def readRepetition (idle : Bool) (c : Char) (cs : List Char) :
    Option (Nat × Option Nat × List Char) :=
  match c with
  | '?' => some (0, some 1, skipLazy cs)
  | '*' => some (0, none, skipLazy cs)
  | '+' => some (1, none, skipLazy cs)
  | _ => readCount idle cs

/-- The items with the last one repeated; there has to be one that can be. -/
def repeatLast (items : List Expression) (min : Nat) (max : Option Nat) :
    Option (List Expression) :=
  match items.getLast? with
  | none | some (.flags _) => none
  | some e => some (items.dropLast ++ [.repeated e min max])

/-! ## Groups -/

def flagOf? : Char → Option Flag
  | 'i' => some .ignoreCase
  | 'm' => some .multiLine
  | 's' => some .dotAll
  | 'U' => some .swapGreed
  | 'u' => some .unicode
  | 'R' => some .crlf
  | 'x' => some .idleSpace
  | _ => none

/-- Flags up to a colon or a parenthesis, each once; those after a hyphen are cleared. -/
def readFlags (seen : List Flag) (on dangling : Bool) :
    List Char → Option (FlagEdits × Char × List Char)
  | [] => none
  | c :: r =>
    if c = ':' || c = ')' then if dangling then none else some ([], c, r)
    else if c = '-' then if on then readFlags seen false true r else none
    else match flagOf? c with
      | none => none
      | some flag =>
        if seen.contains flag then none
        else (readFlags (flag :: seen) on false r).map fun (edits, close, rest) =>
          ((flag, on) :: edits, close, rest)

/-- What holds at a place of a pattern: whether idle text is passed over, and the names of the
groups so far. -/
structure Scope where
  idle : Bool
  names : List (List Char)

def Scope.start : Scope := { idle := false, names := [] }

/-- The scope after edits of the flags. -/
def Scope.edited (s : Scope) (edits : FlagEdits) : Scope :=
  { s with idle := (edits.lookup .idleSpace).getD s.idle }

def isNameStart (c : Char) : Bool := c == '_' || isAlphabetic c

def isNameChar (c : Char) : Bool :=
  c == '_' || c == '.' || c == '[' || c == ']' || isAlphabetic c || isNumeric c

/-- The name of a group, which no other group has, and what follows its closing bracket. -/
def readGroupName (names : List (List Char)) (cs : List Char) :
    Option (List Char × List Char) :=
  let name := cs.takeWhile (· != '>')
  match name, cs.dropWhile (· != '>') with
  | first :: others, '>' :: rest =>
    if isNameStart first && others.all isNameChar && !names.contains name then some (name, rest)
    else none
  | _, _ => none

/-- What an opening parenthesis begins: flags for what follows, or a group. -/
inductive Opening where
  | directive (edits : FlagEdits)
  | group (edits : FlagEdits) (names : List (List Char))

/-- What follows an opening parenthesis. -/
def readOpening (scope : Scope) (cs : List Char) : Option (Opening × List Char) :=
  let named (r : List Char) := (readGroupName scope.names r).map fun (name, rest) =>
    (Opening.group [] (name :: scope.names), rest)
  match skipIdle scope.idle cs with
  | '?' :: '=' :: _ | '?' :: '!' :: _ | '?' :: '<' :: '=' :: _ | '?' :: '<' :: '!' :: _ => none
  | '?' :: 'P' :: '<' :: r | '?' :: '<' :: r => named r
  | '?' :: r =>
    match readFlags [] true false r with
    | some ([], ')', _) => none
    | some (edits, ')', rest) => some (.directive edits, rest)
    | some (edits, _, rest) => some (.group edits scope.names, rest)
    | none => none
  | r => some (.group [] scope.names, r)

/-! ## Patterns -/

def isRepetition (c : Char) : Bool := c == '?' || c == '*' || c == '+' || c == '\x7b'

/-- The branches read so far, the last of them from its items. -/
def closeBranches (branches : List Expression) (items : List Expression) : Expression :=
  .oneOf (branches ++ [.inSequence items])

/-- A single character that is neither a parenthesis, a bracket nor a repetition, or an escape. -/
def readAtom (idle : Bool) (c : Char) (cs : List Char) : Option (Expression × List Char) :=
  match c with
  | '\\' => readEscape idle cs
  | '.' => some (.dot, cs)
  | '^' => some (.anchor .lineStart, cs)
  | '$' => some (.anchor .lineEnd, cs)
  | _ => some (.literal c false, cs)

/-- A pattern up to the end of the text or a closing parenthesis, which is left. -/
def readBody : Nat → Scope → List Char → List Expression → List Expression →
    Option (Expression × Scope × List Char)
  | 0, _, _, _, _ => none
  | n + 1, scope, cs, branches, items =>
    match skipIdle scope.idle cs with
    | [] => some (closeBranches branches items, scope, [])
    | c :: r =>
      if c = ')' then some (closeBranches branches items, scope, c :: r)
      else if c = '|' then readBody n scope r (branches ++ [.inSequence items]) []
      else if c = '(' then
        match readOpening scope r with
        | none => none
        | some (.directive edits, rest) =>
          readBody n (scope.edited edits) rest branches (items ++ [.flags edits])
        | some (.group edits names, rest) =>
          match readBody n ({ scope with names := names }.edited edits) rest [] [] with
          | some (inner, scope', ')' :: rest') =>
            readBody n { scope with names := scope'.names } rest' branches
              (items ++ [.group edits inner])
          | _ => none
      else if c = '[' then
        match readBracket scope.idle r with
        | some (s, rest) => readBody n scope rest branches (items ++ [.charClass s])
        | none => none
      else if isRepetition c then
        match readRepetition scope.idle c r with
        | some (min, max, rest) =>
          match repeatLast items min max with
          | some items' => readBody n scope rest branches items'
          | none => none
        | none => none
      else
        match readAtom scope.idle c r with
        | some (e, rest) => readBody n scope rest branches (items ++ [e])
        | none => none

def depthLimit : Nat := 250

/-- The expression that a text writes. -/
def readChars (cs : List Char) : Option Expression :=
  match readBody (cs.length + 1) .start cs [] [] with
  | some (e, _, []) => if e.depth ≤ depthLimit then some e else none
  | _ => none

def read (s : String) : Option Expression := readChars s.toList

end GitPractice.Regex
