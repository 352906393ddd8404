import GitPractice.Regex.Expression
import GitPractice.Regex.Pattern
import GitPractice.Text.Property

/-!
# What an expression means

`Expression.toPattern?` gives an expression its meaning under flags, which it threads through the
expression: a flag holds up to the end of the group that sets it, across branches too. An expression
may have no meaning, as when it asks for a property that there is not, or for bytes that are no
text. One may also be too large to be compiled; how large that is belongs to the engine that
compiles it, and is left open here (`SizeLimit`).

Letters that differ in case only are alike under `ignoreCase`. A class in brackets is closed under
case before it is negated.
-/

namespace GitPractice.Regex

open Text (inRanges isBlank isDecimalDigit isWordChar caseVariants namedClass? valuedClass?)

structure Flags where
  ignoreCase : Bool
  multiLine : Bool
  dotAll : Bool
  unicode : Bool
  crlf : Bool
  deriving DecidableEq, Repr

namespace Flags

/-- The flags that a pattern starts with when case is not to count. -/
def caseless : Flags :=
  { ignoreCase := true, multiLine := false, dotAll := false, unicode := true, crlf := false }

def edit (f : Flags) : Flag × Bool → Flags
  | (.ignoreCase, on) => { f with ignoreCase := on }
  | (.multiLine, on) => { f with multiLine := on }
  | (.dotAll, on) => { f with dotAll := on }
  | (.unicode, on) => { f with unicode := on }
  | (.crlf, on) => { f with crlf := on }
  | (.swapGreed, _) | (.idleSpace, _) => f

def edited (f : Flags) (edits : FlagEdits) : Flags := edits.foldl edit f

end Flags

/-! ## Classes -/

abbrev CharSet := Char → Bool

/-- The other letter of an ASCII pair. -/
def asciiVariants (c : Char) : List Char := [c, c.toUpper, c.toLower]

/-- The characters that are `c` but for case. -/
def variants (f : Flags) (c : Char) : List Char :=
  if f.unicode then c :: (caseVariants c.toNat).map Char.ofNat else asciiVariants c

/-- The set closed under case, if case does not count. -/
def closed (f : Flags) (s : CharSet) : CharSet :=
  if f.ignoreCase then fun c => (variants f c).any s else s

/-- The complement if asked for. Without Unicode it would hold bytes that are no text. -/
def negatedIf? (f : Flags) (negated : Bool) (s : CharSet) : Option CharSet :=
  if negated then if f.unicode then some fun c => !s c else none else some s

def Shorthand.set (f : Flags) : Shorthand → CharSet
  | .digit => if f.unicode then isDecimalDigit else inRanges [(0x30, 0x39)]
  | .space => if f.unicode then isBlank else inRanges [(9, 13), (0x20, 0x20)]
  | .word => if f.unicode then isWordChar
    else inRanges [(0x30, 0x39), (0x41, 0x5a), (0x5f, 0x5f), (0x61, 0x7a)]

def ClassName.set? : ClassName → Option CharSet
  | .named name => namedClass? name
  | .valued name value => valuedClass? name value

def SetOp.apply (kind : SetOp) (s t : CharSet) : CharSet := fun c =>
  match kind with
  | .inter => s c && t c
  | .diff => s c && !t c
  | .symmDiff => s c != t c

namespace CharClass

mutual

def set? (f : Flags) : CharClass → Option CharSet
  | .empty => some fun _ => false
  | .range first last =>
    if f.unicode || last.toNat < 128 then some fun c => first ≤ c && c ≤ last else none
  | .shorthand kind negated => negatedIf? f negated (kind.set f)
  | .ascii ranges negated => negatedIf? f negated (closed f (inRanges ranges))
  | .property name negated =>
    if f.unicode then name.set?.bind fun s => negatedIf? f negated (closed f s) else none
  | .union items => unionOf? f items
  | .op kind left right => do
    let s ← set? f left
    let t ← set? f right
    some (kind.apply (closed f s) (closed f t))
  | .bracket negated inner => do
    let s ← set? f inner
    negatedIf? f negated (closed f s)

def unionOf? (f : Flags) : List CharClass → Option CharSet
  | [] => some fun _ => false
  | item :: r => do
    let s ← set? f item
    let t ← unionOf? f r
    some fun c => s c || t c

end

end CharClass

/-! ## Single characters and places -/

/-- A character that stands for itself. The number of a byte beyond ASCII is no text without
Unicode. -/
def literalPattern? (f : Flags) (c : Char) (asByte : Bool) : Option Pattern :=
  if f.unicode then some (.one (closed f (· == c)))
  else if asByte && 128 ≤ c.toNat then none
  else some (.one (if c.toNat < 128 then closed f (· == c) else (· == c)))

def dotPattern? (f : Flags) : Option Pattern :=
  if f.unicode then
    some (.one fun c => f.dotAll || (c != '\n' && !(f.crlf && c == '\r')))
  else none

def atTextStart : Place := fun before _ => before.isNone

def atTextEnd : Place := fun _ after => after.isNone

def atLineStart (crlf : Bool) : Place := fun before after =>
  before.isNone || before == some '\n' ||
    (crlf && before == some '\r' && after != some '\n')

def atLineEnd (crlf : Bool) : Place := fun before after =>
  after.isNone || (if crlf then after == some '\r' || (after == some '\n' && before != some '\r')
    else after == some '\n')

def anchorPlace (f : Flags) (kind : Anchor) : Place :=
  let isWord (c : Option Char) : Bool := c.any (Shorthand.word.set f)
  match kind with
  | .lineStart => if f.multiLine then atLineStart f.crlf else atTextStart
  | .lineEnd => if f.multiLine then atLineEnd f.crlf else atTextEnd
  | .textStart => atTextStart
  | .textEnd => atTextEnd
  | .wordBoundary => fun before after => isWord before != isWord after
  | .notWordBoundary => fun before after => isWord before == isWord after
  | .wordStart => fun before after => !isWord before && isWord after
  | .wordEnd => fun before after => isWord before && !isWord after
  | .wordStartHalf => fun before _ => !isWord before
  | .wordEndHalf => fun _ after => !isWord after

/-! ## Expressions -/

namespace Expression

mutual

/-- The meaning of an expression under the flags, and the flags that hold after it. -/
def toPattern? (f : Flags) : Expression → Option (Pattern × Flags)
  | .empty => some (.empty, f)
  | .literal c asByte => (literalPattern? f c asByte).map (·, f)
  | .dot => (dotPattern? f).map (·, f)
  | .anchor kind => some (.look (anchorPlace f kind), f)
  | .charClass set => (set.set? f).map fun s => (.one s, f)
  | .flags edits => some (.empty, f.edited edits)
  | .group edits inner => (toPattern? (f.edited edits) inner).map fun r => (r.1, f)
  | .repeated inner min max =>
    (toPattern? f inner).map fun r => (.repeated r.1 min max, r.2)
  | .seq items => sequence? f items
  | .alt branches => choice? f branches

def sequence? (f : Flags) : List Expression → Option (Pattern × Flags)
  | [] => some (.empty, f)
  | e :: r => do
    let (p, f') ← toPattern? f e
    let (q, f'') ← sequence? f' r
    some (.seq p q, f'')

def choice? (f : Flags) : List Expression → Option (Pattern × Flags)
  | [] => some (.empty, f)
  | [e] => toPattern? f e
  | e :: r => do
    let (p, f') ← toPattern? f e
    let (q, f'') ← choice? f' r
    some (.alt p q, f'')

end

end Expression

/-- The pattern that an expression stands for when case does not count. -/
def Expression.caseless? (e : Expression) : Option Pattern := (e.toPattern? .caseless).map (·.1)

/-! ## Size -/

/-- The room there is for a pattern that is compiled: which expressions fit, case aside. -/
class SizeLimit where
  fits : Expression → Bool

namespace SizeLimit

/-- There is room for every expression. -/
scoped instance unbounded : SizeLimit := ⟨fun _ => true⟩

end SizeLimit

end GitPractice.Regex
