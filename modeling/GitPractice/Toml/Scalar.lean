import GitPractice.Datum
import GitPractice.Text.Hex
import GitPractice.Text.Join

/-!
# Numbers, words and dates in TOML

A value without quotes or brackets is a run of letters, digits and a few signs, which has to be a
truth value, a number, a date or a time. Whole numbers have 64 bits with a sign. A number with a
fraction or an exponent is not used by any record, but one above the greatest double is an error.

A date is a table with one entry of a name that no record has.
-/

namespace GitPractice.Toml

open Text (isDigit isDigits digitsValue digitsIn hexValue? dropFront?)

/-- Digits between which single underscores may stand; the digits alone. -/
def spacedDigits? (isDigit : Char → Bool) : List Char → Option (List Char)
  | [] => none
  | [c] => if isDigit c then some [c] else none
  | c :: '_' :: r => if isDigit c then (spacedDigits? isDigit r).map (c :: ·) else none
  | c :: r => if isDigit c then (spacedDigits? isDigit r).map (c :: ·) else none

/-! ## Whole numbers -/

/-- A whole number in one of the bases that a letter after a zero names. -/
def basedNumber? (base : Nat) (cs : List Char) : Option Nat := do
  let digits ← spacedDigits? (fun c => (hexValue? c).any (· < base)) cs
  let values ← digits.mapM hexValue?
  some (digitsIn base values)

/-- The sign in front, and what follows it. -/
def splitSign : List Char → Bool × List Char
  | '+' :: r => (false, r)
  | '-' :: r => (true, r)
  | cs => (false, cs)

/-- Decimal digits of which the first is zero only if it is alone. -/
def wholeDigits? (cs : List Char) : Option (List Char) :=
  match cs with
  | '0' :: _ :: _ => none
  | _ => spacedDigits? isDigit cs

def integer? (cs : List Char) : Option Int :=
  let value : Option Int := match cs with
    | '0' :: 'x' :: r => (basedNumber? 16 r).map Int.ofNat
    | '0' :: 'o' :: r => (basedNumber? 8 r).map Int.ofNat
    | '0' :: 'b' :: r => (basedNumber? 2 r).map Int.ofNat
    | _ =>
      let (negative, r) := splitSign cs
      (wholeDigits? r).map fun digits =>
        if negative then -(digitsValue digits : Int) else digitsValue digits
  match value with
  | some n => if Int64.minValue.toInt ≤ n && n ≤ Int64.maxValue.toInt then some n else none
  | none => none

/-! ## Other numbers -/

/-- The exponent after its letter. -/
def exponent? (cs : List Char) : Option Int :=
  let (negative, r) := splitSign cs
  (spacedDigits? isDigit r).map fun digits =>
    if negative then -(digitsValue digits : Int) else digitsValue digits

def isExponentMark (c : Char) : Bool := c == 'e' || c == 'E'

/-- The digits before and after the point, and the exponent. A point or an exponent is there. -/
def decimal? (cs : List Char) : Option (List Char × List Char × Int) := do
  let mantissa := cs.takeWhile (!isExponentMark ·)
  let power ← match cs.dropWhile (!isExponentMark ·) with
    | [] => some 0
    | _ :: r => exponent? r
  let whole ← wholeDigits? (mantissa.takeWhile (· != '.'))
  match mantissa.dropWhile (· != '.') with
  | [] => if mantissa.length < cs.length then some (whole, [], power) else none
  | _ :: r => (spacedDigits? isDigit r).map fun digits => (whole, digits, power)

/-- The number of `digits` times ten to the `power` rounds to a value above the greatest double. -/
def overflows (digits : List Char) (power : Int) : Bool :=
  let n := digitsValue digits
  let bound := Nat.pow 2 1024 - Nat.pow 2 970
  if n = 0 then false
  else if 0 ≤ power then 400 ≤ power || bound ≤ n * Nat.pow 10 power.toNat
  else power ≥ -(digits.length : Int) && bound * Nat.pow 10 (-power).toNat ≤ n

/-- A number with a fraction or an exponent, an infinity or no number. -/
def isFloat (cs : List Char) : Bool :=
  let (negative, r) := splitSign cs
  r == "inf".toList || r == "nan".toList ||
    match decimal? r with
    | some (whole, fraction, power) =>
      negative || !overflows (whole ++ fraction) (power - fraction.length)
    | none => false

/-! ## Dates and times -/

def isLeapYear (y : Nat) : Bool := y % 4 == 0 && (y % 100 != 0 || y % 400 == 0)

def daysInMonth (y m : Nat) : Nat :=
  if m = 2 then if isLeapYear y then 29 else 28
  else if m = 4 || m = 6 || m = 9 || m = 11 then 30
  else 31

/-- Two digits with a value of at most `greatest`. -/
def isTwoDigits (greatest : Nat) (a b : Char) : Bool :=
  isDigits [a, b] && digitsValue [a, b] ≤ greatest

/-- What follows a date. -/
def skipDate? : List Char → Option (List Char)
  | a :: b :: c :: d :: '-' :: e :: f :: '-' :: g :: h :: r =>
    if isDigits [a, b, c, d, e, f, g, h] then
      let month := digitsValue [e, f]
      let day := digitsValue [g, h]
      if 1 ≤ month && month ≤ 12 && 1 ≤ day && day ≤ daysInMonth (digitsValue [a, b, c, d]) month
      then some r else none
    else none
  | _ => none

/-- What follows a time of day; a minute may have a leap second. -/
def skipTime? : List Char → Option (List Char)
  | a :: b :: ':' :: c :: d :: ':' :: e :: f :: r =>
    if isTwoDigits 23 a b && isTwoDigits 59 c d && isTwoDigits 60 e f then
      match r with
      | '.' :: g :: r' => if isDigit g then some (r'.dropWhile isDigit) else none
      | '.' :: [] => none
      | _ => some r
    else none
  | _ => none

/-- The distance of a time from the universal one. -/
def isOffset : List Char → Bool
  | [] => true
  | ['Z'] => true
  | ['z'] => true
  | [s, a, b, ':', c, d] => (s == '+' || s == '-') && isTwoDigits 23 a b && isTwoDigits 59 c d
  | _ => false

/-- A date, a time, or a date and a time with or without an offset. -/
def isDateTime (cs : List Char) : Bool :=
  match skipDate? cs with
  | some [] => true
  | some (t :: r) =>
    (t == 'T' || t == 't' || t == ' ') && (skipTime? r).any isOffset
  | none => skipTime? cs == some []

/-! ## Scalars -/

def isScalarChar (c : Char) : Bool :=
  c.isAlphanum || c == '+' || c == '-' || c == '.' || c == '_' || c == ':'

/-- The run of a scalar. A space may part a date from the time that follows it. -/
def takeScalar (cs : List Char) : List Char × List Char :=
  let run := cs.takeWhile isScalarChar
  match cs.dropWhile isScalarChar with
  | ' ' :: d :: r =>
    if skipDate? run == some [] && isDigit d then
      (run ++ ' ' :: (d :: r).takeWhile isScalarChar, (d :: r).dropWhile isScalarChar)
    else (run, ' ' :: d :: r)
  | r => (run, r)

/-- The name of the only entry of a date. -/
def dateKey : String := "date-time"

def scalar? (cs : List Char) : Option Datum :=
  if cs == "true".toList then some (.bool true)
  else if cs == "false".toList then some (.bool false)
  else if isDateTime cs then some (.table [(dateKey, .text (String.ofList cs))])
  else if isFloat cs then some .other
  else (integer? cs).map .integer

def readScalar (cs : List Char) : Option (Datum × List Char) :=
  let (run, rest) := takeScalar cs
  (scalar? run).map (·, rest)

end GitPractice.Toml
