import GitPractice.Datum
import GitPractice.OrderedMap

/-!
# Records in documents

A record is written as a table, whose fields may have more than one name, or as a list of its
fields in order. A field given twice is an error under whichever names; an unknown field is passed
over unless the record is closed. A field may be required, have a default, or be optional, and
then `null` says that it is absent.

The two formats differ in small ways only: what follows the last field of a record written as a
list, and how a name of an enumeration is written as a table.
-/

namespace GitPractice

inductive Format where
  | toml
  | json
  deriving DecidableEq, Repr

namespace Record

/-- The one value under any of the names; nothing if there are several. -/
def valueUnder (names : List String) (entries : List (String × Datum)) : Option (Option Datum) :=
  match entries.filter fun e => names.contains e.1 with
  | [] => some none
  | [e] => some (some e.2)
  | _ => none

/-- The values of the fields, each given by its names, in order. -/
def fields (format : Format) (names : List (List String)) : Datum → Option (List (Option Datum))
  | .table entries => names.mapM (valueUnder · entries)
  | .list items =>
    if format = .json && names.length < items.length then none
    else some ((List.range names.length).map (items[·]?))
  | _ => none

/-- As `fields`, for a record that has no other ones. -/
def closedFields (format : Format) (names : List (List String)) (d : Datum) :
    Option (List (Option Datum)) :=
  match d with
  | .table entries =>
    if entries.all fun e => names.flatten.contains e.1 then fields format names d else none
  | _ => fields format names d

/-! ## Values -/

def text : Datum → Option String
  | .text s => some s
  | _ => none

def word64 : Datum → Option UInt64
  | .integer n => if 0 ≤ n && n < UInt64.size then some (UInt64.ofNat n.toNat) else none
  | _ => none

variable {α : Type}

def list (item : Datum → Option α) : Datum → Option (List α)
  | .list items => items.mapM item
  | _ => none

def map (value : Datum → Option α) : Datum → Option (OrderedMap String α)
  | .table entries => (entries.mapM fun e => (value e.2).map (e.1, ·)).map .ofList
  | _ => none

/-- One of several names. -/
def choice (format : Format) (names : List (String × α)) : Datum → Option α
  | .text s => names.lookup s
  | .table [(s, d)] =>
    match format, d with
    | .json, .null | .toml, .list [] | .toml, .table [] => names.lookup s
    | _, _ => none
  | _ => none

/-! ## Fields -/

def required (value : Datum → Option α) : Option Datum → Option α
  | some d => value d
  | none => none

def orElse (default : α) (value : Datum → Option α) : Option Datum → Option α
  | some d => value d
  | none => some default

def optional (value : Datum → Option α) : Option Datum → Option (Option α)
  | some .null | none => some none
  | some d => (value d).map some

end Record

end GitPractice
