import GitPractice.OrderedMap

/-!
# Flags and positional words

The words after a command's name are cut into segments from left to right: a long flag with its
value behind an equals sign, a flag with the word after it as its value, a flag alone, or a
positional word. A word that starts with a dash is never taken as a value, and a lone dash is
positional. The flags form an ordered map, so a repeated flag keeps its first place and its last
value. The segments give back the words they were cut from (`spell_segments`).
-/

namespace GitPractice.Shell

/-- One flag or positional word as it is written. -/
inductive Segment where
  | assigned (name value : String)
  | valued (name value : String)
  | lone (name : String)
  | positional (word : String)
  deriving DecidableEq, Repr

/-- The word begins with a dash. -/
def isDashed (w : String) : Bool := w.toList.head? == some '-'

/-- The word begins with two dashes. -/
def isLong (w : String) : Bool :=
  match w.toList with
  | '-' :: '-' :: _ => true
  | _ => false

/-- The word is a flag: it begins with a dash and is more than one. -/
def isFlag (w : String) : Bool := isDashed w && w != "-"

/-- The parts before and after the first equals sign. -/
def cutEquals : List Char → Option (List Char × List Char)
  | [] => none
  | c :: cs => if c = '=' then some ([], cs) else (cutEquals cs).map fun (a, b) => (c :: a, b)

/-- Name and value of a long flag that holds an equals sign. -/
def assignment? (w : String) : Option (String × String) :=
  if isLong w then
    (cutEquals w.toList).map fun (a, b) => (String.ofList a, String.ofList b)
  else none

/-- The segments of a list of words. -/
def segments : List String → List Segment
  | [] => []
  | w :: rest =>
    match assignment? w with
    | some (name, value) => .assigned name value :: segments rest
    | none =>
      if isFlag w then
        match rest with
        | [] => [.lone w]
        | v :: rest' =>
          if isDashed v then .lone w :: segments (v :: rest') else .valued w v :: segments rest'
      else .positional w :: segments rest
termination_by ws => ws.length

/-- Flags with their values, in the order in which their names first came. -/
abbrev Flags := OrderedMap String (Option String)

namespace Segment

/-- The flag a segment gives. -/
def flag? : Segment → Option (String × Option String)
  | .assigned name value | .valued name value => some (name, some value)
  | .lone name => some (name, none)
  | .positional _ => none

def positional? : Segment → Option String
  | .positional word => some word
  | _ => none

/-- The words the segment is written with. -/
def spell : Segment → List String
  | .assigned name value => [name ++ "=" ++ value]
  | .valued name value => [name, value]
  | .lone name => [name]
  | .positional word => [word]

end Segment

/-- The flags and the positional words among the words after a command's name. -/
def splitFlags (ws : List String) : Flags × List String :=
  (OrderedMap.ofList ((segments ws).filterMap Segment.flag?),
    (segments ws).filterMap Segment.positional?)

theorem eq_of_cutEquals {cs a b : List Char} (h : cutEquals cs = some (a, b)) :
    cs = a ++ '=' :: b := by
  induction cs generalizing a b with
  | nil => simp [cutEquals] at h
  | cons c cs ih =>
    by_cases hc : c = '='
    · simp_all [cutEquals]
    · simp only [cutEquals, hc, if_false, Option.map_eq_some_iff, Prod.mk.injEq] at h
      obtain ⟨⟨a', b'⟩, h', rfl, rfl⟩ := h
      simp [ih h']

theorem eq_of_assignment? {w name value : String} (h : assignment? w = some (name, value)) :
    w = name ++ "=" ++ value := by
  unfold assignment? at h
  split at h
  · obtain ⟨⟨a, b⟩, h', he⟩ := Option.map_eq_some_iff.1 h
    simp only [Prod.mk.injEq] at he
    obtain ⟨rfl, rfl⟩ := he
    apply String.toList_inj.1
    simp [eq_of_cutEquals h']
  · simp at h

theorem spell_segments (ws : List String) : (segments ws).flatMap Segment.spell = ws := by
  fun_induction segments ws with
  | case1 => rfl
  | case2 w rest name value h ih => simp [Segment.spell, ih, eq_of_assignment? h]
  | case3 => simp [Segment.spell]
  | case4 w _ _ v rest' _ ih => simp [Segment.spell, ih]
  | case5 w _ _ v rest' _ ih => simp [Segment.spell, ih]
  | case6 w rest _ _ ih => simp [Segment.spell, ih]

end GitPractice.Shell
