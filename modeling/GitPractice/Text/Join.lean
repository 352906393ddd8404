/-!
# Joining and cutting texts

`joinWith` puts a separator between texts. `cutAt` cuts a text at the first place where a pattern
stands and leaves the pattern out, so the two parts and the pattern are the text again
(`eq_of_cutAt`).
-/

namespace GitPractice.Text

/-- The texts in order with `sep` between any two neighbours. -/
def joinWith (sep : String) : List String → String
  | [] => ""
  | [s] => s
  | s :: t :: r => s ++ sep ++ joinWith sep (t :: r)

/-- What follows `pattern` in a text that begins with it. -/
def dropFront? : List Char → List Char → Option (List Char)
  | [], cs => some cs
  | _ :: _, [] => none
  | p :: ps, c :: cs => if p = c then dropFront? ps cs else none

/-- The parts before and after the first occurrence of `pattern`. -/
def cutAt (pattern : List Char) : List Char → Option (List Char × List Char)
  | [] => if pattern = [] then some ([], []) else none
  | c :: cs =>
    match dropFront? pattern (c :: cs) with
    | some rest => some ([], rest)
    | none => (cutAt pattern cs).map fun (a, b) => (c :: a, b)

def hasInfix (pattern cs : List Char) : Bool := (cutAt pattern cs).isSome

/-- The pieces between the occurrences of `sep`; one more than there are occurrences. -/
def piecesAt (sep : Char) : List Char → List (List Char)
  | [] => [[]]
  | c :: cs =>
    if c = sep then [] :: piecesAt sep cs
    else match piecesAt sep cs with
      | [] => [[c]]
      | p :: ps => (c :: p) :: ps

theorem eq_of_dropFront? {p cs r : List Char} (h : dropFront? p cs = some r) : cs = p ++ r := by
  fun_induction dropFront? p cs <;> simp_all

theorem eq_of_cutAt {p cs a b : List Char} (h : cutAt p cs = some (a, b)) : cs = a ++ p ++ b := by
  fun_induction cutAt p cs generalizing a b with
  | case1 h1 => simp_all
  | case2 => simp at h
  | case3 c cs rest hr => simp_all [eq_of_dropFront? hr]
  | case4 c cs hr ih =>
    obtain ⟨⟨a', b'⟩, h', he⟩ := Option.map_eq_some_iff.1 h
    simp only [Prod.mk.injEq] at he
    obtain ⟨rfl, rfl⟩ := he
    simp [ih h']

end GitPractice.Text
