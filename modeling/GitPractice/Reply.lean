import GitPractice.Text.Join

/-!
# Replies

Every command answers with a `Reply`: whether it succeeded, what it printed, a message and hints.
A session ends on the one message that is reserved for it (`Reply.isExit`).

A call that draws an id may go on drawing for ever. What comes back from such a call is a
`Response`, which need not hold a reply: a call that does not return has neither succeeded nor
failed.
-/

namespace GitPractice

open GitPractice.Text (joinWith)

structure Reply where
  success : Bool
  message : String
  output : Option String
  hints : List String
  deriving DecidableEq, Repr

namespace Reply

/-- The message that ends a session. -/
def exitMessage : String := "__EXIT__"

/-- Success without a word. -/
def ok : Reply := ⟨true, "", none, []⟩

/-- Success with output. -/
def printed (text : String) : Reply := ⟨true, "", some text, []⟩

/-- Success with a message. -/
def told (message : String) : Reply := ⟨true, message, none, []⟩

def failed (message : String) : Reply := ⟨false, message, none, []⟩

def exit : Reply := told exitMessage

def withHint (r : Reply) (hint : String) : Reply := { r with hints := r.hints ++ [hint] }

def withOutput (r : Reply) (text : String) : Reply := { r with output := some text }

/-- The session is to end. -/
def isExit (r : Reply) : Bool := r.message == exitMessage

/-- The output, if there is any text in it. -/
def shownOutput (r : Reply) : List String := r.output.toList.filter (· ≠ "")

/-- All that is shown: output, message and hints. -/
def render (r : Reply) : String :=
  joinWith "\n" <|
    r.shownOutput ++ (if r.message = "" || r.isExit then [] else [r.message])
      ++ r.hints.map ("hint: " ++ ·)

end Reply

/-- What comes back from a call: its reply, or nothing if the call never returns. -/
abbrev Response := Option Reply

namespace Response

/-- The call returned, and it succeeded. -/
def succeeded (a : Response) : Bool := a.any (·.success)

/-- The call returned, and it failed. -/
def failed (a : Response) : Bool := a.any (!·.success)

@[simp] theorem succeeded_none : succeeded none = false := rfl

@[simp] theorem succeeded_some (r : Reply) : succeeded (some r) = r.success := rfl

@[simp] theorem failed_none : failed none = false := rfl

@[simp] theorem failed_some (r : Reply) : failed (some r) = !r.success := rfl

/-- No call both fails and succeeds. -/
theorem succeeded_of_failed {a : Response} (h : failed a = true) : succeeded a = false := by
  cases a with
  | none => rfl
  | some r => simpa using h

theorem failed_eq_of_map {a b : Response} (h : a.map Reply.success = b.map Reply.success) :
    failed a = failed b := by
  have hmap (c : Response) : failed c = (c.map Reply.success).any not := by cases c <;> rfl
  rw [hmap, hmap, h]

end Response

/-- The outcome of a call that returned. -/
def returning {α : Type} (out : α × Reply) : α × Response := (out.1, some out.2)

@[simp] theorem returning_fst {α : Type} (out : α × Reply) : (returning out).1 = out.1 := rfl

@[simp] theorem returning_snd {α : Type} (out : α × Reply) : (returning out).2 = some out.2 := rfl

end GitPractice
