import Mathlib.Data.List.Induction
import GitPractice.Proofs.Turn
import GitPractice.Proofs.WellFormed

/-!
# The course of a lesson

From its start on, where a lesson stands is told by counting the calls that leave a step
(`Course.Stands`): after `k` of them it is at step `k`, or past its end, completed and the course
idle. Each of them sets up the step that it reaches, and no other call touches the repository
(`Course.lesson_progress`). Attempts are the answers judged since the last of those calls, as a
number of 32 bits, so they are counted anew when there have been too many of them
(`Course.attempts_counted_again`).

What holds of the course does not depend on the repository, so this may become any other between
two calls; and other lessons may be registered.
-/

namespace GitPractice

/-- What happens to a course: the calls, and that the repository becomes another in between. -/
inductive Course.Call where
  | register (l : Lesson)
  | start (id : String)
  | judge (input : String)
  | advance
  | skip
  | hint
  | meanwhile (r : Repo)

namespace Course

namespace Call

/-- The call leaves the current step. -/
def moves : Call → Bool
  | .advance | .skip => true
  | _ => false

def judges : Call → Bool
  | .judge _ => true
  | _ => false

/-- The call starts no lesson, and registers none under this id. -/
def Spares (id : String) : Call → Prop
  | .start _ => False
  | .register l => l.id ≠ id
  | _ => True

end Call

section Calls

variable [Regex.SizeLimit]

/-- The course and the repository after a call. -/
def call (c : Course) (r : Repo) : Call → Course × Repo
  | .register l => (c.add l, r)
  | .start id => (c.start id r).1
  | .judge input => ((c.judge input).1, r)
  | .advance | .skip => c.advance r
  | .hint => (c, r)
  | .meanwhile r' => (c, r')

def callAll (p : Course × Repo) (calls : List Call) : Course × Repo :=
  calls.foldl (fun p call => p.1.call p.2 call) p

end Calls

/-- The answers judged since a step was last left. -/
def tries (calls : List Call) : Nat := (calls.reverse.takeWhile (!·.moves)).countP Call.judges

/-- A list of completed lessons with one more, which is put at the end if it is not there. -/
def noted (done : List String) (id : String) : List String :=
  if id ∈ done then done else done ++ [id]

end Course

/-- The files that are set up at a step; past the end there are none. -/
def Lesson.setupAt (l : Lesson) (k : Nat) : List String := l.steps[k]?.elim [] Step.setup

/-- The repository with which a lesson begins: the one that was there, or the lesson's own. -/
def Lesson.Seeds (l : Lesson) (r r' : Repo) : Prop :=
  match l.initial with
  | none => r' = r
  | some s => r.importState s = (r', .ok ())

theorem Repo.gains_nil (r : Repo) : Repo.Gains [] r r := gains_editAll [] r

theorem Lesson.setupAt_of_le {l : Lesson} {k : Nat} (h : l.steps.length ≤ k) :
    l.setupAt k = [] := by
  rw [setupAt, List.getElem?_eq_none h, Option.elim_none]

namespace Course

variable {c : Course} {id : String} {l : Lesson} {done : List String} {moved tried k : Nat}

theorem tries_append (calls : List Call) (call : Call) : tries (calls ++ [call])
    = if call.moves then 0 else tries calls + if call.judges then 1 else 0 := by
  rw [tries, tries, List.reverse_append, List.reverse_singleton, List.singleton_append]
  cases hmoves : call.moves
  · rw [List.takeWhile_cons_of_pos (by simp [hmoves]), List.countP_cons, if_neg Bool.false_ne_true]
  · rw [List.takeWhile_cons_of_neg (by simp [hmoves]), List.countP_nil, if_pos rfl]

/-! ## Entering a step -/

/-- Where a course stands that has started a lesson with these lessons completed, has left its
current step so many times, and judged so many answers since. -/
structure Stands (c : Course) (id : String) (l : Lesson) (done : List String) (moved tried : Nat) :
    Prop where
  lesson_eq : c.lessons.get? id = some l
  during : moved < l.steps.length →
    c.active = some ⟨id, moved⟩ ∧ c.completed = done ∧ c.attempts = UInt32.ofNat tried
  beyond : l.steps.length ≤ moved → c.active = none ∧ c.completed = noted done id

/-- The course when a step has been reached and nothing judged there. -/
def reached (c : Course) (id : String) (k : Nat) : Course :=
  { c with active := some ⟨id, k⟩, attempts := 0 }

theorem advance_of_active (h : c.active = some ⟨id, k⟩) (r : Repo) :
    c.advance r = (c.reached id (k + 1)).enter r := by
  rw [advance, h]
  rfl

theorem seed_eq_ok_iff {r r' : Repo} : seed l r = (r', .ok ()) ↔ l.Seeds r r' := by
  unfold seed Lesson.Seeds
  rcases l.initial with _ | s
  · simp [eq_comm]
  · exact Iff.rfl

theorem start_eq_ok {r : Repo} {begun : Course × Repo} {first : Option Step}
    (hl : c.lessons.get? id = some l) (h : c.start id r = (begun, .ok first)) :
    ∃ r', l.Seeds r r' ∧ begun = (c.reached id 0).enter r' ∧ first = begun.1.currentStep? := by
  rw [start, hl] at h
  rcases hseed : seed l r with ⟨r', e | _⟩
  · simp [hseed] at h
  · simp only [hseed, Prod.mk.injEq, Except.ok.injEq] at h
    obtain ⟨rfl, rfl⟩ := h
    exact ⟨r', seed_eq_ok_iff.1 hseed, rfl, rfl⟩

section Enter

variable (hl : c.lessons.get? id = some l)
include hl

theorem enter_of_lt (hk : k < l.steps.length) (r : Repo) :
    (c.reached id k).enter r = (c.reached id k, r.editAll (l.setupAt k)) := by
  have hstep : l.steps[k]? = some l.steps[k] := List.getElem?_eq_getElem hk
  simp [enter, reached, currentLesson?, currentStep?, Lesson.setupAt, hl, hstep]

theorem enter_of_le (hk : l.steps.length ≤ k) (r : Repo) :
    (c.reached id k).enter r = ((c.reached id k).complete, r) := by
  have hstep : l.steps[k]? = none := List.getElem?_eq_none hk
  simp [enter, reached, currentLesson?, currentStep?, hl, hstep]

theorem stands_enter (r : Repo) :
    ((c.reached id k).enter r).1.Stands id l c.completed k 0 := by
  by_cases hk : k < l.steps.length
  · rw [enter_of_lt hl hk]
    exact ⟨hl, fun _ => ⟨rfl, rfl, rfl⟩, fun hle => absurd hk (Nat.not_lt.2 hle)⟩
  · rw [enter_of_le hl (Nat.not_lt.1 hk)]
    exact ⟨hl, fun hlt => absurd hlt hk, fun _ => ⟨rfl, rfl⟩⟩

theorem gains_enter (r : Repo) : Repo.Gains (l.setupAt k) r ((c.reached id k).enter r).2 := by
  by_cases hk : k < l.steps.length
  · rw [enter_of_lt hl hk]
    exact Repo.gains_editAll (l.setupAt k) r
  · rw [enter_of_le hl (Nat.not_lt.1 hk), Lesson.setupAt_of_le (Nat.not_lt.1 hk)]
    exact Repo.gains_nil r

end Enter

/-! ## One call -/

theorem advance_of_idle (h : c.active = none) (r : Repo) : c.advance r = (c, r) := by
  rw [advance, h]

theorem currentStep?_of_idle (h : c.active = none) : c.currentStep? = none := by
  rw [currentStep?, h, Option.bind_none]

theorem judge_of_idle [Regex.SizeLimit] (h : c.active = none) (input : String) :
    (c.judge input).1 = c := by
  rw [judge, currentStep?_of_idle h]

namespace Stands

variable (h : c.Stands id l done moved tried)
include h

theorem currentStep?_eq {step : Step} (hstep : l.steps[moved]? = some step) :
    c.currentStep? = some step := by
  obtain ⟨hactive, -⟩ := h.during (List.getElem?_eq_some_iff.1 hstep).1
  simp only [currentStep?, hactive, h.lesson_eq, Option.bind_some, hstep]

theorem progress?_eq (hmoved : moved < l.steps.length) :
    c.progress? = some (moved + 1, l.steps.length) := by
  obtain ⟨hactive, -⟩ := h.during hmoved
  simp only [progress?, hactive, h.lesson_eq, Option.bind_some, Option.map_some]

theorem advance (r : Repo) : (c.advance r).1.Stands id l done (moved + 1) 0
    ∧ Repo.Gains (l.setupAt (moved + 1)) r (c.advance r).2 := by
  by_cases hmoved : moved < l.steps.length
  · obtain ⟨hactive, hcompleted, -⟩ := h.during hmoved
    rw [advance_of_active hactive, ← hcompleted]
    exact ⟨stands_enter h.lesson_eq r, gains_enter h.lesson_eq r⟩
  · -- Past the end there is no step to leave.
    obtain ⟨hactive, hcompleted⟩ := h.beyond (Nat.not_lt.1 hmoved)
    rw [advance_of_idle hactive, Lesson.setupAt_of_le (by omega)]
    exact ⟨⟨h.lesson_eq, fun hlt => by omega, fun _ => ⟨hactive, hcompleted⟩⟩,
      Repo.gains_nil r⟩

theorem judge [Regex.SizeLimit] (input : String) :
    (c.judge input).1.Stands id l done moved (tried + 1) := by
  by_cases hmoved : moved < l.steps.length
  · obtain ⟨hactive, hcompleted, hattempts⟩ := h.during hmoved
    rw [judge_course (h.currentStep?_eq (List.getElem?_eq_getElem hmoved))]
    refine ⟨h.lesson_eq, fun _ => ⟨hactive, hcompleted, ?_⟩,
      fun hle => absurd hmoved (Nat.not_lt.2 hle)⟩
    rw [UInt32.ofNat_add, ← hattempts]
    rfl
  · obtain ⟨hactive, hcompleted⟩ := h.beyond (Nat.not_lt.1 hmoved)
    rw [judge_of_idle hactive]
    exact ⟨h.lesson_eq, fun hlt => absurd hlt hmoved, fun _ => ⟨hactive, hcompleted⟩⟩

theorem register {other : Lesson} (hother : other.id ≠ id) :
    (c.add other).Stands id l done moved tried := by
  refine ⟨?_, h.during, h.beyond⟩
  rw [add, OrderedMap.get?_insert, if_neg hother, h.lesson_eq]

theorem call [Regex.SizeLimit] {call : Call} (hspares : call.Spares id) (r : Repo) :
    (c.call r call).1.Stands id l done (moved + if call.moves then 1 else 0)
      (if call.moves then 0 else tried + if call.judges then 1 else 0) := by
  cases call with
  | register other => exact h.register hspares
  | start other => exact hspares.elim
  | judge input => exact h.judge input
  | advance => exact (h.advance r).1
  | skip => exact (h.advance r).1
  | hint => exact h
  | meanwhile r' => exact h

/-- Only the calls that leave a step have an effect on the repository. -/
theorem gains_call [Regex.SizeLimit] {call : Call} (hspares : call.Spares id)
    (hcall : ∀ r', call ≠ .meanwhile r') (r : Repo) :
    Repo.Gains (if call.moves then l.setupAt (moved + 1) else []) r (c.call r call).2 := by
  cases call with
  | start other => exact hspares.elim
  | advance => exact (h.advance r).2
  | skip => exact (h.advance r).2
  | register other => exact Repo.gains_nil r
  | judge input => exact Repo.gains_nil r
  | hint => exact Repo.gains_nil r
  | meanwhile r' => exact absurd rfl (hcall r')

end Stands

/-! ## All calls -/

theorem count_noted (h : done.Nodup) (id : String) : (noted done id).count id = 1 := by
  have hnodup : (noted done id).Nodup := nodup_noted h id
  refine List.count_eq_one_of_mem hnodup ?_
  unfold noted
  split_ifs with hid
  · exact hid
  · simp

/-- Entering a step leaves the course as it is or completes the lesson. -/
theorem fst_enter (c : Course) (r : Repo) : (c.enter r).1 = c ∨ (c.enter r).1 = c.complete := by
  unfold enter
  split
  · exact .inl rfl
  · split
    · exact .inl rfl
    · exact .inr rfl

theorem nodup_enter (h : c.completed.Nodup) (r : Repo) : (c.enter r).1.completed.Nodup := by
  rcases fst_enter c r with heq | heq
  · rwa [heq]
  · rw [heq, complete]
    split
    · exact nodup_noted h _
    · exact h

section Calls

variable [Regex.SizeLimit]

theorem callAll_append (p : Course × Repo) (calls : List Call) (call : Call) :
    callAll p (calls ++ [call]) = (callAll p calls).1.call (callAll p calls).2 call := by
  rw [callAll, List.foldl_append, List.foldl_cons, List.foldl_nil]
  rfl

theorem Stands.callAll {p : Course × Repo} (h : p.1.Stands id l done 0 0) {calls : List Call}
    (hspares : ∀ call ∈ calls, call.Spares id) :
    (callAll p calls).1.Stands id l done (calls.countP Call.moves) (tries calls) := by
  induction calls using List.reverseRecOn with
  | nil => exact h
  | append_singleton calls call ih =>
    have hlast : call.Spares id := hspares call (by simp)
    have hinit := ih fun call' hcall' => hspares call' (List.mem_append_left _ hcall')
    rw [callAll_append, List.countP_append, List.countP_singleton, tries_append]
    exact hinit.call hlast _

theorem nodup_call (h : c.completed.Nodup) (r : Repo) (call : Call) :
    (c.call r call).1.completed.Nodup := by
  have hadvance : (c.advance r).1.completed.Nodup := by
    rcases hactive : c.active with _ | a
    · rw [advance_of_idle hactive]
      exact h
    · rw [advance_of_active hactive]
      exact nodup_enter (c := c.reached a.lesson (a.step + 1)) h r
  cases call with
  | register other => exact h
  | advance => exact hadvance
  | skip => exact hadvance
  | hint => exact h
  | meanwhile r' => exact h
  | judge input =>
    rw [Course.call, Course.judge]
    split
    · exact h
    · exact h
  | start id =>
    rw [Course.call, start]
    split
    · exact h
    · split
      · exact h
      · exact nodup_enter (c := c.reached id 0) h _

/-- No lesson is completed twice. -/
theorem nodup_callAll : ∀ (calls : List Call) {p : Course × Repo}, p.1.completed.Nodup →
    (callAll p calls).1.completed.Nodup
  | [], _, h => h
  | call :: calls, p, h => nodup_callAll calls (nodup_call h p.2 call)

/-- Where a lesson stands that was started in any course, after whatever followed but a start and
another lesson under its id. -/
theorem lesson_progress (r₀ : Repo) (earlier : List Call) {begun : Course × Repo}
    {first : Option Step} (hl : (callAll (empty, r₀) earlier).1.lessons.get? id = some l)
    (hstart : (callAll (empty, r₀) earlier).1.start id (callAll (empty, r₀) earlier).2
      = (begun, .ok first))
    {later : List Call} (hlater : ∀ call ∈ later, call.Spares id) :
    let before := callAll (empty, r₀) earlier
    let now := callAll begun later
    let k := later.countP Call.moves
    (∀ step, l.steps[k]? = some step →
      now.1.active = some ⟨id, k⟩ ∧ now.1.currentStep? = some step
        ∧ now.1.progress? = some (k + 1, l.steps.length)
        ∧ now.1.completed = before.1.completed ∧ now.1.attempts = UInt32.ofNat (tries later)
        ∧ (tries later < UInt32.size → now.1.attempts.toNat = tries later))
    ∧ (l.steps.length ≤ k →
      now.1.active = none ∧ now.1.currentStep? = none ∧ now.1.progress? = none
        ∧ now.1.completed = noted before.1.completed id ∧ now.1.completed.count id = 1
        ∧ ∀ r, now.1.advance r = (now.1, r))
    ∧ (∃ r, l.Seeds before.2 r ∧ Repo.Gains (l.setupAt 0) r begun.2)
    ∧ ∀ call : Call, call.Spares id → (∀ r, call ≠ .meanwhile r) →
      Repo.Gains (if call.moves then l.setupAt (k + 1) else []) now.2
        (now.1.call now.2 call).2 := by
  intro before now k
  obtain ⟨r, hseeds, hbegun, -⟩ := start_eq_ok hl hstart
  have hbegins : begun.1.Stands id l before.1.completed 0 0 := by
    rw [hbegun]
    exact stands_enter hl r
  have hstands : now.1.Stands id l before.1.completed k (tries later) := hbegins.callAll hlater
  refine ⟨fun step hstep => ?_, fun hk => ?_, ⟨r, hseeds, ?_⟩, fun call hspares hcall => ?_⟩
  · have hk : k < l.steps.length := (List.getElem?_eq_some_iff.1 hstep).1
    obtain ⟨hactive, hcompleted, hattempts⟩ := hstands.during hk
    refine ⟨hactive, hstands.currentStep?_eq hstep, hstands.progress?_eq hk, hcompleted, hattempts,
      fun hlt => ?_⟩
    rw [hattempts]
    exact UInt32.toNat_ofNat_of_lt' hlt
  · obtain ⟨hactive, hcompleted⟩ := hstands.beyond hk
    have hnodup : before.1.completed.Nodup := nodup_callAll earlier List.nodup_nil
    refine ⟨hactive, currentStep?_of_idle hactive, ?_, hcompleted, ?_, advance_of_idle hactive⟩
    · rw [progress?, hactive, Option.bind_none]
    · rw [hcompleted]
      exact count_noted hnodup id
  · rw [hbegun]
    exact gains_enter hl r
  · exact hstands.gains_call hspares hcall now.2

end Calls

/-- A lesson of two steps that set up files, the second one a file of the first. -/
def tour : Lesson :=
  ⟨"tour", "Tour", "", [],
    [⟨"look", .command, "Look around.", ["git status"], none, "Good.", [], ["a.txt", "b.txt"]⟩,
      ⟨"leave", .explanation, "Leave.", [], none, "", [], ["a.txt"]⟩], [], none⟩

/-- The first step is tried once and left, the second is tried twice. -/
def walk : List Call := [.judge "git status", .advance, .judge "", .hint, .judge ""]

open scoped Regex.SizeLimit

theorem lesson_progress_tour : ∃ c r begun, callAll (empty, .deterministic .default)
        [.register tour] = (c, r)
      ∧ c.lessons.get? "tour" = some tour ∧ c.start "tour" r = (begun, .ok tour.steps.head?)
      ∧ (∀ call ∈ walk ++ [.skip], call.Spares "tour")
      ∧ ((callAll begun walk).1.progress? = some (2, 2) ∧ (callAll begun walk).1.attempts = 2)
      ∧ (callAll begun (walk ++ [.skip])).1.completed = ["tour"] := by
  have hl : (callAll (empty, .deterministic .default) [.register tour]).1.lessons.get? "tour"
      = some tour := by
    decide +kernel
  have hstart : (callAll (empty, .deterministic .default) [.register tour]).1.start "tour"
      (callAll (empty, .deterministic .default) [.register tour]).2
      = (((empty.add tour).reached "tour" 0).enter (.deterministic .default),
        .ok tour.steps.head?) := by
    rw [start, hl]
    rfl
  have hspares : ∀ call ∈ walk ++ [.skip], call.Spares "tour" := by
    simp [walk, Call.Spares]
  have hwalk : ∀ call ∈ walk, call.Spares "tour" := fun call hcall =>
    hspares call (List.mem_append_left _ hcall)
  obtain ⟨hduring, -⟩ := lesson_progress (.deterministic .default) [.register tour] hl hstart hwalk
  obtain ⟨-, -, hprogress, -, hattempts, -⟩ := hduring _ rfl
  obtain ⟨-, hbeyond, -⟩ :=
    lesson_progress (.deterministic .default) [.register tour] hl hstart hspares
  obtain ⟨-, -, -, hcompleted, -⟩ := hbeyond (by decide)
  exact ⟨_, _, _, rfl, hl, hstart, hspares, ⟨hprogress, hattempts⟩, hcompleted⟩

/-- Answers alone leave no step, and each of them is an attempt. -/
theorem countP_judge_replicate (n : Nat) (input : String) :
    (List.replicate n (Call.judge input)).countP Call.moves = 0
      ∧ tries (List.replicate n (.judge input)) = n := by
  simp [tries, Call.moves, List.countP_replicate, Call.judges]

/-- When there have been as many attempts at a step as there are numbers for them, they are counted
anew. And a file that is there already when its step is entered is not put there then. -/
theorem attempts_counted_again : ∃ begun,
    (empty.add tour).start "tour" (.deterministic .default) = (begun, .ok tour.steps.head?)
    ∧ (∃ later, (∀ call ∈ later, call.Spares "tour")
      ∧ (callAll begun later).1.active = some ⟨"tour", 0⟩ ∧ tries later = UInt32.size
      ∧ (callAll begun later).1.attempts = 0)
    ∧ begun.2.state.working = ["a.txt", "b.txt"]
    ∧ (callAll begun [.advance]).1.currentStep?.map Step.setup = some ["a.txt"]
    ∧ (callAll begun [.advance]).2.state.working = ["a.txt", "b.txt"] := by
  have hl : (empty.add tour).lessons.get? "tour" = some tour := by decide +kernel
  have hbegins := stands_enter hl (.deterministic .default) (k := 0)
  have hspares : ∀ call ∈ List.replicate UInt32.size (Call.judge "git log"),
      call.Spares "tour" := by
    intro call hcall
    rw [List.eq_of_mem_replicate hcall]
    exact True.intro
  obtain ⟨hmoves, htries⟩ := countP_judge_replicate UInt32.size "git log"
  have hstands := hbegins.callAll hspares
  rw [hmoves, htries] at hstands
  obtain ⟨hactive, -, hattempts⟩ := hstands.during (by decide)
  refine ⟨((empty.add tour).reached "tour" 0).enter (.deterministic .default), ?_,
    ⟨_, hspares, hactive, htries, hattempts⟩, by decide +kernel, by decide +kernel,
    by decide +kernel⟩
  rw [start, hl]
  rfl

end Course

end GitPractice
