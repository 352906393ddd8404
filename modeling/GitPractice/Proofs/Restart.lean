import GitPractice.Proofs.Starting

/-!
# Starting a lesson again

In every session that can come up (`Session.Reachable`) each lesson is filed under its own id, and
the active lesson could be started again: what no call to a course breaks holds at every point of a
session (`throughout_handleLine`). So the line `reset` restarts the active lesson if its id does not
read as the number of another lesson (`reset_restarts`); if it does, the other one is started
(`reset_starts_other`).
-/

namespace GitPractice

open Text (trim words)

/-! ## Courses -/

namespace Course

variable {c : Course} {call : Call} {r : Repo}

/-- Each lesson stands under its own id. -/
def Filed (c : Course) : Prop := ∀ id l, c.lessons.get? id = some l → l.id = id

/-- The active lesson, if there is one, has no snapshot that would keep it from being started. -/
def Restartable (c : Course) : Prop := ∀ l, c.currentLesson? = some l → l.snapshotFault? = none

/-- The id of the lesson is no number, or the number under which the lesson itself is listed. -/
def CallsByName (c : Course) (l : Lesson) : Prop :=
  ∀ n, Text.readNat? UInt64.size l.id.toList = some n → 0 < n ∧ c.lessons.values[n - 1]? = some l

/-- The call registers no lesson. -/
def Call.KeepsLessons (call : Call) : Prop := ∀ l, call ≠ .register l

theorem lessons_enter (c : Course) (r : Repo) : (c.enter r).1.lessons = c.lessons := by
  rcases fst_enter c r with h | h
  · rw [h]
  · rw [h, complete]
    split <;> rfl

theorem currentLesson?_enter {l : Lesson} (h : (c.enter r).1.currentLesson? = some l) :
    c.currentLesson? = some l := by
  rcases fst_enter c r with heq | heq
  · rwa [heq] at h
  · rw [heq, complete] at h
    split at h
    · cases h
    · exact h

section Calls

variable [Regex.SizeLimit]

theorem lessons_call (hcall : call.KeepsLessons) : (c.call r call).1.lessons = c.lessons := by
  have hadvance : (c.advance r).1.lessons = c.lessons := by
    unfold advance
    split
    · exact lessons_enter _ r
    · rfl
  cases call with
  | register l => exact absurd rfl (hcall l)
  | start id =>
    rw [Course.call, start]
    split
    · rfl
    · split
      · rfl
      · exact lessons_enter (c.reached id 0) _
  | judge input =>
    rw [Course.call, judge]
    split <;> rfl
  | advance => exact hadvance
  | skip => exact hadvance
  | hint => rfl
  | meanwhile r' => rfl

theorem filed_call (h : c.Filed) (r : Repo) (call : Call) : (c.call r call).1.Filed := by
  by_cases hcall : call.KeepsLessons
  · rw [Filed, lessons_call hcall]
    exact h
  · obtain ⟨l, rfl⟩ : ∃ l, call = .register l := by simpa [Call.KeepsLessons] using hcall
    intro id l' hl'
    rw [Course.call, add, OrderedMap.get?_insert] at hl'
    split_ifs at hl' with hid
    · cases hl'
      exact hid
    · exact h id l' hl'

theorem filed_callAll : ∀ (calls : List Call) {p : Course × Repo}, p.1.Filed →
    (callAll p calls).1.Filed
  | [], _, h => h
  | call :: calls, p, h => filed_callAll calls (filed_call h p.2 call)

theorem restartable_call (h : c.Restartable) (hcall : call.KeepsLessons) :
    (c.call r call).1.Restartable := by
  have hadvance : (c.advance r).1.Restartable := by
    rcases hactive : c.active with _ | a
    · rw [advance_of_idle hactive]
      exact h
    · rw [advance_of_active hactive]
      intro l hl
      have hget : (c.reached a.lesson (a.step + 1)).currentLesson? = some l :=
        currentLesson?_enter hl
      refine h l ?_
      rw [currentLesson?, hactive]
      exact hget
  cases call with
  | register l => exact absurd rfl (hcall l)
  | start id =>
    rw [Course.call, start]
    split
    · exact h
    · rename_i l hl
      split
      · exact h
      · rename_i r' hseed
        intro l' hl'
        have hget : c.lessons.get? id = some l' := currentLesson?_enter hl'
        rw [hl, Option.some.injEq] at hget
        rw [← hget]
        exact Lesson.exists_seeds_iff.1 ⟨r', seed_eq_ok_iff.1 hseed⟩
  | judge input =>
    rw [Course.call, judge]
    split
    · exact h
    · exact h
  | advance => exact hadvance
  | skip => exact hadvance
  | hint => exact h
  | meanwhile r' => exact h

theorem callAll_register (r : Repo) : ∀ (ls : List Lesson) (c : Course),
    callAll (c, r) (ls.map .register) = (c.addAll ls, r)
  | [], _ => rfl
  | l :: ls, c => callAll_register r ls (c.add l)

end Calls

theorem active_addAll : ∀ (ls : List Lesson) (c : Course), (c.addAll ls).active = c.active
  | [], _ => rfl
  | l :: ls, c => active_addAll ls (c.add l)

theorem mem_noted (done : List String) (id : String) : id ∈ noted done id := by
  unfold noted
  split_ifs with hid
  · exact hid
  · exact List.mem_append_right _ (List.mem_singleton_self id)

theorem find?_of_callsByName {l : Lesson} (hl : c.lessons.get? l.id = some l)
    (h : c.CallsByName l) : c.find? l.id = some l := by
  unfold find?
  split
  · rename_i hzero
    exact absurd (h 0 hzero).1 (Nat.lt_irrefl 0)
  · rename_i n hn
    exact (h (n + 1) hn).2
  · exact hl

theorem Filed.get?_of_currentLesson? {l : Lesson} (hfiled : c.Filed)
    (h : c.currentLesson? = some l) : c.lessons.get? l.id = some l := by
  obtain ⟨a, -, hget⟩ := Option.bind_eq_some_iff.1 h
  rwa [hfiled a.lesson l hget]

end Course

/-! ## What a session keeps -/

namespace Session

open Transcript

variable {s : Session}

/-- A session takes the line as its word to end it: on explanations the whole line, on other steps
the first word of it. -/
def TakenAsQuit (text : String) : Prop :=
  isQuit (trim text) = true
    ∨ ∃ word ∈ (words (trim text)).head?, Keyword.ofWord? word = some .quit

theorem reset_final {l : Lesson} {begun : Course × Repo} (hl : s.course.currentLesson? = some l)
    (h : s.Starts l.id begun) : s.reset.final = { s with course := begun.1, repo := begun.2 } := by
  rw [← startLesson_final h, reset, hl]
  rfl

theorem endless_reset (s : Session) : s.reset.endless = false := by
  unfold reset
  split
  · simp [endless_startLesson]
  · rfl

section Lines

variable [Regex.SizeLimit]

section Keeps

-- A property that neither a call to the course nor another repository can break is kept by all that
-- a session does, if the commands that are run keep it and it stays when the session ends.
variable {P : Session → Prop} {input text : String}
  (hcall : ∀ (s : Session) (r repo : Repo) (call : Course.Call), call.KeepsLessons → P s →
    P { s with course := (s.course.call r call).1, repo := repo })
include hcall

theorem throughout_advance (h : P s) : s.advance.Throughout P := by
  unfold advance
  split
  · exact throughout_silent h
  · exact throughout_announce (hcall s s.repo _ .advance (fun _ => nofun) h) _

theorem throughout_startLesson (h : P s) (key : String) : (s.startLesson key).Throughout P := by
  by_cases hstarts : ∃ begun, s.Starts key begun
  · obtain ⟨begun, hstarts⟩ := hstarts
    refine startLesson_of_starts hstarts ?_
    obtain ⟨l, first, -, hstart⟩ := hstarts
    have hbegun := hcall s s.freshRepo begun.2 (.start l.id) (fun _ => nofun) h
    rwa [Course.call, hstart] at hbegun
  · exact startLesson_of_not_starts (not_exists.1 hstarts) h

theorem keeps_judge (h : P s) (input : String) :
    P { s with course := (s.course.judge input).1 } :=
  hcall s s.repo s.repo (.judge input) (fun _ => nofun) h

theorem keeps_repo (h : P s) (repo : Repo) : P { s with repo := repo } :=
  hcall s s.repo repo .hint (fun _ => nofun) h

theorem throughout_execute (h : P s)
    (hexit : ∀ reply, (Console.run s.repo input).2 = .ok (some reply) → reply.isExit = true →
      P { s with repo := (Console.run s.repo input).1, running := false }) :
    (s.execute input).Throughout P := by
  unfold execute
  split
  · exact throughout_line _ (keeps_repo hcall h _)
  · exact throughout_stuck (keeps_repo hcall h _)
  · rename_i repo reply hrun
    rw [hrun] at hexit
    split_ifs with hends
    · exact throughout_silent (hexit reply rfl hends)
    · exact throughout_lines _ (keeps_repo hcall h repo)

section Runs

variable (hran : ∀ s, P s → (s.execute input).Throughout P)
include hran

theorem throughout_attempt (h : P s) : (s.attempt input).Throughout P := by
  have hjudged := keeps_judge hcall h input
  unfold attempt
  split_ifs
  · dsimp only
    split_ifs
    · exact ((hran _ hjudged).andThen fun t ht => throughout_line _ ht).andThen
        fun t ht => throughout_advance hcall ht
    · exact ((hran _ hjudged).andThen fun t ht => throughout_line _ ht).andThen
        fun t ht => throughout_silent ht
    · exact throughout_lines _ hjudged
  · exact hran s h

theorem throughout_obey (h : P s) (args : List String) {k : Keyword}
    (hquit : k = .quit → P { s with running := false }) :
    (s.obey input args k).Throughout P := by
  cases k with
  | quit => exact throughout_silent (hquit rfl)
  | lessons => exact throughout_line _ h
  | lesson =>
    rcases args with _ | ⟨key, _⟩
    · unfold obey showLesson
      dsimp only
      split
      · exact throughout_lines _ h
      · exact throughout_line _ h
    · exact throughout_startLesson hcall h key
  | hint => exact throughout_line _ h
  | skip =>
    unfold obey skip
    dsimp only
    split_ifs
    · exact (throughout_line _ h).andThen fun t ht => throughout_advance hcall ht
    · exact throughout_line _ h
  | reset =>
    unfold obey reset
    dsimp only
    split
    · exact (throughout_line _ h).andThen fun t ht => throughout_startLesson hcall ht _
    · exact throughout_line _ (keeps_repo hcall h _)
  | status => exact throughout_line _ h
  | tree => exact throughout_line _ h
  | help => exact hran s h

end Runs

theorem throughout_handleLine (h : P s)
    (hran : ∀ s, P s → (s.execute (trim text)).Throughout P)
    (hquit : TakenAsQuit text → P { s with running := false }) :
    (s.handleLine text).Throughout P := by
  unfold handleLine proceed
  dsimp only
  split_ifs with hon hleaves
  · exact throughout_silent (hquit (.inl hleaves))
  · exact throughout_advance hcall (keeps_judge hcall h (trim text))
  · split
    · exact throughout_silent h
    · rename_i word args hwords
      split
      · rename_i k hword
        refine throughout_obey hcall hran h args fun hk => hquit (.inr ⟨word, ?_, ?_⟩)
        · rw [hwords]
          rfl
        · rw [hword, hk]
      · exact throughout_attempt hcall hran h

end Keeps

/-! ## Sessions that can come up -/

/-- What is done with a session. The output of a line, or of a start, takes so many bytes. -/
inductive Turn where
  | line (text : String) (limit : Nat)
  | lesson (key : String) (limit : Nat)
  | load (snapshot : Snapshot)
  | interact (on : Bool)

def turn (s : Session) : Turn → Session
  | .line text limit => ((s.handleLine text).cut limit).state
  | .lesson key limit => ((s.startLesson key).cut limit).state
  | .load snapshot => { s with repo := (s.repo.importState snapshot).1 }
  | .interact on => { s with interactive := on }

/-- A session is made with a course that anything may have happened to before, if only its active
lesson has not been replaced by one with an unsound snapshot. -/
inductive Reachable : Session → Prop where
  | start (settings : Settings) (ids : Fingerprints) (now : UInt64) (palette : Palette) (r₀ : Repo)
      (calls : List Course.Call)
      (hactive : (Course.callAll (.empty, r₀) calls).1.Restartable) :
      Reachable (start settings ids now (Course.callAll (.empty, r₀) calls).1 palette)
  | turn {s : Session} (h : Reachable s) (t : Turn) : Reachable (s.turn t)

/-- The usual session, with a course of which only the lessons are known. -/
theorem reachable_start (settings : Settings) (ids : Fingerprints) (now : UInt64)
    (palette : Palette) (ls : List Lesson) :
    (Session.start settings ids now (Course.empty.addAll ls) palette).Reachable := by
  have hcalls : Course.callAll (.empty, .deterministic settings.config) (ls.map .register)
      = (Course.empty.addAll ls, .deterministic settings.config) := Course.callAll_register _ ls _
  have hstart := Reachable.start settings ids now palette (.deterministic settings.config)
    (ls.map .register)
  rw [hcalls] at hstart
  refine hstart fun l hl => ?_
  rw [Course.currentLesson?, Course.active_addAll] at hl
  cases hl

theorem Reachable.handleLine (h : s.Reachable) (text : String) :
    (s.handleLine text).final.Reachable := by
  have hturn := h.turn (.line text (writtenSize (s.handleLine text).writes))
  rwa [Session.turn, cut_of_fits (Nat.le_refl _)] at hturn

/-- What no call breaks holds after every turn. -/
theorem course_turn {Q : Course → Prop}
    (hQ : ∀ (c : Course) (r : Repo) (call : Course.Call), call.KeepsLessons → Q c →
      Q (c.call r call).1)
    (h : Q s.course) (t : Turn) : Q (s.turn t).course := by
  let P (s : Session) : Prop := Q s.course
  have hcall (s : Session) (r repo : Repo) (call : Course.Call) (hkeeps : call.KeepsLessons)
      (hs : P s) : P { s with course := (s.course.call r call).1, repo := repo } :=
    hQ s.course r call hkeeps hs
  cases t with
  | line text limit =>
    have hran (s : Session) (hs : P s) : (s.execute (trim text)).Throughout P :=
      throughout_execute hcall hs fun _ _ _ => hs
    have hline : (s.handleLine text).Throughout P :=
      throughout_handleLine hcall h hran fun _ => h
    exact hline.cut limit
  | lesson key limit =>
    have hstart : (s.startLesson key).Throughout P := throughout_startLesson hcall h key
    exact hstart.cut limit
  | load snapshot => exact h
  | interact on => exact h

theorem Reachable.filed (h : s.Reachable) : s.course.Filed := by
  induction h with
  | start settings ids now palette r₀ calls hactive =>
    exact Course.filed_callAll calls (p := (.empty, r₀)) fun id l hl => by cases hl
  | turn h t ih =>
    exact course_turn (Q := Course.Filed) (fun c r call _ hc => Course.filed_call hc r call) ih t

theorem Reachable.restartable (h : s.Reachable) : s.course.Restartable := by
  induction h with
  | start settings ids now palette r₀ calls hactive => exact hactive
  | turn h t ih =>
    exact course_turn (Q := Course.Restartable)
      (fun c r call hcall hc => Course.restartable_call hc hcall) ih t

/-! ## Starting again -/

theorem handleLine_reset (hon : s.course.isOn .explanation = false) :
    s.handleLine "reset" = s.reset := by
  have hwords : words (trim "reset") = ["reset"] := by decide
  have hword : Keyword.ofWord? "reset" = some .reset := by decide +kernel
  rw [handleLine_of_keyword hon hwords hword, obey]

/-- The line `reset` starts the active lesson again, in a fresh repository. -/
theorem reset_restarts {l : Lesson} (hs : s.Reachable) (hl : s.course.currentLesson? = some l)
    (hon : s.course.isOn .explanation = false) (hname : s.course.CallsByName l) :
    let t := (s.handleLine "reset").final
    (s.handleLine "reset").endless = false
    ∧ s.course.start l.id s.freshRepo = ((t.course, t.repo), .ok l.steps.head?)
    ∧ (∀ step, l.steps.head? = some step →
      t.course.active = some ⟨l.id, 0⟩ ∧ t.course.currentLesson? = some l
        ∧ t.course.currentStep? = some step ∧ t.course.completed = s.course.completed)
    ∧ (l.steps = [] → t.course.active = none ∧ l.id ∈ t.course.completed)
    ∧ t.course.attempts = 0
    ∧ ∃ r, l.Seeds s.freshRepo r ∧ t.repo = r.editAll (l.setupAt 0) := by
  intro t
  have hget : s.course.lessons.get? l.id = some l := hs.filed.get?_of_currentLesson? hl
  obtain ⟨r, hseeds⟩ := (Lesson.exists_seeds_iff (r := s.freshRepo)).2 (hs.restartable l hl)
  have hstart := Course.start_of_seeds hget hseeds
  rw [Course.currentStep?_enter_reached hget r] at hstart
  have hstarts : s.Starts l.id ((s.course.reached l.id 0).enter r) :=
    ⟨l, _, Course.find?_of_callsByName hget hname, hstart⟩
  have ht : t = { s with
      course := ((s.course.reached l.id 0).enter r).1
      repo := ((s.course.reached l.id 0).enter r).2 } := by
    rw [← reset_final hl hstarts, ← handleLine_reset hon]
  clear_value t
  subst ht
  have hstands := Course.stands_enter hget r (k := 0)
  refine ⟨by rw [handleLine_reset hon, endless_reset], hstart, fun step hstep => ?_,
    fun hsteps => ?_, Course.attempts_enter _ r, r, hseeds, Course.snd_enter_reached hget 0 r⟩
  · obtain ⟨hactive, hcompleted, -⟩ :=
      hstands.during (List.length_pos_of_mem (List.mem_of_head? hstep))
    refine ⟨hactive, ?_, (Course.currentStep?_enter_reached hget r).trans hstep, hcompleted⟩
    rw [Course.currentLesson?, hactive]
    exact hstands.lesson_eq
  · obtain ⟨hactive, hcompleted⟩ := hstands.beyond (by simp [hsteps])
    exact ⟨hactive, hcompleted ▸ Course.mem_noted s.course.completed l.id⟩

end Lines

/-- Lessons of which the first has the number of the second for its id, and the third its own. -/
def counted : List Lesson :=
  let look : Step := ⟨"look", .command, "Look around.", ["git status"], none, "Good.", [], []⟩
  let named (id : String) : Lesson := ⟨id, "Steps", "", [], [look], [], none⟩
  [named "2", named "tags", named "3"]

open scoped Regex.SizeLimit

/-- A session that has taken the line, with these lessons. -/
def counting (line : String) : Session :=
  ((start ⟨.default, true⟩ (.numbered 'c') 0 (Course.empty.addAll counted) .plain).handleLine
    line).final

theorem reachable_counting (line : String) : (counting line).Reachable :=
  (reachable_start _ _ _ _ counted).handleLine line

theorem reset_restarts_counting :
    (counting "lesson 3").course.currentLesson? = counted[2]?
    ∧ (counting "lesson 3").course.CallsByName counted[2]
    ∧ (counting "lesson 3").course.start "3" (counting "lesson 3").freshRepo
      = ((((counting "lesson 3").handleLine "reset").final.course,
        ((counting "lesson 3").handleLine "reset").final.repo), .ok counted[2].steps.head?) := by
  have hl : (counting "lesson 3").course.currentLesson? = counted[2]? := by decide +kernel
  have hname : (counting "lesson 3").course.CallsByName counted[2] := by
    intro n hn
    have hthree : Text.readNat? UInt64.size "3".toList = some 3 := by decide +kernel
    cases hthree.symm.trans hn
    exact ⟨by decide, by decide +kernel⟩
  exact ⟨hl, hname, (reset_restarts (reachable_counting _) hl (by decide +kernel) hname).2.1⟩

/-- The line `reset` starts the lesson that the id of the active one calls by number. -/
theorem reset_starts_other :
    (∀ l ∈ counted, l.fault? = none) ∧ (counting "lesson 1").Reachable
    ∧ (counting "lesson 1").course.currentLesson? = counted[0]?
    ∧ (counting "lesson 1").course.isOn .explanation = false
    ∧ ((counting "lesson 1").handleLine "reset").final.course.currentLesson? = counted[1]? :=
  ⟨by decide +kernel, reachable_counting _, by decide +kernel, by decide +kernel,
    by decide +kernel⟩

end Session

end GitPractice
