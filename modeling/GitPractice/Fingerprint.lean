import GitPractice.Text.Number

/-!
# Fingerprints

A commit is named by a fingerprint: seven lower-case letters or digits. Fingerprints are drawn from
a sequence that is fixed in advance. A sequence may repeat itself, so `drawFresh` goes on drawing
until it meets one that is not taken, the first that is free (`drawFresh_eq_some_iff`). It never
answers at all if only taken ones are to come.
-/

namespace GitPractice

open GitPractice.Text (padded)

/-- Lower-case ASCII letters and digits. -/
def isFingerprintChar (c : Char) : Bool := c.isLower || c.isDigit

def isFingerprint (s : String) : Bool := s.toList.length == 7 && s.toList.all isFingerprintChar

/-- A sequence of ids and the number of those that have been drawn. -/
structure Fingerprints where
  sequence : Nat → String
  drawn : Nat

namespace Fingerprints

def current (f : Fingerprints) : String := f.sequence f.drawn

def next (f : Fingerprints) : Fingerprints := { f with drawn := f.drawn + 1 }

/-- The first ids from here on. -/
def take (f : Fingerprints) (count : Nat) : List String :=
  (List.range count).map fun i => f.sequence (f.drawn + i)

/-- The first character of numbered ids: the given one, or `c` if no fingerprint may hold it. -/
def leadOf (lead : Char) : Char := if isFingerprintChar lead then lead else 'c'

/-- The ids `c000001`, `c000002`, … with a lead of their own. The number is a 64-bit counter, of
which six digits show. -/
def numbered (lead : Char) : Fingerprints :=
  ⟨fun n => String.ofList [leadOf lead] ++ padded 6 ((n + 1) % UInt64.size % 1000000), 0⟩

/-- The characters of ids drawn by chance. -/
def alphabet : List Char := "abcdefghijklmnopqrstuvwxyz0123456789".toList

/-- The `n`-th state of a linear congruential generator. -/
def congruential (seed : Nat) : Nat → Nat
  | 0 => seed % UInt64.size
  | n + 1 => (congruential seed n * 6364136223846793005 + 1442695040888963407) % UInt64.size

/-- Seven characters chosen by a number. -/
def scattered (state : Nat) : String :=
  let digit i := alphabet.getD ((state >>> 24) / Nat.pow 36 i % 36) 'a'
  String.ofList ((List.range 7).map digit)

/-- Ids without an order, fixed by a seed. -/
def shuffled (seed : Nat) : Fingerprints := ⟨fun n => scattered (congruential seed (n + 1)), 0⟩

/-! ## The first that is free -/

/-- The next `k` ids are taken, and the one that follows is free. -/
structure FirstFree (f : Fingerprints) (taken : List String) (k : Nat) : Prop where
  free : f.sequence (f.drawn + k) ∉ taken
  before : ∀ j < k, f.sequence (f.drawn + j) ∈ taken

/-- The id that comes after `k` others, and what is left of the ids after it. -/
def pick (f : Fingerprints) (k : Nat) : String × Fingerprints :=
  (f.sequence (f.drawn + k), { f with drawn := f.drawn + k + 1 })

/-- So many ids have been passed, all of them taken. -/
structure Passed (f : Fingerprints) (taken : List String) where
  count : Nat
  before : ∀ j < count, f.sequence (f.drawn + j) ∈ taken

/-- No id has been looked at yet. -/
def unpassed (taken : List String) (f : Fingerprints) : f.Passed taken :=
  ⟨0, fun _ h => absurd h (Nat.not_lt_zero _)⟩

/-- One more id is drawn. It is passed, or it is the first that is free. -/
def probe (taken : List String) (f : Fingerprints) (passed : f.Passed taken) :
    f.Passed taken ⊕ { k : Nat // f.FirstFree taken k } :=
  if h : f.sequence (f.drawn + passed.count) ∈ taken then
    .inl ⟨passed.count + 1, Nat.forall_lt_succ_right.2 ⟨passed.before, h⟩⟩
  else .inr ⟨passed.count, h, passed.before⟩

/-- Ids are drawn until one is free. What `repeatM` answers if that never comes to an end is left
open, but it can only be `none` here, since a free one would have to be shown. -/
def seek (taken : List String) (f : Fingerprints) : Option { k : Nat // f.FirstFree taken k } :=
  (repeatM (fun passed => some ((probe taken f passed).map id some)) (unpassed taken f)).join

/-- The same, but no more than `n` ids are drawn. -/
def search (taken : List String) (f : Fingerprints) :
    Nat → f.Passed taken → Option { k : Nat // f.FirstFree taken k }
  | 0, _ => none
  | n + 1, passed =>
    match probe taken f passed with
    | .inl passed => search taken f n passed
    | .inr first => some first

/-- The first id from here on that is not taken, and the ids behind it; `none` if there is none. The
next few are looked at by themselves, so that closed terms can be evaluated. -/
def drawFresh (taken : List String) (f : Fingerprints) : Option (String × Fingerprints) :=
  (search taken f (taken.length + 1) (unpassed taken f) <|> seek taken f).map
    fun first => f.pick first.val

theorem FirstFree.unique {f : Fingerprints} {taken : List String} {j k : Nat}
    (hj : f.FirstFree taken j) (hk : f.FirstFree taken k) : j = k := by
  rcases Nat.lt_trichotomy j k with h | h | h
  · exact absurd (hk.before j h) hj.free
  · exact h
  · exact absurd (hj.before k h) hk.free

/-- If `n` more ids are to be passed, the loop ends. -/
theorem repeatM_probe {taken : List String} {f : Fingerprints} {k : Nat}
    (h : f.FirstFree taken k) {n : Nat} {passed : f.Passed taken} (hk : passed.count + n = k) :
    repeatM (fun passed => some ((probe taken f passed).map id some)) passed
      = some (some ⟨k, h⟩) := by
  induction n generalizing passed with
  | zero =>
    obtain rfl : passed.count = k := hk
    rw [repeatM_eq_of_monadTail, repeatM.body, probe, dif_neg h.free]
    rfl
  | succ n ih =>
    have htaken : f.sequence (f.drawn + passed.count) ∈ taken := h.before _ (by omega)
    rw [repeatM_eq_of_monadTail, repeatM.body, probe, dif_pos htaken]
    exact ih (show passed.count + 1 + n = k by omega)

theorem seek_of_firstFree {taken : List String} {f : Fingerprints} {k : Nat}
    (h : f.FirstFree taken k) : seek taken f = some ⟨k, h⟩ := by
  rw [seek, repeatM_probe h (Nat.zero_add k)]
  rfl

/-- What is drawn is the first id that is free. -/
theorem drawFresh_eq_some_iff {taken : List String} {f : Fingerprints}
    {out : String × Fingerprints} :
    drawFresh taken f = some out ↔ ∃ k, f.FirstFree taken k ∧ f.pick k = out := by
  rw [drawFresh, Option.map_eq_some_iff]
  constructor
  · rintro ⟨⟨k, hfirst⟩, -, hout⟩
    exact ⟨k, hfirst, hout⟩
  · rintro ⟨k, hfirst, hout⟩
    rcases hsearch : search taken f (taken.length + 1) (unpassed taken f) with _ | first
    · exact ⟨⟨k, hfirst⟩, by rw [seek_of_firstFree hfirst]; rfl, hout⟩
    · obtain rfl : first = ⟨k, hfirst⟩ := Subtype.ext (first.property.unique hfirst)
      exact ⟨_, rfl, hout⟩

theorem drawFresh_fresh {taken : List String} {f : Fingerprints} {out : String × Fingerprints}
    (h : drawFresh taken f = some out) : out.1 ∉ taken := by
  obtain ⟨k, hfirst, rfl⟩ := drawFresh_eq_some_iff.1 h
  exact hfirst.free

/-- If nothing is taken, the next id is free. -/
theorem drawFresh_nil (f : Fingerprints) : drawFresh [] f = some (f.current, f.next) :=
  drawFresh_eq_some_iff.2 ⟨0, ⟨List.not_mem_nil, fun _ h => absurd h (Nat.not_lt_zero _)⟩, rfl⟩

end Fingerprints

end GitPractice
