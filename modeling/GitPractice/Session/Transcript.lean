import GitPractice.Shell.Span

/-!
# Transcripts

A `Transcript` tells what was written, piece by piece, and how things stood when each piece was
written. If the output fails, everything that was done before the failing write stays done and
nothing that would follow it is: `cut` answers what came through and how things stand then. A
transcript that fits is not cut (`cut_of_fits`).

What is begun last may go on for ever. Nothing follows such a transcript (`andThen_of_endless`).
-/

namespace GitPractice

structure Transcript (σ : Type) where
  writes : List (σ × String)
  final : σ
  endless : Bool

/-- What came of a transcript when the output took only so many bytes. -/
structure Cut (σ : Type) where
  shown : String
  failed : Bool
  state : σ

namespace Transcript

variable {σ : Type}

/-- Nothing is written. -/
def silent (s : σ) : Transcript σ := ⟨[], s, false⟩

/-- Nothing is written, and something goes on for ever. -/
def stuck (s : σ) : Transcript σ := ⟨[], s, true⟩

/-- A piece of text is written. -/
def say (text : String) (s : σ) : Transcript σ := ⟨[(s, text)], s, false⟩

/-- A line is written. -/
def line (text : String) (s : σ) : Transcript σ := say (text ++ "\n") s

/-- Several lines are written one by one. -/
def lines (texts : List String) (s : σ) : Transcript σ :=
  ⟨texts.map fun t => (s, t ++ "\n"), s, false⟩

/-- One transcript after the other, if the first one has an end. -/
def andThen (t : Transcript σ) (next : σ → Transcript σ) : Transcript σ :=
  if t.endless then t
  else
    let rest := next t.final
    ⟨t.writes ++ rest.writes, rest.final, rest.endless⟩

/-- All that is written. -/
def text (t : Transcript σ) : String := String.join (t.writes.map (·.2))

/-- The number of bytes in the pieces. -/
def writtenSize (writes : List (σ × String)) : Nat :=
  writes.foldr (fun w n => Shell.byteSize w.2.toList + n) 0

/-- The pieces as far as `limit` bytes go; of the last one only the characters that fit. -/
def cutWrites (final : σ) : Nat → List (σ × String) → Cut σ
  | _, [] => ⟨"", false, final⟩
  | limit, (s, text) :: r =>
    let size := Shell.byteSize text.toList
    if size ≤ limit then
      let rest := cutWrites final (limit - size) r
      { rest with shown := text ++ rest.shown }
    else ⟨String.ofList (Shell.fitting limit text.toList), true, s⟩

/-- What comes through an output that takes `limit` bytes. -/
def cut (limit : Nat) (t : Transcript σ) : Cut σ := cutWrites t.final limit t.writes

@[simp] theorem endless_silent (s : σ) : (silent s).endless = false := rfl

@[simp] theorem endless_say (text : String) (s : σ) : (say text s).endless = false := rfl

@[simp] theorem endless_line (text : String) (s : σ) : (line text s).endless = false := rfl

@[simp] theorem endless_lines (texts : List String) (s : σ) : (lines texts s).endless = false := rfl

theorem andThen_of_endless {t : Transcript σ} (h : t.endless = true) (next : σ → Transcript σ) :
    t.andThen next = t := if_pos h

theorem andThen_of_ended {t : Transcript σ} (h : t.endless = false) (next : σ → Transcript σ) :
    t.andThen next
      = ⟨t.writes ++ (next t.final).writes, (next t.final).final, (next t.final).endless⟩ :=
  if_neg (by simp [h])

theorem final_andThen {t : Transcript σ} (h : t.endless = false) (next : σ → Transcript σ) :
    (t.andThen next).final = (next t.final).final := by rw [andThen_of_ended h]

@[simp] theorem endless_andThen (t : Transcript σ) (next : σ → Transcript σ) :
    (t.andThen next).endless = (t.endless || (next t.final).endless) := by
  cases h : t.endless
  · rw [andThen_of_ended h, Bool.false_or]
  · rw [andThen_of_endless h, h, Bool.true_or]

theorem cutWrites_of_fits (final : σ) {limit : Nat} {writes : List (σ × String)}
    (h : writtenSize writes ≤ limit) :
    cutWrites final limit writes = ⟨String.join (writes.map (·.2)), false, final⟩ := by
  induction writes generalizing limit with
  | nil => simp [cutWrites]
  | cons w r ih =>
    simp only [writtenSize, List.foldr_cons] at h
    have hle : Shell.byteSize w.2.toList ≤ limit := by omega
    have hr : writtenSize r ≤ limit - Shell.byteSize w.2.toList := by
      rw [writtenSize]
      omega
    simp only [cutWrites, hle, if_true, ih hr, List.map_cons, String.join_cons]

theorem cut_of_fits {t : Transcript σ} {limit : Nat}
    (h : writtenSize t.writes ≤ limit) :
    t.cut limit = ⟨t.text, false, t.final⟩ := cutWrites_of_fits t.final h

end Transcript

end GitPractice
