import Mathlib.Tactic.SplitIfs
import GitPractice.Shell.Word

/-!
# The grammar of a typed line

A line is words with blanks around and between them (`Line`); a word is pieces that touch, some of
them quoted (`Piece`). The automaton accepts just these lines and finds the words they denote
(`tokenize_eq_ok_iff`).

A character that is not between words adds something to its word (`step_cases`), and all that the
two directions need to know of a step is in `Adds`. From a derivation of a word one gets what
reading it does (`scan_word`). In the other direction, what a state of the automaton still asks of
the line is written down as `Awaits`: a line if it stands between words, the end of a piece if it
stands within one.
-/

namespace GitPractice.Shell

open GitPractice.Text (isBlank)

/-! ## The grammar -/

/-- Nothing but blanks. -/
def Blanks (cs : List Char) : Prop := ∀ c ∈ cs, isBlank c = true

/-- What may stand between double quotes, and what it denotes. -/
inductive DoubleQuoted : List Char → List Char → Prop where
  | nil : DoubleQuoted [] []
  | plain {c : Char} {run text : List Char} (hquote : c ≠ '"') (hback : c ≠ '\\')
      (h : DoubleQuoted run text) : DoubleQuoted (c :: run) (c :: text)
  | escaped {c : Char} {run text : List Char} (hc : isEscapable c = true)
      (h : DoubleQuoted run text) : DoubleQuoted ('\\' :: c :: run) (c :: text)
  | kept {c : Char} {run text : List Char} (hc : isEscapable c = false)
      (h : DoubleQuoted (c :: run) text) : DoubleQuoted ('\\' :: c :: run) ('\\' :: text)

theorem ne_of_not_escapable {c : Char} (h : isEscapable c = false) : c ≠ '"' ∧ c ≠ '\\' := by
  constructor <;> rintro rfl <;> cases h

/-- A piece of a word, and what it denotes. -/
inductive Piece : List Char → List Char → Prop where
  | plain {c : Char} (hblank : isBlank c = false) (hsingle : c ≠ '\'') (hdouble : c ≠ '"')
      (hback : c ≠ '\\') : Piece [c] [c]
  | escaped (c : Char) : Piece ['\\', c] [c]
  | single {run : List Char} (h : '\'' ∉ run) : Piece ('\'' :: (run ++ ['\''])) run
  | double {run text : List Char} (h : DoubleQuoted run text) : Piece ('"' :: (run ++ ['"'])) text

/-- Any number of pieces that touch. -/
inductive Pieces : List Char → List Char → Prop where
  | nil : Pieces [] []
  | cons {cs rest text more : List Char} (h : Piece cs text) (t : Pieces rest more) :
      Pieces (cs ++ rest) (text ++ more)

/-- At least one piece. -/
inductive Word : List Char → List Char → Prop where
  | mk {cs rest text more : List Char} (h : Piece cs text) (t : Pieces rest more) :
      Word (cs ++ rest) (text ++ more)

theorem Piece.head {cs text : List Char} (h : Piece cs text) :
    ∃ c rest, cs = c :: rest ∧ isBlank c = false := by
  cases h with
  | plain hblank => exact ⟨_, _, rfl, hblank⟩
  | escaped c => exact ⟨_, _, rfl, by decide⟩
  | single h => exact ⟨_, _, rfl, by decide⟩
  | double h => exact ⟨_, _, rfl, by decide⟩

theorem Word.head {cs text : List Char} (h : Word cs text) :
    ∃ c rest, cs = c :: rest ∧ isBlank c = false := by
  obtain ⟨hpiece, -⟩ := h
  obtain ⟨c, rest, rfl, hc⟩ := hpiece.head
  exact ⟨c, _, rfl, hc⟩

/-- Words with blanks between any two neighbours. -/
inductive Separated : List Char → List (List Char) → Prop where
  | nil : Separated [] []
  | word {cs text : List Char} (h : Word cs text) : Separated cs [text]
  | cons {cs text gap rest next : List Char} {texts : List (List Char)} (h : Word cs text)
      (hne : gap ≠ []) (hgap : Blanks gap) (t : Separated rest (next :: texts)) :
      Separated (cs ++ (gap ++ rest)) (text :: next :: texts)

/-- A line that ends with its last word. -/
def Flush (cs : List Char) (texts : List (List Char)) : Prop :=
  ∃ lead body, Blanks lead ∧ Separated body texts ∧ cs = lead ++ body

/-- A line and the texts of its words. -/
def Line (cs : List Char) (texts : List (List Char)) : Prop :=
  ∃ begun trail, Flush begun texts ∧ Blanks trail ∧ cs = begun ++ trail

/-! ## Steps within a word -/

@[simp] theorem byteSize_nil : byteSize [] = 0 := rfl

@[simp] theorem byteSize_cons (c : Char) (cs : List Char) :
    byteSize (c :: cs) = c.utf8Size + byteSize cs := rfl

theorem byteSize_append (as bs : List Char) :
    byteSize (as ++ bs) = byteSize as + byteSize bs := by
  induction as with
  | nil => simp
  | cons c as ih => simp [ih, Nat.add_assoc]

namespace Scan

variable {s : Scan}

/-- The state after the part `cs` of a word, which denotes `text`. -/
def add (s : Scan) (cs text : List Char) (mode : Mode) : Scan :=
  ⟨s.pos + byteSize cs, s.finished, some (s.opening.1 ++ String.ofList text, s.opening.2), mode⟩

@[simp] theorem add_mode (s : Scan) (cs text : List Char) (mode : Mode) :
    (s.add cs text mode).mode = mode := rfl

@[simp] theorem add_word (s : Scan) (cs text : List Char) (mode : Mode) :
    (s.add cs text mode).word = some (s.opening.1 ++ String.ofList text, s.opening.2) := rfl

theorem add_add (s : Scan) (as bs text more : List Char) (m m' : Mode) :
    (s.add as text m).add bs more m' = s.add (as ++ bs) (text ++ more) m' := by
  simp [add, opening, byteSize_append, String.append_assoc, Nat.add_assoc]

theorem add_nil {mode : Mode} {w : String × Nat} (hword : s.word = some w)
    (hmode : s.mode = mode) : s.add [] [] mode = s := by
  obtain ⟨pos, finished, word, mode'⟩ := s
  cases hword
  cases hmode
  simp [add, opening]

/-- The unfinished piece, if there is one, belongs to a word. -/
def InWord (s : Scan) : Prop := s.mode = .bare ∨ s.word ≠ none

theorem inWord_add (s : Scan) (cs text : List Char) (mode : Mode) : (s.add cs text mode).InWord :=
  .inr (Option.some_ne_none _)

/-- What a character that is not between words adds to its word, and what the next character is
part of. -/
inductive Adds (pos : Nat) : Mode → Char → List Char → Mode → Prop where
  | plain {c : Char} (hblank : isBlank c = false) (hsingle : c ≠ '\'') (hdouble : c ≠ '"')
      (hback : c ≠ '\\') : Adds pos .bare c [c] .bare
  | backslash : Adds pos .bare '\\' [] (.escaped pos)
  | single : Adds pos .bare '\'' [] (.single pos)
  | double : Adds pos .bare '"' [] (.double pos)
  | escaped (opened : Nat) (c : Char) : Adds pos (.escaped opened) c [c] .bare
  | inSingle (opened : Nat) {c : Char} (hc : c ≠ '\'') :
      Adds pos (.single opened) c [c] (.single opened)
  | endSingle (opened : Nat) : Adds pos (.single opened) '\'' [] .bare
  | inDouble (opened : Nat) {c : Char} (hquote : c ≠ '"') (hback : c ≠ '\\') :
      Adds pos (.double opened) c [c] (.double opened)
  | endDouble (opened : Nat) : Adds pos (.double opened) '"' [] .bare
  | doubleBackslash (opened : Nat) : Adds pos (.double opened) '\\' [] (.doubleEscaped opened)
  | doubleEscaped (opened : Nat) {c : Char} (hc : isEscapable c = true) :
      Adds pos (.doubleEscaped opened) c [c] (.double opened)
  | doubleKept (opened : Nat) {c : Char} (hc : isEscapable c = false) :
      Adds pos (.doubleEscaped opened) c ['\\', c] (.double opened)

theorem step_of_adds {c : Char} {text : List Char} {mode mode' : Mode} (hin : s.InWord)
    (hmode : s.mode = mode) (h : Adds s.pos mode c text mode') :
    s.step c = s.add [c] text mode' := by
  obtain ⟨pos, finished, word, _⟩ := s
  cases hmode
  have hbackslash : isBlank '\\' = false := by decide
  have hsingle : isBlank '\'' = false := by decide
  have hdouble : isBlank '"' = false := by decide
  cases h <;> cases word <;>
    simp_all [InWord, step, read, add, push, enter, opening, String.ofList_cons,
      ← String.append_singleton, String.append_assoc]

theorem adds_or_blank (s : Scan) (c : Char) :
    (s.mode = .bare ∧ isBlank c = true) ∨ ∃ text mode, Adds s.pos s.mode c text mode := by
  cases hmode : s.mode with
  | bare =>
    cases hblank : isBlank c with
    | true => exact .inl ⟨rfl, rfl⟩
    | false =>
      by_cases hsingle : c = '\''
      · subst hsingle
        exact .inr ⟨_, _, .single⟩
      by_cases hdouble : c = '"'
      · subst hdouble
        exact .inr ⟨_, _, .double⟩
      by_cases hback : c = '\\'
      · subst hback
        exact .inr ⟨_, _, .backslash⟩
      · exact .inr ⟨_, _, .plain hblank hsingle hdouble hback⟩
  | escaped opened => exact .inr ⟨_, _, .escaped opened c⟩
  | single opened =>
    by_cases hc : c = '\''
    · subst hc
      exact .inr ⟨_, _, .endSingle opened⟩
    · exact .inr ⟨_, _, .inSingle opened hc⟩
  | double opened =>
    by_cases hquote : c = '"'
    · subst hquote
      exact .inr ⟨_, _, .endDouble opened⟩
    by_cases hback : c = '\\'
    · subst hback
      exact .inr ⟨_, _, .doubleBackslash opened⟩
    · exact .inr ⟨_, _, .inDouble opened hquote hback⟩
  | doubleEscaped opened =>
    cases hc : isEscapable c with
    | true => exact .inr ⟨_, _, .doubleEscaped opened hc⟩
    | false => exact .inr ⟨_, _, .doubleKept opened hc⟩

theorem step_blank {c : Char} (hmode : s.mode = .bare) (hc : isBlank c = true) :
    s.step c = { s.close with pos := s.pos + c.utf8Size } := by
  simp [step, read, hmode, hc]

theorem step_cases (hin : s.InWord) (c : Char) :
    (s.mode = .bare ∧ isBlank c = true ∧ s.step c = { s.close with pos := s.pos + c.utf8Size })
      ∨ ∃ text mode, Adds s.pos s.mode c text mode ∧ s.step c = s.add [c] text mode := by
  rcases s.adds_or_blank c with ⟨hmode, hc⟩ | ⟨text, mode, hadds⟩
  · exact .inl ⟨hmode, hc, step_blank hmode hc⟩
  · exact .inr ⟨text, mode, hadds, step_of_adds hin rfl hadds⟩

/-! ## Reading a derivation -/

theorem scan_escaped (hmode : s.mode = .bare) (c : Char) :
    scan s ['\\', c] = s.add ['\\', c] [c] .bare := by
  rw [scan_cons, step_of_adds (.inl hmode) hmode .backslash, scan_cons,
    step_of_adds (inWord_add ..) rfl (.escaped _ c), add_add]
  rfl

theorem scan_single {run : List Char} (h : '\'' ∉ run) {opened : Nat} (hin : s.InWord)
    (hmode : s.mode = .single opened) :
    scan s (run ++ ['\'']) = s.add (run ++ ['\'']) run .bare := by
  induction run generalizing s with
  | nil => exact step_of_adds hin hmode (.endSingle opened)
  | cons c run ih =>
    rw [List.mem_cons, not_or] at h
    rw [List.cons_append, scan_cons, step_of_adds hin hmode (.inSingle opened (Ne.symm h.1)),
      ih h.2 (inWord_add ..) rfl, add_add]
    rfl

theorem scan_double {run text : List Char} (h : DoubleQuoted run text) {opened : Nat}
    (hin : s.InWord) (hmode : s.mode = .double opened) :
    scan s (run ++ ['"']) = s.add (run ++ ['"']) text .bare := by
  induction h generalizing s with
  | nil => exact step_of_adds hin hmode (.endDouble opened)
  | plain hquote hback _ ih =>
    rw [List.cons_append, scan_cons, step_of_adds hin hmode (.inDouble opened hquote hback),
      ih (inWord_add ..) rfl, add_add]
    rfl
  | escaped hc _ ih =>
    rw [List.cons_append, List.cons_append, scan_cons, scan_cons,
      step_of_adds hin hmode (.doubleBackslash opened),
      step_of_adds (inWord_add ..) rfl (.doubleEscaped opened hc), add_add,
      ih (inWord_add ..) rfl, add_add]
    rfl
  | @kept c run text hc _ ih =>
    obtain ⟨hquote, hback⟩ := ne_of_not_escapable hc
    -- The backslash might as well have been read as a plain character.
    have hsteps : (s.step '\\').step c = (s.add ['\\'] ['\\'] (.double opened)).step c := by
      rw [step_of_adds hin hmode (.doubleBackslash opened),
        step_of_adds (inWord_add ..) rfl (.doubleKept opened hc),
        step_of_adds (inWord_add ..) rfl (.inDouble opened hquote hback), add_add, add_add]
      rfl
    have hread := @ih (s.add ['\\'] ['\\'] (.double opened)) (inWord_add ..) rfl
    rw [List.cons_append, scan_cons] at hread ⊢
    rw [List.cons_append, scan_cons, hsteps, hread, add_add]
    rfl

theorem scan_piece {cs text : List Char} (h : Piece cs text) (hmode : s.mode = .bare) :
    scan s cs = s.add cs text .bare := by
  cases h with
  | plain hblank hsingle hdouble hback =>
    exact step_of_adds (.inl hmode) hmode (.plain hblank hsingle hdouble hback)
  | escaped c => exact scan_escaped hmode c
  | single h =>
    rw [scan_cons, step_of_adds (.inl hmode) hmode .single, scan_single h (inWord_add ..) rfl,
      add_add]
    rfl
  | double h =>
    rw [scan_cons, step_of_adds (.inl hmode) hmode .double, scan_double h (inWord_add ..) rfl,
      add_add]
    rfl

theorem scan_pieces {cs text : List Char} (h : Pieces cs text) (hmode : s.mode = .bare)
    (hword : s.word ≠ none) : scan s cs = s.add cs text .bare := by
  induction h generalizing s with
  | nil =>
    obtain ⟨w, hw⟩ := Option.ne_none_iff_exists'.1 hword
    rw [scan_nil, add_nil hw hmode]
  | cons h _ ih => rw [scan_append, scan_piece h hmode, ih (add_mode ..) (by simp), add_add]

theorem scan_word {cs text : List Char} (h : Word cs text) (hmode : s.mode = .bare) :
    scan s cs = s.add cs text .bare := by
  obtain ⟨h, t⟩ := h
  rw [scan_append, scan_piece h hmode, scan_pieces t (add_mode ..) (by simp), add_add]

/-- The texts of the words, if the line ended here. -/
def texts (s : Scan) : List String := s.close.finished.reverse.map Token.text

@[simp] theorem close_mode (s : Scan) : s.close.mode = s.mode := by
  unfold close
  split <;> rfl

@[simp] theorem close_word (s : Scan) : s.close.word = none := by
  unfold close
  split <;> simp_all

theorem texts_close (s : Scan) (pos : Nat) : { s.close with pos := pos }.texts = s.texts := by
  cases hword : s.word <;> simp [texts, close, hword]

theorem texts_add (hword : s.word = none) (cs text : List Char) :
    (s.add cs text .bare).texts = s.texts ++ [String.ofList text] := by
  simp [texts, close, add, opening, hword]

theorem scan_blanks {gap : List Char} (h : Blanks gap) (hmode : s.mode = .bare) :
    (scan s gap).mode = .bare ∧ (gap ≠ [] ∨ s.word = none → (scan s gap).word = none)
      ∧ (scan s gap).texts = s.texts := by
  induction gap generalizing s with
  | nil => simp [hmode]
  | cons c gap ih =>
    obtain ⟨hc, hgap⟩ := List.forall_mem_cons.1 h
    rw [scan_cons, step_blank hmode hc]
    obtain ⟨hbare, hnone, htexts⟩ :=
      @ih { s.close with pos := s.pos + c.utf8Size } hgap (by simp [close_mode, hmode])
    exact ⟨hbare, fun _ => hnone (.inr s.close_word), htexts.trans (s.texts_close _)⟩

theorem scan_separated {cs : List Char} {texts : List (List Char)} (h : Separated cs texts)
    (hmode : s.mode = .bare) (hword : s.word = none) :
    (scan s cs).mode = .bare ∧ (texts ≠ [] → (scan s cs).word ≠ none)
      ∧ (scan s cs).texts = s.texts ++ texts.map String.ofList := by
  induction h generalizing s with
  | nil => simp [hmode]
  | word h => simp [scan_word h hmode, texts_add hword]
  | cons h hne hgap _ ih =>
    obtain ⟨hbare, hnone, htexts⟩ := scan_blanks hgap (add_mode s _ _ .bare)
    obtain ⟨hbare', hword', htexts'⟩ := ih hbare (hnone (.inl hne))
    rw [scan_append, scan_append, scan_word h hmode]
    refine ⟨hbare', fun _ => hword' (List.cons_ne_nil _ _), ?_⟩
    rw [htexts', htexts, texts_add hword]
    simp

theorem scan_flush {cs : List Char} {texts : List (List Char)} (h : Flush cs texts) :
    (scan start cs).mode = .bare ∧ (texts ≠ [] → (scan start cs).word ≠ none)
      ∧ (scan start cs).texts = texts.map String.ofList := by
  obtain ⟨lead, body, hlead, hbody, rfl⟩ := h
  obtain ⟨hbare, hnone, htexts⟩ := scan_blanks (s := start) hlead rfl
  rw [scan_append]
  obtain ⟨hbare', hword', htexts'⟩ := scan_separated hbody hbare (hnone (.inr rfl))
  exact ⟨hbare', hword', by rw [htexts', htexts]; rfl⟩

theorem finish_of_bare (hmode : s.mode = .bare) : s.finish = .ok s.close.finished.reverse := by
  rw [finish, hmode]

end Scan

/-! ## Deriving what was read -/

theorem Line.nil : Line [] [] :=
  ⟨[], [], ⟨[], [], by simp [Blanks], .nil, rfl⟩, by simp [Blanks], rfl⟩

theorem Line.blank {c : Char} {cs : List Char} {texts : List (List Char)} (hc : isBlank c = true)
    (h : Line cs texts) : Line (c :: cs) texts := by
  obtain ⟨begun, trail, ⟨lead, body, hlead, hbody, rfl⟩, htrail, rfl⟩ := h
  refine ⟨c :: (lead ++ body), trail, ⟨c :: lead, body, ?_, hbody, rfl⟩, htrail, rfl⟩
  exact List.forall_mem_cons.2 ⟨hc, hlead⟩

/-- What may follow a word: nothing, or a blank and a line. -/
inductive AfterWord : List Char → List (List Char) → Prop where
  | nil : AfterWord [] []
  | blank {c : Char} {cs : List Char} {texts : List (List Char)} (hc : isBlank c = true)
      (h : Line cs texts) : AfterWord (c :: cs) texts

theorem Line.word {cs rest text : List Char} {texts : List (List Char)} (h : Word cs text)
    (hrest : AfterWord rest texts) : Line (cs ++ rest) (text :: texts) := by
  have hflush : Flush cs [text] := ⟨[], cs, by simp [Blanks], .word h, rfl⟩
  cases hrest with
  | nil => exact ⟨cs, [], hflush, by simp [Blanks], rfl⟩
  | @blank c rest texts hc hline =>
    obtain ⟨begun, trail, ⟨lead, body, hlead, hbody, rfl⟩, htrail, rfl⟩ := hline
    have hgap : Blanks (c :: lead) := List.forall_mem_cons.2 ⟨hc, hlead⟩
    cases texts with
    | nil =>
      cases hbody
      refine ⟨cs, c :: (lead ++ trail), hflush, ?_, by simp⟩
      exact List.forall_mem_append.2 ⟨hgap, htrail⟩
    | cons next texts =>
      refine ⟨cs ++ (c :: lead ++ body), trail, ⟨[], _, by simp [Blanks], ?_, rfl⟩, htrail,
        by simp⟩
      exact .cons h (List.cons_ne_nil c lead) hgap hbody

/-- What may follow a word of which `begun` is read, and the texts of this and the later words. -/
def Continues (begun cs : List Char) (texts : List (List Char)) : Prop :=
  ∃ part rest text later, Pieces part text ∧ AfterWord rest later ∧ cs = part ++ rest
    ∧ texts = (begun ++ text) :: later

theorem Continues.piece {begun cs rest text : List Char} {texts : List (List Char)}
    (hp : Piece cs text) (h : Continues (begun ++ text) rest texts) :
    Continues begun (cs ++ rest) texts := by
  obtain ⟨part, rest, more, later, hpart, hrest, rfl, rfl⟩ := h
  exact ⟨cs ++ part, rest, text ++ more, later, .cons hp hpart, hrest, by simp, by simp⟩

theorem Line.of_continues {cs rest text : List Char} {texts : List (List Char)}
    (hp : Piece cs text) (h : Continues text rest texts) : Line (cs ++ rest) texts := by
  obtain ⟨part, rest, more, later, hpart, hrest, rfl, rfl⟩ := h
  rw [← List.append_assoc]
  exact .word (.mk hp hpart) hrest

namespace Scan

variable {s : Scan}

/-- What is read of the unfinished word. -/
def begun (s : Scan) : List Char := s.opening.1.toList

/-- What the rest of the line must be, and the texts of the words that it finishes. -/
def Awaits (s : Scan) (cs : List Char) (texts : List (List Char)) : Prop :=
  match s.mode with
  | .bare =>
    match s.word with
    | none => Line cs texts
    | some _ => Continues s.begun cs texts
  | .escaped _ => ∃ c rest, cs = c :: rest ∧ Continues (s.begun ++ [c]) rest texts
  | .single _ =>
    ∃ run rest, '\'' ∉ run ∧ cs = run ++ '\'' :: rest ∧ Continues (s.begun ++ run) rest texts
  | .double _ =>
    ∃ run text rest, DoubleQuoted run text ∧ cs = run ++ '"' :: rest
      ∧ Continues (s.begun ++ text) rest texts
  | .doubleEscaped _ =>
    ∃ run text rest, DoubleQuoted run text ∧ '\\' :: cs = run ++ '"' :: rest
      ∧ Continues (s.begun ++ text) rest texts

/-- The texts of the finished words. -/
def done (s : Scan) : List (List Char) := s.finished.reverse.map fun t => t.text.toList

@[simp] theorem begun_add (s : Scan) (cs text : List Char) (mode : Mode) :
    (s.add cs text mode).begun = s.begun ++ text := by
  simp [begun, opening]

@[simp] theorem done_add (s : Scan) (cs text : List Char) (mode : Mode) :
    (s.add cs text mode).done = s.done := rfl

theorem awaits_of_piece {cs rest text : List Char} {texts : List (List Char)}
    (hmode : s.mode = .bare) (hp : Piece cs text) (h : Continues (s.begun ++ text) rest texts) :
    s.Awaits (cs ++ rest) texts := by
  unfold Awaits
  rw [hmode]
  cases hword : s.word with
  | none =>
    have hbegun : s.begun = [] := by simp [begun, opening, hword]
    rw [hbegun, List.nil_append] at h
    exact .of_continues hp h
  | some w => exact .piece hp h

theorem awaits_bare {cs : List Char} {texts : List (List Char)} {as text : List Char} :
    (s.add as text .bare).Awaits cs texts ↔ Continues (s.begun ++ text) cs texts := by
  simp [Awaits]

theorem awaits_of_adds {c : Char} {cs text : List Char} {texts : List (List Char)}
    {mode mode' : Mode} (hmode : s.mode = mode) (h : Adds s.pos mode c text mode')
    (ha : (s.add [c] text mode').Awaits cs texts) : s.Awaits (c :: cs) texts := by
  cases h with
  | plain hblank hsingle hdouble hback =>
    exact awaits_of_piece hmode (.plain hblank hsingle hdouble hback) (awaits_bare.1 ha)
  | backslash =>
    obtain ⟨d, rest, rfl, hrest⟩ := ha
    exact awaits_of_piece hmode (.escaped d) (by simpa using hrest)
  | single =>
    obtain ⟨run, rest, hrun, rfl, hrest⟩ := ha
    simpa using awaits_of_piece hmode (.single hrun) (by simpa using hrest)
  | double =>
    obtain ⟨run, text, rest, hrun, rfl, hrest⟩ := ha
    simpa using awaits_of_piece hmode (.double hrun) (by simpa using hrest)
  | escaped =>
    rw [Awaits, hmode]
    exact ⟨c, cs, rfl, awaits_bare.1 ha⟩
  | inSingle opened hc =>
    obtain ⟨run, rest, hrun, rfl, hrest⟩ := ha
    rw [Awaits, hmode]
    refine ⟨c :: run, rest, ?_, rfl, by simpa using hrest⟩
    exact List.not_mem_cons_of_ne_of_not_mem (Ne.symm hc) hrun
  | endSingle opened =>
    rw [Awaits, hmode]
    exact ⟨[], cs, List.not_mem_nil, rfl, awaits_bare.1 ha⟩
  | inDouble opened hquote hback =>
    obtain ⟨run, text, rest, hrun, rfl, hrest⟩ := ha
    rw [Awaits, hmode]
    exact ⟨c :: run, c :: text, rest, .plain hquote hback hrun, rfl, by simpa using hrest⟩
  | endDouble opened =>
    rw [Awaits, hmode]
    exact ⟨[], [], cs, .nil, rfl, awaits_bare.1 ha⟩
  | doubleBackslash opened =>
    obtain ⟨run, text, rest, hrun, heq, hrest⟩ := ha
    rw [Awaits, hmode]
    exact ⟨run, text, rest, hrun, heq, by simpa using hrest⟩
  | doubleEscaped opened hc =>
    obtain ⟨run, text, rest, hrun, rfl, hrest⟩ := ha
    rw [Awaits, hmode]
    exact ⟨'\\' :: c :: run, c :: text, rest, .escaped hc hrun, rfl, by simpa using hrest⟩
  | doubleKept opened hc =>
    obtain ⟨hquote, hback⟩ := ne_of_not_escapable hc
    obtain ⟨run, text, rest, hrun, rfl, hrest⟩ := ha
    rw [Awaits, hmode]
    exact ⟨'\\' :: c :: run, '\\' :: c :: text, rest, .kept hc (.plain hquote hback hrun), rfl,
      by simpa using hrest⟩

theorem awaits_of_blank {c : Char} {cs : List Char} {texts : List (List Char)}
    {pos : Nat} (hmode : s.mode = .bare) (hc : isBlank c = true)
    (h : Awaits { s.close with pos := pos } cs texts) :
    ∃ more, s.Awaits (c :: cs) more
      ∧ done { s.close with pos := pos } ++ texts = s.done ++ more := by
  have hline : Line cs texts := by simpa [Awaits, hmode] using h
  cases hword : s.word with
  | none =>
    refine ⟨texts, ?_, by simp [done, close, hword]⟩
    rw [Awaits, hmode, hword]
    exact .blank hc hline
  | some w =>
    refine ⟨w.1.toList :: texts, ?_, by simp [done, close, hword]⟩
    rw [Awaits, hmode, hword]
    exact ⟨[], c :: cs, [], texts, .nil, .blank hc hline, rfl, by simp [begun, opening, hword]⟩

theorem inWord_step (hin : s.InWord) (c : Char) : (s.step c).InWord := by
  rcases step_cases hin c with ⟨hmode, -, hstep⟩ | ⟨text, mode, -, hstep⟩
  · rw [hstep]
    exact .inl (by simp [hmode])
  · rw [hstep]
    exact inWord_add ..

theorem awaits_of_step {c : Char} {cs : List Char} {texts : List (List Char)} (hin : s.InWord)
    (h : (s.step c).Awaits cs texts) :
    ∃ more, s.Awaits (c :: cs) more ∧ (s.step c).done ++ texts = s.done ++ more := by
  rcases step_cases hin c with ⟨hmode, hc, hstep⟩ | ⟨text, mode, hadds, hstep⟩
  · rw [hstep] at h ⊢
    exact awaits_of_blank hmode hc h
  · rw [hstep] at h ⊢
    exact ⟨texts, awaits_of_adds rfl hadds h, by rw [done_add]⟩

theorem awaits_of_finish {cs : List Char} {tokens : List Token} (hin : s.InWord)
    (h : (scan s cs).finish = .ok tokens) :
    ∃ texts, s.Awaits cs texts ∧ tokens.map (fun t => t.text.toList) = s.done ++ texts := by
  induction cs generalizing s with
  | nil =>
    cases hmode : s.mode with
    | bare =>
      rw [scan_nil, finish_of_bare hmode] at h
      cases h
      cases hword : s.word with
      | none =>
        refine ⟨[], ?_, by simp [close, hword, done]⟩
        rw [Awaits, hmode, hword]
        exact .nil
      | some w =>
        refine ⟨[w.1.toList], ?_, by simp [close, hword, done]⟩
        rw [Awaits, hmode, hword]
        exact ⟨[], [], [], [], .nil, .nil, rfl, by simp [begun, opening, hword]⟩
    | _ =>
      rw [scan_nil, finish, hmode] at h
      cases h
  | cons c cs ih =>
    obtain ⟨texts, hawaits, htexts⟩ := ih (inWord_step hin c) h
    obtain ⟨more, hmore, heq⟩ := awaits_of_step hin hawaits
    exact ⟨more, hmore, htexts.trans heq⟩

end Scan

theorem tokenize_of_line {line : String} {texts : List (List Char)} (h : Line line.toList texts) :
    ∃ tokens, tokenize line = .ok tokens ∧ tokens.map Token.text = texts.map String.ofList := by
  obtain ⟨begun, trail, hbegun, htrail, hline⟩ := h
  obtain ⟨hbare, -, htexts⟩ := Scan.scan_flush hbegun
  obtain ⟨hbare', -, htexts'⟩ := Scan.scan_blanks htrail hbare
  refine ⟨_, ?_, htexts'.trans htexts⟩
  rw [tokenize, hline, scan_append, Scan.finish_of_bare hbare']

theorem line_of_tokenize {line : String} {tokens : List Token} (h : tokenize line = .ok tokens) :
    Line line.toList (tokens.map fun t => t.text.toList) := by
  obtain ⟨texts, hline, htexts⟩ := Scan.awaits_of_finish (s := .start) (.inl rfl) h
  rw [htexts]
  exact hline

theorem tokenize_eq_ok_iff (line : String) (texts : List String) :
    (∃ tokens, tokenize line = .ok tokens ∧ tokens.map Token.text = texts)
      ↔ Line line.toList (texts.map String.toList) := by
  constructor
  · rintro ⟨tokens, htokens, rfl⟩
    simpa [Function.comp_def] using line_of_tokenize htokens
  · intro h
    simpa using tokenize_of_line h

theorem tokenize_eq_error_iff (line : String) :
    (∃ e, tokenize line = .error e)
      ↔ ¬ ∃ texts : List String, Line line.toList (texts.map String.toList) := by
  simp only [← tokenize_eq_ok_iff]
  cases tokenize line <;> simp

end GitPractice.Shell
