import Mathlib.Data.List.DropRight
import GitPractice.Proofs.JsonToken

/-!
# Printed JSON can be read

A value that is `Written` with texts, whole numbers, words, lists and tables is read back from its
pretty text as it was, whatever characters its texts hold (`read_pretty`).

Leading space does not matter to the reader, so neither do line breaks and indentation; a list or a
table is read line by line (`readItems_lines`, `readEntries_lines`). The reader's bound on its
steps is never reached, because a text has more characters than the reader takes steps through it
(`ReadsAs`).
-/

namespace GitPractice

/-- The value has a spelling: `other` occurs nowhere in it. -/
inductive Datum.Written : Datum → Prop where
  | null : Written .null
  | bool (b : Bool) : Written (.bool b)
  | integer (n : Int) : Written (.integer n)
  | text (s : String) : Written (.text s)
  | list {items : List Datum} (h : ∀ d ∈ items, Written d) : Written (.list items)
  | table {entries : List (String × Datum)} (h : ∀ e ∈ entries, Written e.2) :
      Written (.table entries)

namespace Json

open Text (joinWith isDigit)

/-! ## Space -/

/-- Nothing but space. -/
def IsGap (cs : List Char) : Prop := ∀ c ∈ cs, isSpace c = true

theorem skipSpace_append {gap cs : List Char} (h : IsGap gap) :
    skipSpace (gap ++ cs) = skipSpace cs := List.dropWhile_append_of_pos h

theorem skipSpace_cons {c : Char} {cs : List Char} (h : isSpace c = false) :
    skipSpace (c :: cs) = c :: cs := List.dropWhile_cons_of_neg (by simp [h])

theorem skipSpace_skipSpace (cs : List Char) : skipSpace (skipSpace cs) = skipSpace cs :=
  List.dropWhile_idempotent _ _

/-- Space at the front makes no difference to what is read. -/
def IgnoresSpace {α : Type} (reader : List Char → α) : Prop :=
  ∀ cs, reader (skipSpace cs) = reader cs

theorem IgnoresSpace.gap {α : Type} {reader : List Char → α} (h : IgnoresSpace reader)
    {gap : List Char} (hgap : IsGap gap) (cs : List Char) : reader (gap ++ cs) = reader cs := by
  rw [← h, skipSpace_append hgap, h]

theorem readValue_ignoresSpace (n : Nat) : IgnoresSpace (readValue n) := by
  intro cs
  cases n with
  | zero => rfl
  | succ n => rw [readValue, readValue, skipSpace_skipSpace]

theorem readItems_ignoresSpace (n : Nat) : IgnoresSpace (readItems n) := by
  intro cs
  cases n with
  | zero => rfl
  | succ n => rw [readItems, readItems, readValue_ignoresSpace]

theorem readEntries_ignoresSpace (n : Nat) : IgnoresSpace (readEntries n) := by
  intro cs
  cases n with
  | zero => rfl
  | succ n => rw [readEntries, readEntries, skipSpace_skipSpace]

theorem ends_cons {c : Char} {cs : List Char}
    (h : isSpace c = true ∨ c = ',' ∨ c = ']' ∨ c = '}') : Ends (c :: cs) := by
  intro d hd
  cases hd
  exact h

theorem ends_gap {gap cs : List Char} (hgap : IsGap gap) (hcs : Ends cs) : Ends (gap ++ cs) := by
  cases gap with
  | nil => exact hcs
  | cons c gap => exact ends_cons (.inl (hgap c List.mem_cons_self))

theorem isGap_newline : IsGap ['\n'] := by simp [IsGap, isSpace]

/-! ## Values -/

/-- The character that begins a number is not one that begins anything else. -/
theorem numeral_ne {c d : Char} (hc : c = '-' ∨ isDigit c = true)
    (hd : d ≠ '-' ∧ isDigit d = false) : c ≠ d := by
  rintro rfl
  rcases hc with h | h
  · exact hd.1 h
  · rw [hd.2] at h
    cases h

theorem not_space_of_numeral {c : Char} (hc : c = '-' ∨ isDigit c = true) :
    isSpace c = false := by
  have hne (d : Char) := numeral_ne (d := d) hc
  simp [isSpace, hne ' ' (by decide), hne '\n' (by decide), hne '\t' (by decide),
    hne '\r' (by decide)]

theorem readScalar_of_numeral {c : Char} {cs : List Char} (hc : c = '-' ∨ isDigit c = true) :
    readScalar (c :: cs) = readNumber (c :: cs) := by
  unfold readScalar
  split
  · rename_i h
    exact absurd (List.cons.inj h).1 (numeral_ne hc (by decide))
  · rename_i h
    exact absurd (List.cons.inj h).1 (numeral_ne hc (by decide))
  · rename_i h
    exact absurd (List.cons.inj h).1 (numeral_ne hc (by decide))
  · rfl

theorem readValue_integer (n : Nat) (i : Int) {rest : List Char} (h : Ends rest) :
    readValue (n + 1) (i.repr.toList ++ rest) = some (.integer i, rest) := by
  obtain ⟨c, cs, hcs, hc⟩ := repr_eq_cons i
  have hread := readNumber_repr i h
  rw [hcs, List.cons_append] at hread ⊢
  rw [readValue, skipSpace_cons (not_space_of_numeral hc)]
  split
  · rename_i h
    exact absurd (List.cons.inj h).1 (numeral_ne hc (by decide))
  · rename_i h
    exact absurd (List.cons.inj h).1 (numeral_ne hc (by decide))
  · rename_i h
    exact absurd (List.cons.inj h).1 (numeral_ne hc (by decide))
  · rw [readScalar_of_numeral hc, hread]

theorem readValue_quoted (n : Nat) (s : String) (rest : List Char) :
    readValue (n + 1) ((quoted s).toList ++ rest) = some (.text s, rest) := by
  have htext : (quoted s).toList ++ rest = '"' :: (s.toList.flatMap escape ++ '"' :: rest) := by
    simp [quoted]
  rw [htext, readValue, skipSpace_cons rfl]
  simp only [readQuoted_escapes, Option.map_some, textDatum]

/-! ## Lists and tables -/

theorem readItems_closed (n : Nat) (rest : List Char) : readItems n (']' :: rest) = none := by
  rcases n with _ | _ | n <;> rfl

theorem readEntries_closed (n : Nat) (rest : List Char) : readEntries n ('}' :: rest) = none := by
  cases n <;> rfl

theorem readValue_list {n : Nat} {cs rest : List Char} {items : List Datum}
    (h : readItems n cs = some (items, rest)) :
    readValue (n + 1) ('[' :: cs) = some (.list items, rest) := by
  have hitems : readItems n (skipSpace cs) = some (items, rest) := by rw [readItems_ignoresSpace, h]
  rw [readValue, skipSpace_cons rfl]
  simp only []
  split
  · rename_i r hr
    rw [hr, readItems_closed] at hitems
    cases hitems
  · rw [hitems]
    rfl

theorem readValue_table {n : Nat} {cs rest : List Char}
    {entries : List (Option String × Datum)} (h : readEntries n cs = some (entries, rest)) :
    readValue (n + 1) ('{' :: cs) = some (tableDatum entries, rest) := by
  have hentries : readEntries n (skipSpace cs) = some (entries, rest) := by
    rw [readEntries_ignoresSpace, h]
  rw [readValue, skipSpace_cons rfl]
  simp only []
  split
  · rename_i r hr
    rw [hr, readEntries_closed] at hentries
    cases hentries
  · rw [hentries]
    rfl

/-- The text is read as the value, whatever follows it, in as many steps as it has characters. -/
def ReadsAs (text : String) (d : Datum) : Prop :=
  ∀ n rest, Ends rest → text.toList.length < n → readValue n (text.toList ++ rest) = some (d, rest)

/-- The lines of a block, each after the same gap. -/
def linesText (gap : String) (lines : List String) : List Char :=
  (joinWith ",\n" (lines.map (gap ++ ·))).toList

theorem linesText_singleton (gap line : String) :
    linesText gap [line] = gap.toList ++ line.toList := by simp [linesText, joinWith]

theorem linesText_cons (gap line next : String) (lines : List String) :
    linesText gap (line :: next :: lines)
      = gap.toList ++ line.toList ++ ',' :: '\n' :: linesText gap (next :: lines) := by
  simp [linesText, joinWith]

section Lines

variable {gap : String} {tail : List Char} {f : Datum → String}

/-- The items are read one by one: each but the last is followed by a comma and a line break, the
last by the gap in front of the bracket. -/
theorem readItems_lines (hgap : IsGap gap.toList) (htail : IsGap tail) (rest : List Char) :
    ∀ {items : List Datum} {n : Nat}, items ≠ [] → (∀ d ∈ items, ReadsAs (f d) d) →
      (linesText gap (items.map f)).length + 1 < n →
      readItems n (linesText gap (items.map f) ++ (tail ++ ']' :: rest)) = some (items, rest)
  | [], _, h, _, _ => absurd rfl h
  | _, 0, _, _, hn => absurd hn (Nat.not_lt_zero _)
  | [d], n + 1, _, hread, hn => by
    have hd := hread d (by simp)
    rw [List.map_cons, List.map_nil, linesText_singleton, List.length_append] at hn
    rw [List.map_cons, List.map_nil, linesText_singleton, List.append_assoc, readItems,
      (readValue_ignoresSpace _).gap hgap, hd n _ (ends_gap htail (ends_cons (by simp))) (by omega)]
    simp only [skipSpace_append htail, skipSpace_cons (c := ']') rfl]
  | d :: e :: r, n + 1, _, hread, hn => by
    have hd := hread d (by simp)
    rw [List.map_cons, List.map_cons, linesText_cons] at hn
    simp only [List.length_append, List.length_cons] at hn
    have ih : readItems n (linesText gap ((e :: r).map f) ++ (tail ++ ']' :: rest))
        = some (e :: r, rest) :=
      readItems_lines hgap htail rest (List.cons_ne_nil e r)
        (fun d' hd' => hread d' (List.mem_cons_of_mem _ hd')) (by rw [List.map_cons]; omega)
    rw [List.map_cons] at ih
    rw [List.map_cons, List.map_cons, linesText_cons, List.append_assoc, List.append_assoc,
      readItems, (readValue_ignoresSpace _).gap hgap, List.cons_append,
      hd n _ (ends_cons (by simp)) (by omega)]
    simp only [skipSpace_cons (c := ',') rfl]
    rw [List.cons_append, ← List.singleton_append, (readItems_ignoresSpace _).gap isGap_newline, ih]
    rfl

/-- The text of an entry of a table. -/
def entryText (f : Datum → String) (e : String × Datum) : String := quoted e.1 ++ ": " ++ f e.2

theorem readEntries_entry (hgap : IsGap gap.toList) {e : String × Datum} {n : Nat}
    {rest r : List Char} (hread : ReadsAs (f e.2) e.2) (hrest : Ends rest)
    (hn : (entryText f e).toList.length ≤ n) :
    (skipSpace rest = ',' :: r →
      readEntries (n + 1) (gap.toList ++ ((entryText f e).toList ++ rest))
        = (readEntries n r).map fun u => ((some e.1, e.2) :: u.1, u.2))
    ∧ (skipSpace rest = '}' :: r →
      readEntries (n + 1) (gap.toList ++ ((entryText f e).toList ++ rest))
        = some ([(some e.1, e.2)], r)) := by
  have htext : (entryText f e).toList ++ rest
      = '"' :: (e.1.toList.flatMap escape ++ '"' :: ':' :: ' ' :: ((f e.2).toList ++ rest)) := by
    simp [entryText, quoted]
  have hlength : (f e.2).toList.length < n := by
    simp [entryText, quoted] at hn ⊢
    omega
  have hspace : IsGap [' '] := by simp [IsGap, isSpace]
  have hvalue : readValue n (' ' :: ((f e.2).toList ++ rest)) = some (e.2, rest) := by
    rw [← List.singleton_append, (readValue_ignoresSpace _).gap hspace, hread n rest hrest hlength]
  rw [(readEntries_ignoresSpace _).gap hgap, htext, readEntries, skipSpace_cons (c := '"') rfl]
  simp only [readQuoted_escapes, skipSpace_cons (c := ':') rfl, hvalue]
  constructor
  · intro h
    simp only [h]
  · intro h
    simp only [h]

theorem readEntries_lines (hgap : IsGap gap.toList) (htail : IsGap tail) (rest : List Char) :
    ∀ {entries : List (String × Datum)} {n : Nat}, entries ≠ [] →
      (∀ e ∈ entries, ReadsAs (f e.2) e.2) →
      (linesText gap (entries.map (entryText f))).length + 1 < n →
      readEntries n (linesText gap (entries.map (entryText f)) ++ (tail ++ '}' :: rest))
        = some (entries.map fun e => (some e.1, e.2), rest)
  | [], _, h, _, _ => absurd rfl h
  | _, 0, _, _, hn => absurd hn (Nat.not_lt_zero _)
  | [e], n + 1, _, hread, hn => by
    have he := hread e (by simp)
    rw [List.map_cons, List.map_nil, linesText_singleton, List.length_append] at hn
    have hends : skipSpace (tail ++ '}' :: rest) = '}' :: rest := by
      rw [skipSpace_append htail, skipSpace_cons rfl]
    rw [List.map_cons, List.map_nil, linesText_singleton, List.append_assoc]
    exact (readEntries_entry hgap he (ends_gap htail (ends_cons (by simp))) (by omega)).2 hends
  | d :: e :: r, n + 1, _, hread, hn => by
    have hd := hread d (by simp)
    rw [List.map_cons, List.map_cons, linesText_cons] at hn
    simp only [List.length_append, List.length_cons] at hn
    have ih : readEntries n (linesText gap ((e :: r).map (entryText f)) ++ (tail ++ '}' :: rest))
        = some ((e :: r).map fun e => (some e.1, e.2), rest) :=
      readEntries_lines hgap htail rest (List.cons_ne_nil e r)
        (fun d' hd' => hread d' (List.mem_cons_of_mem _ hd')) (by rw [List.map_cons]; omega)
    rw [List.map_cons] at ih
    rw [List.map_cons, List.map_cons, linesText_cons, List.append_assoc, List.append_assoc,
      List.cons_append,
      (readEntries_entry hgap hd (ends_cons (by simp)) (by omega)).1 (skipSpace_cons rfl),
      List.cons_append, ← List.singleton_append, (readEntries_ignoresSpace _).gap isGap_newline, ih]
    rfl

end Lines

theorem prettyItems_eq_map (level : Nat) (items : List Datum) :
    prettyItems level items = items.map (prettyAt level) := by
  induction items with
  | nil => rfl
  | cons d ds ih => rw [prettyItems, ih, List.map_cons]

theorem prettyEntries_eq_map (level : Nat) (entries : List (String × Datum)) :
    prettyEntries level entries = entries.map (entryText (prettyAt level)) := by
  induction entries with
  | nil => rfl
  | cons e es ih => rw [prettyEntries, ih, List.map_cons, entryText]

theorem isGap_indent (level : Nat) : IsGap (indent level).toList := by
  intro c hc
  simp only [indent, String.toList_ofList, List.mem_replicate] at hc
  rw [hc.2]
  rfl

theorem isGap_newline_indent (level : Nat) : IsGap ('\n' :: (indent level).toList) := by
  intro c hc
  rcases List.mem_cons.1 hc with rfl | hc
  · rfl
  · exact isGap_indent level c hc

theorem block_toList (opening closing : String) (level : Nat) {lines : List String}
    (h : lines ≠ []) :
    (block opening closing level lines).toList
      = opening.toList ++ '\n' :: (linesText (indent (level + 1)) lines
          ++ ('\n' :: (indent level).toList ++ closing.toList)) := by
  obtain ⟨line, lines, rfl⟩ := List.exists_cons_of_ne_nil h
  simp [block, linesText]

theorem tableDatum_some (entries : List (String × Datum)) :
    tableDatum (entries.map fun e => (some e.1, e.2)) = .table entries := by
  have hnamed : (entries.map fun e => (some e.1, e.2)).mapM
      (fun e : Option String × Datum => e.1.map (·, e.2)) = some entries := by
    induction entries with
    | nil => rfl
    | cons e es ih => simp [ih]
  rw [tableDatum, hnamed]

theorem readsAs_of_succ {text : String} {d : Datum}
    (h : ∀ n rest, Ends rest → text.toList.length ≤ n →
      readValue (n + 1) (text.toList ++ rest) = some (d, rest)) : ReadsAs text d := by
  rintro (_ | n) rest hrest hn
  · cases hn
  · exact h n rest hrest (Nat.le_of_lt_succ hn)

theorem readsAs_prettyAt {d : Datum} (h : d.Written) (level : Nat) :
    ReadsAs (prettyAt level d) d := by
  induction h generalizing level with
  | null =>
    refine readsAs_of_succ fun n rest _ _ => ?_
    simp [prettyAt, scalar, readValue, skipSpace_cons, isSpace, readScalar]
  | bool b =>
    refine readsAs_of_succ fun n rest _ _ => ?_
    cases b <;> simp [prettyAt, scalar, readValue, skipSpace_cons, isSpace, readScalar]
  | integer i => exact readsAs_of_succ fun n rest hrest _ => readValue_integer n i hrest
  | text s => exact readsAs_of_succ fun n rest _ _ => readValue_quoted n s rest
  | @list items _ ih =>
    refine readsAs_of_succ fun n rest _ hn => ?_
    rw [prettyAt, prettyItems_eq_map] at hn ⊢
    by_cases hitems : items = []
    · subst hitems
      simp [block, readValue, skipSpace_cons, isSpace]
    have hlines : items.map (prettyAt (level + 1)) ≠ [] := by simpa using hitems
    rw [block_toList _ _ _ hlines] at hn ⊢
    simp only [List.length_append, List.length_cons] at hn
    have hread := readItems_lines (f := prettyAt (level + 1)) (n := n) (isGap_indent (level + 1))
      (isGap_newline_indent level) rest hitems (fun d hd => ih d hd (level + 1)) (by omega)
    rw [← (readItems_ignoresSpace _).gap isGap_newline] at hread
    simpa using readValue_list hread
  | @table entries _ ih =>
    refine readsAs_of_succ fun n rest _ hn => ?_
    rw [prettyAt, prettyEntries_eq_map] at hn ⊢
    by_cases hentries : entries = []
    · subst hentries
      simp [block, readValue, skipSpace_cons, isSpace]
    have hlines : entries.map (entryText (prettyAt (level + 1))) ≠ [] := by simpa using hentries
    rw [block_toList _ _ _ hlines] at hn ⊢
    simp only [List.length_append, List.length_cons] at hn
    have hread := readEntries_lines (f := prettyAt (level + 1)) (n := n)
      (isGap_indent (level + 1)) (isGap_newline_indent level) rest hentries
      (fun e he => ih e he (level + 1)) (by omega)
    rw [← (readEntries_ignoresSpace _).gap isGap_newline] at hread
    have hvalue := readValue_table hread
    rw [tableDatum_some] at hvalue
    simpa using hvalue

theorem read_pretty {d : Datum} (h : d.Written) : read (pretty d) = some d := by
  have hread := readsAs_prettyAt h 0 ((pretty d).toList.length + 1) [] (by simp [Ends])
    (Nat.lt_succ_self _)
  rw [List.append_nil, ← pretty] at hread
  rw [read, readChars, hread]
  rfl

end Json

end GitPractice
