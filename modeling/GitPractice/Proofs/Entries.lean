import Mathlib.Data.List.Dedup
import Mathlib.Data.List.Induction
import Mathlib.Data.List.Nodup
import Mathlib.Tactic.SplitIfs
import GitPractice.OrderedMap

/-!
# The entries of ordered maps

A map and its list of entries say the same (`get?_eq_some_iff`): a new key goes to the end
(`entries_insert_of_notMem`). A map read off a list has each key in its first place with its last
value (`keys_ofList`, `get?_ofList`), and without repeated keys it is that list (`entries_ofList`).

Where each value brings its own key, two values can meet under one. Then the last of them is found
there (`get?_ofList_keyed`), so that nothing is lost exactly if all keys differ
(`keeps_ofList_keyed_iff`).

`All` says of a predicate that it holds under every key. Each operation keeps it for the entries it
leaves alone, so what is stored is all there is to check.
-/

namespace GitPractice.OrderedMap

variable {κ ν : Type} [DecidableEq κ] {m : OrderedMap κ ν} {k : κ} {v : ν}

/-- The predicate holds of every key with its value. -/
def All (m : OrderedMap κ ν) (P : κ → ν → Prop) : Prop := ∀ k v, m.get? k = some v → P k v

/-! ## Looking up -/

theorem lookup_eq_some_iff {l : List (κ × ν)} (h : (l.map Prod.fst).Nodup) :
    lookup k l = some v ↔ (k, v) ∈ l := by
  induction l with
  | nil => simp [lookup]
  | cons e r ih =>
    obtain ⟨he, hr⟩ := List.nodup_cons.1 (List.map_cons ▸ h)
    by_cases hk : e.1 = k
    · subst hk
      have hout : (e.1, v) ∉ r := fun hm => he (List.mem_map.2 ⟨(e.1, v), hm, rfl⟩)
      simp only [lookup, if_true, Option.some.injEq, List.mem_cons, hout, or_false, Prod.ext_iff,
        true_and]
      exact eq_comm
    · have hne : (k, v) ≠ e := fun hm => hk (hm ▸ rfl)
      simp only [lookup, hk, if_false, ih hr, List.mem_cons, hne, false_or]

theorem get?_eq_some_iff : m.get? k = some v ↔ (k, v) ∈ m.entries :=
  lookup_eq_some_iff m.nodup

theorem mem_keys_iff : k ∈ m.keys ↔ ∃ v, m.get? k = some v := by
  rw [← contains_iff, contains, Option.isSome_iff_exists]

theorem mem_keys_of_get? (h : m.get? k = some v) : k ∈ m.keys := mem_keys_iff.2 ⟨v, h⟩

theorem contains_eq_false_iff : m.contains k = false ↔ k ∉ m.keys := by
  rw [← contains_iff, Bool.not_eq_true]

theorem get?_eq_none_iff : m.get? k = none ↔ k ∉ m.keys := by
  rw [← contains_eq_false_iff, contains, Option.isSome_eq_false_iff, Option.isNone_iff_eq_none]

/-- Values that hold their own keys can be selected by key. -/
theorem map_filter_values {key : ν → κ} {p : ν → Bool} {q : κ → Bool}
    (h : ∀ k v, m.get? k = some v → key v = k ∧ p v = q k) :
    (m.values.filter p).map key = m.keys.filter q := by
  have hentry {e : κ × ν} (he : e ∈ m.entries) : key e.2 = e.1 ∧ p e.2 = q e.1 :=
    h e.1 e.2 (get?_eq_some_iff.2 he)
  rw [values, keys, List.filter_map, List.filter_map, List.map_map]
  calc (m.entries.filter (p ∘ Prod.snd)).map (key ∘ Prod.snd)
      = (m.entries.filter (q ∘ Prod.fst)).map (key ∘ Prod.snd) :=
        congrArg _ (List.filter_congr fun e he => (hentry he).2)
    _ = (m.entries.filter (q ∘ Prod.fst)).map Prod.fst :=
        List.map_congr_left fun e he => (hentry (List.mem_filter.1 he).1).1

/-! ## Operations -/

theorem mem_keys_insert (k' : κ) : k' ∈ (m.insert k v).keys ↔ k' = k ∨ k' ∈ m.keys := by
  rw [keys_insert]
  split_ifs with hk
  · exact ⟨Or.inr, fun h => h.elim (fun h => h ▸ hk) id⟩
  · rw [List.mem_append, List.mem_singleton, or_comm]

theorem mem_keys_erase (k' : κ) : k' ∈ (m.erase k).keys ↔ k' ≠ k ∧ k' ∈ m.keys := by
  simp only [mem_keys_iff, get?_erase]
  by_cases hk : k = k'
  · simp [hk]
  · simp [hk, Ne.symm hk]

theorem get?_modify_eq_some {f : ν → ν} {k' : κ} {v' : ν} (h : (m.modify k f).get? k' = some v') :
    ∃ v, m.get? k' = some v ∧ v' = if k = k' then f v else v := by
  rw [get?_modify] at h
  split_ifs at h with hk
  · obtain ⟨v, hv, rfl⟩ := Option.map_eq_some_iff.1 h
    exact ⟨v, hv, (if_pos hk).symm⟩
  · exact ⟨v', h, (if_neg hk).symm⟩

theorem put_of_notMem {l : List (κ × ν)} (h : k ∉ l.map Prod.fst) : put k v l = l ++ [(k, v)] := by
  induction l with
  | nil => rfl
  | cons e r ih =>
    simp only [List.map_cons, List.mem_cons, not_or] at h
    simp only [put, Ne.symm h.1, if_false, ih h.2, List.cons_append]

theorem entries_insert_of_notMem (h : k ∉ m.keys) :
    (m.insert k v).entries = m.entries ++ [(k, v)] :=
  put_of_notMem h

theorem getElem?_put_of_ne {l : List (κ × ν)} {e : κ × ν} (he : e.1 ≠ k) {i : Nat} :
    (put k v l)[i]? = some e ↔ l[i]? = some e := by
  have hnew : (k, v) ≠ e := fun heq => he (heq ▸ rfl)
  induction l generalizing i with
  | nil => cases i <;> simp [put, hnew]
  | cons d r ih =>
    by_cases hd : d.1 = k
    · have hold : d ≠ e := fun heq => he (heq ▸ hd)
      cases i <;> simp [put, hd, hnew, hold]
    · cases i <;> simp [put, hd, ih]

/-- Storing under one key leaves the entries of the others in their places. -/
theorem getElem?_entries_insert_of_ne {e : κ × ν} (he : e.1 ≠ k) (i : Nat) :
    (m.insert k v).entries[i]? = some e ↔ m.entries[i]? = some e :=
  getElem?_put_of_ne he

theorem modify_modify {f : ν → ν} (hf : ∀ v, f (f v) = f v) :
    (m.modify k f).modify k f = m.modify k f := by
  apply ext
  simp only [modify, adjust, List.map_map]
  refine List.map_congr_left fun e _ => ?_
  by_cases hk : e.1 = k
  · simp [hk, hf]
  · simp [hk]

/-- A value that is there is changed by storing the changed one in its place. -/
theorem modify_eq_insert (h : m.get? k = some v) (f : ν → ν) :
    m.modify k f = m.insert k (f v) := by
  apply ext
  have hnodup := m.nodup
  change lookup k m.entries = some v at h
  change adjust k f m.entries = put k (f v) m.entries
  generalize m.entries = l at h hnodup
  induction l with
  | nil => cases h
  | cons e r ih =>
    obtain ⟨he, hr⟩ := List.nodup_cons.1 (List.map_cons ▸ hnodup)
    by_cases hk : e.1 = k
    · subst hk
      have hrest : adjust e.1 f r = r := by
        refine (List.map_congr_left fun d hd => ?_).trans r.map_id
        have hd' : d.1 ≠ e.1 := fun heq => he (heq ▸ List.mem_map_of_mem hd)
        rw [if_neg hd', id_eq]
      rw [lookup, if_pos rfl, Option.some.injEq] at h
      rw [adjust, List.map_cons, if_pos rfl, put, if_pos rfl, h]
      exact congrArg _ hrest
    · rw [lookup, if_neg hk] at h
      rw [adjust, List.map_cons, if_neg hk, put, if_neg hk]
      exact congrArg _ (ih h hr)

/-! ## Maps read off lists -/

theorem ofList_append_singleton (l : List (κ × ν)) (e : κ × ν) :
    ofList (l ++ [e]) = (ofList l).insert e.1 e.2 := by
  simp [ofList, List.foldl_append]

/-- Each key in the place where it came first. -/
theorem keys_ofList (l : List (κ × ν)) : (ofList l).keys = (l.map Prod.fst).eraseDups := by
  induction l using List.reverseRecOn with
  | nil => rfl
  | append_singleton l e ih =>
    rw [ofList_append_singleton, keys_insert, ih, List.map_append, List.map_singleton,
      List.eraseDups_append]
    by_cases hk : e.1 ∈ l.map Prod.fst
    · rw [if_pos (List.mem_eraseDups.2 hk)]
      simp [List.removeAll, List.elem_eq_contains, hk]
    · rw [if_neg (mt List.mem_eraseDups.1 hk)]
      simp [List.removeAll, List.eraseDups_cons, hk]

theorem mem_keys_ofList {l : List (κ × ν)} : k ∈ (ofList l).keys ↔ k ∈ l.map Prod.fst := by
  rw [keys_ofList, List.mem_eraseDups]

/-- Each key with the value that came last. -/
theorem get?_ofList (l : List (κ × ν)) (k : κ) :
    (ofList l).get? k = (l.reverse.find? fun e => e.1 = k).map Prod.snd := by
  induction l using List.reverseRecOn with
  | nil => rfl
  | append_singleton l e ih =>
    rw [ofList_append_singleton, get?_insert, ih, List.reverse_append, List.reverse_singleton,
      List.singleton_append, List.find?_cons]
    by_cases hk : e.1 = k
    · simp [hk]
    · simp [hk]

/-- As many entries as there are different keys. -/
theorem size_ofList (l : List (κ × ν)) : (ofList l).size = (l.map Prod.fst).dedup.length := by
  have hperm : (ofList l).keys.Perm (l.map Prod.fst).dedup := by
    refine (List.perm_ext_iff_of_nodup (ofList l).nodup (List.nodup_dedup _)).2 fun k => ?_
    rw [List.mem_dedup]
    exact mem_keys_ofList
  rw [← hperm.length_eq, keys, List.length_map, size]

theorem entries_ofList {l : List (κ × ν)} (h : (l.map Prod.fst).Nodup) :
    (ofList l).entries = l := by
  induction l using List.reverseRecOn with
  | nil => rfl
  | append_singleton l e ih =>
    rw [List.map_append, List.nodup_append] at h
    have he : e.1 ∉ (ofList l).keys := by
      intro hm
      exact h.2.2 e.1 (mem_keys_ofList.1 hm) e.1 (by simp) rfl
    rw [ofList_append_singleton, entries_insert_of_notMem he, ih h.1]

omit [DecidableEq κ] in
/-- Renaming keys apart and changing values, entry by entry, neither drops nor moves any. -/
theorem entries_ofList_map {κ' ν' : Type} [DecidableEq κ'] {g : κ → κ'}
    (hg : Function.Injective g) (f : ν → ν') (m : OrderedMap κ ν) :
    (ofList (m.entries.map fun e => (g e.1, f e.2))).entries
      = m.entries.map fun e => (g e.1, f e.2) := by
  refine entries_ofList ?_
  have hkeys : (m.entries.map fun e => (g e.1, f e.2)).map Prod.fst = m.keys.map g := by
    simp [keys]
  rw [hkeys]
  exact m.nodup.map hg

theorem ofList_entries (m : OrderedMap κ ν) : ofList m.entries = m := ext (entries_ofList m.nodup)

/-- A map is got back from images of its entries if they tell the values, and the values their
keys. -/
theorem ofList_keyed_map {ε : Type} {g : κ × ν → ε} {f : ε → ν} {key : ν → κ}
    (hvalue : ∀ e ∈ m.entries, f (g e) = e.2) (hkey : ∀ e ∈ m.entries, key e.2 = e.1) :
    ofList (((m.entries.map g).map f).map fun v => (key v, v)) = m := by
  have hback : ((m.entries.map g).map f).map (fun v => (key v, v)) = m.entries := by
    rw [List.map_map, List.map_map]
    refine (List.map_congr_left fun e he => ?_).trans (List.map_id m.entries)
    simp only [Function.comp_apply, hvalue e he, hkey e he, id_eq]
  rw [hback, ofList_entries]

/-! ## Values that bring their own keys -/

section Keyed

variable {ε : Type} (l : List ε) (f : ε → ν) (key : ν → κ)

omit [DecidableEq κ] in
theorem map_fst_keyed :
    ((l.map f).map fun v => (key v, v)).map Prod.fst = l.map fun e => key (f e) := by
  simp [Function.comp_def]

theorem size_ofList_keyed :
    (ofList ((l.map f).map fun v => (key v, v))).size
      = (l.map fun e => key (f e)).dedup.length := by
  rw [size_ofList, map_fst_keyed]

/-- Among the values with one key, the last one is found. -/
theorem get?_ofList_keyed (k : κ) :
    (ofList ((l.map f).map fun v => (key v, v))).get? k
      = (l.reverse.find? fun e => key (f e) = k).map f := by
  rw [get?_ofList, ← List.map_reverse, ← List.map_reverse, List.find?_map, List.find?_map,
    Option.map_map, Option.map_map]
  rfl

/-- No value is lost exactly if no two have the same key. -/
theorem keeps_ofList_keyed_iff :
    ((ofList ((l.map f).map fun v => (key v, v))).size = l.length
      ∧ ∀ e ∈ l, (ofList ((l.map f).map fun v => (key v, v))).get? (key (f e)) = some (f e))
      ↔ (l.map fun e => key (f e)).Nodup := by
  constructor
  · rintro ⟨hsize, -⟩
    rw [size_ofList_keyed] at hsize
    rw [← List.dedup_eq_self]
    exact (List.dedup_sublist _).eq_of_length (by rw [hsize, List.length_map])
  · intro h
    refine ⟨by rw [size_ofList_keyed, h.dedup, List.length_map], fun e he => ?_⟩
    rw [get?_eq_some_iff, entries_ofList (by rwa [map_fst_keyed])]
    exact List.mem_map.2 ⟨f e, List.mem_map_of_mem he, rfl⟩

end Keyed

/-! ## What holds under every key -/

variable {P Q : κ → ν → Prop}

theorem all_iff : m.All P ↔ ∀ e ∈ m.entries, P e.1 e.2 :=
  ⟨fun h e he => h e.1 e.2 (get?_eq_some_iff.2 he),
    fun h k v hk => h (k, v) (get?_eq_some_iff.1 hk)⟩

theorem All.imp (h : m.All P) (hPQ : ∀ k v, P k v → Q k v) : m.All Q :=
  fun k v hk => hPQ k v (h k v hk)

theorem all_empty : (empty : OrderedMap κ ν).All P := fun k v h => by simp at h

theorem All.insert (h : m.All P) (hk : P k v) : (m.insert k v).All P := by
  intro k' v' h'
  rw [get?_insert] at h'
  split_ifs at h' with hkk
  · simp only [Option.some.injEq] at h'
    subst hkk h'
    exact hk
  · exact h k' v' h'

theorem All.erase (h : m.All P) (k : κ) : (m.erase k).All P := by
  intro k' v' h'
  rw [get?_erase] at h'
  split_ifs at h'
  exact h k' v' h'

theorem All.modify {f : ν → ν} (h : m.All P) (hf : ∀ v, P k v → P k (f v)) :
    (m.modify k f).All P := by
  intro k' v' h'
  rw [get?_modify] at h'
  split_ifs at h' with hkk
  · obtain ⟨v, hv, rfl⟩ := Option.map_eq_some_iff.1 h'
    subst hkk
    exact hf v (h k v hv)
  · exact h k' v' h'

theorem all_ofList {l : List (κ × ν)} (h : ∀ e ∈ l, P e.1 e.2) : (ofList l).All P := by
  induction l using List.reverseRecOn with
  | nil => exact all_empty
  | append_singleton l e ih =>
    rw [ofList_append_singleton]
    exact (ih fun e' he => h e' (List.mem_append_left _ he)).insert (h e (by simp))

/-- The same where each value brings its own key. -/
theorem all_ofList_keyed {ε : Type} {l : List ε} {f : ε → ν} {key : ν → κ}
    (h : ∀ e ∈ l, P (key (f e)) (f e)) :
    (ofList ((l.map f).map fun v => (key v, v))).All P := by
  refine all_ofList fun entry hentry => ?_
  obtain ⟨v, hv, rfl⟩ := List.mem_map.1 hentry
  obtain ⟨e, he, rfl⟩ := List.mem_map.1 hv
  exact h e he

/-! ## What two maps agree in -/

section Agree

variable {α : Type} {f : ν → α} {n o : OrderedMap κ ν}

/-- The values under each key of both maps have the same `f`. -/
def Agree (f : ν → α) (m n : OrderedMap κ ν) : Prop :=
  ∀ k v w, m.get? k = some v → n.get? k = some w → f w = f v

@[refl] theorem Agree.refl (f : ν → α) (m : OrderedMap κ ν) : Agree f m m := by
  intro k v w hv hw
  rw [hv, Option.some.injEq] at hw
  rw [hw]

/-- The map in the middle must not have lost a key. -/
theorem Agree.trans (h : Agree f m n) (h' : Agree f n o) (hkeys : n.keys = m.keys) :
    Agree f m o := by
  intro k v w hv hw
  have hk := mem_keys_of_get? hv
  rw [← hkeys] at hk
  obtain ⟨x, hx⟩ := mem_keys_iff.1 hk
  exact (h' k x w hx hw).trans (h k v x hv hx)

theorem agree_insert (h : k ∉ m.keys) (v : ν) : Agree f m (m.insert k v) := by
  intro k' v' w hv hw
  have hk : k ≠ k' := fun hk => h (hk ▸ mem_keys_of_get? hv)
  rw [get?_insert, if_neg hk, hv, Option.some.injEq] at hw
  rw [hw]

theorem agree_erase (k : κ) : Agree f m (m.erase k) := by
  intro k' v w hv hw
  rw [get?_erase, hv] at hw
  split_ifs at hw
  rw [Option.some.inj hw]

theorem agree_modify {g : ν → ν} (hg : ∀ v, f (g v) = f v) (k : κ) : Agree f m (m.modify k g) := by
  intro k' v w hv hw
  obtain ⟨x, hx, rfl⟩ := get?_modify_eq_some hw
  rw [hv, Option.some.injEq] at hx
  subst hx
  split_ifs
  · exact hg v
  · rfl

end Agree

end GitPractice.OrderedMap
