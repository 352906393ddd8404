import Mathlib.Data.List.Sort
import Mathlib.Tactic.SplitIfs
import GitPractice.Repo.Branches

/-!
# Names in the order of their bytes

Names are listed in the order of their code points. In UTF-8 a later code point is encoded by later
bytes (`append_utf8EncodeChar_lt`), whatever the lengths, so it is the order of the bytes as well
(`utf8Bytes_lt_iff`). Names of which none is repeated come out of `sortedNames` each once and
strictly in order (`sortedNames_perm`, `inByteOrder_sortedNames`).
-/

namespace GitPractice

/-- The bytes of a text in UTF-8. -/
def utf8Bytes (text : String) : List UInt8 := text.toUTF8.data.toList

/-- Each name comes before the next one in the order of their bytes; so none is repeated. -/
def InByteOrder (names : List String) : Prop :=
  names.Pairwise fun a b => utf8Bytes a < utf8Bytes b

instance (names : List String) : Decidable (InByteOrder names) :=
  inferInstanceAs (Decidable (names.Pairwise _))

/-! ## Encoded characters -/

/-- Of two code points, the lesser has the lesser digits to the base 64. -/
theorem digits_lt {v w : Nat} (h : v < w) (hw : w < 0x110000) :
    v / 262144 % 8 < w / 262144 % 8 ∨ v / 262144 % 8 = w / 262144 % 8
      ∧ (v / 4096 % 64 < w / 4096 % 64 ∨ v / 4096 % 64 = w / 4096 % 64
        ∧ (v / 64 % 64 < w / 64 % 64 ∨ v / 64 % 64 = w / 64 % 64 ∧ v % 64 < w % 64)) := by
  have htop : w / 262144 < 8 := by omega
  have hle : v / 262144 ≤ w / 262144 := Nat.div_le_div_right h.le
  rw [Nat.mod_eq_of_lt htop, Nat.mod_eq_of_lt (hle.trans_lt htop)]
  -- One after another, the leading digits are the same or decide it.
  by_cases h3 : v / 262144 = w / 262144
  · by_cases h2 : v / 4096 = w / 4096
    · by_cases h1 : v / 64 = w / 64
      · omega
      · omega
    · omega
  · omega

theorem append_utf8EncodeChar_lt {c d : Char} (h : c < d) (as bs : List UInt8) :
    String.utf8EncodeChar c ++ as < String.utf8EncodeChar d ++ bs := by
  have hlt : c.val.toNat < d.val.toNat := h
  have hbound : d.val.toNat < 0x110000 := by
    rcases d.valid with hd | hd
    · exact Nat.lt_trans hd (by decide)
    · exact hd.2
  have hdigits := digits_lt hlt hbound
  have hbyte {n : Nat} (hn : n < 256) : (UInt8.ofNat n).toNat = n := UInt8.toNat_ofNat_of_lt' hn
  unfold String.utf8EncodeChar
  generalize c.val.toNat = v at hlt hdigits
  generalize d.val.toNat = w at hlt hdigits hbound
  dsimp only
  -- The lengths are those of any two encodings; the first byte tells them apart.
  split_ifs <;>
    simp (disch := omega) only [List.cons_append, List.nil_append, List.cons_lt_cons_iff,
      UInt8.lt_iff_toNat_lt, ← UInt8.toNat_inj, hbyte] <;>
    omega

/-! ## Encoded texts -/

theorem utf8Bytes_eq (text : String) :
    utf8Bytes text = text.toList.flatMap String.utf8EncodeChar := by
  rw [utf8Bytes, String.toUTF8, ← String.utf8Encode_toList, List.utf8Encode,
    List.toList_data_toByteArray]

theorem flatMap_utf8EncodeChar_lt : ∀ {cs ds : List Char}, cs < ds →
    cs.flatMap String.utf8EncodeChar < ds.flatMap String.utf8EncodeChar
  | cs, [], h => absurd h (List.not_lt_nil cs)
  | [], d :: ds, _ => by
    rw [List.flatMap_nil, List.flatMap_cons]
    obtain ⟨b, bs, hbytes⟩ := List.exists_cons_of_ne_nil (String.utf8EncodeChar_ne_nil (c := d))
    rw [hbytes]
    exact List.nil_lt_cons _ _
  | c :: cs, d :: ds, h => by
    rw [List.flatMap_cons, List.flatMap_cons]
    rcases List.cons_lt_cons_iff.1 h with hlt | ⟨rfl, hrest⟩
    · exact append_utf8EncodeChar_lt hlt _ _
    · exact List.append_left_lt (flatMap_utf8EncodeChar_lt hrest)

theorem utf8Bytes_lt_iff {a b : String} : utf8Bytes a < utf8Bytes b ↔ a < b := by
  have hmono {a b : String} (h : a < b) : utf8Bytes a < utf8Bytes b := by
    rw [utf8Bytes_eq, utf8Bytes_eq]
    exact flatMap_utf8EncodeChar_lt (String.lt_iff.1 h)
  refine ⟨fun h => String.not_le.1 fun hle => ?_, hmono⟩
  by_cases heq : a = b
  · subst heq
    exact List.lt_irrefl _ h
  · have hlt : b < a := String.not_le.1 fun hle' => heq (String.le_antisymm hle' hle)
    exact List.lt_asymm h (hmono hlt)

/-- There is one such order. -/
theorem InByteOrder.eq_of_perm {names names' : List String} (h : InByteOrder names)
    (h' : InByteOrder names') (hperm : names.Perm names') : names = names' :=
  hperm.eq_of_pairwise (fun _ _ _ _ hlt hgt => absurd hgt (List.lt_asymm hlt)) h h'

/-! ## Sorted names -/

theorem pairwise_sort (names : List String) :
    (names.mergeSort fun a b => decide (a ≤ b)).Pairwise (· ≤ ·) := by
  refine (List.pairwise_mergeSort ?_ ?_ names).imp of_decide_eq_true
  · intro a b c hab hbc
    exact decide_eq_true (String.le_trans (of_decide_eq_true hab) (of_decide_eq_true hbc))
  · intro a b
    simpa using String.le_total a b

theorem sortedNames_perm (names : List String) : (sortedNames names).Perm names :=
  List.mergeSort_perm _ _

theorem inByteOrder_sortedNames {names : List String} (h : names.Nodup) :
    InByteOrder (sortedNames names) := by
  have hsorted : (sortedNames names).Pairwise (· ≤ ·) := pairwise_sort names
  have hnodup : (sortedNames names).Nodup := (sortedNames_perm names).nodup_iff.2 h
  refine (hsorted.and hnodup).imp fun ⟨hle, hne⟩ => utf8Bytes_lt_iff.2 ?_
  exact String.not_le.1 fun hge => hne (String.le_antisymm hle hge)

end GitPractice
