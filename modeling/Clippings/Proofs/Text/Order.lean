import Clippings.Text.Basic
import Mathlib.Data.List.Lex

namespace Clippings

instance : LT CodePoint := ⟨fun first second => first.toNat < second.toNat⟩

instance : LinearOrder CodePoint where
  le c d := c ≤ d
  lt c d := c < d
  le_refl c := Nat.le_refl c.toNat
  le_trans _ _ _ := Nat.le_trans
  lt_iff_le_not_ge _ _ := Nat.lt_iff_le_and_not_ge
  le_antisymm _ _ h h' := CodePoint.toNat_inj.mp (Nat.le_antisymm h h')
  le_total c d := Nat.le_total c.toNat d.toNat
  toDecidableLE := inferInstance

namespace Text

theorem le_iff_not_lt {s t : Text} : le s t = true ↔ ¬ t < s := by
  induction s generalizing t with
  | nil => simp [le]
  | cons c s ih =>
      cases t with
      | nil => simp [le]
      | cons d t =>
          rw [le, List.cons_lt_cons_iff]
          split
          · next heq => simp [heq, ih]
          · next hne =>
            simp [Ne.symm hne]

theorem le_iff {s t : Text} : le s t = true ↔ s ≤ t := le_iff_not_lt.trans not_lt

def keep (text : Text) (kept : List Text) : List Text :=
  if kept.head? = some text then kept else text :: kept

theorem sortedSet_eq_foldr (texts : List Text) :
    sortedSet texts = (texts.mergeSort le).foldr keep [] := by
  rw [sortedSet]
  congr 1
  funext text kept
  cases kept with
  | nil => rfl
  | cons next others => simp [keep, eq_comm]

theorem mem_keep {text other : Text} {kept : List Text} :
    text ∈ keep other kept ↔ text = other ∨ text ∈ kept := by
  rw [keep]
  split
  · next hhead =>
    refine (or_iff_right_of_imp ?_).symm
    rintro rfl
    exact List.mem_of_mem_head? hhead
  · exact List.mem_cons

theorem mem_foldr_keep {text : Text} {texts : List Text} :
    text ∈ texts.foldr keep [] ↔ text ∈ texts := by
  induction texts with
  | nil => rfl
  | cons head rest ih => rw [List.foldr_cons, mem_keep, ih, List.mem_cons]

theorem pairwise_foldr_keep {texts : List Text} (h : texts.Pairwise (· ≤ ·)) :
    (texts.foldr keep []).Pairwise (· < ·) := by
  induction texts with
  | nil => exact .nil
  | cons head rest ih =>
      obtain ⟨hhead, hrest⟩ := List.pairwise_cons.mp h
      have hkept := ih hrest
      have hle : ∀ text ∈ rest.foldr keep [], head ≤ text :=
        fun text htext => hhead text (mem_foldr_keep.mp htext)
      rw [List.foldr_cons, keep]
      split
      · exact hkept
      · next hne =>
        refine List.pairwise_cons.mpr ⟨?_, hkept⟩
        cases hlist : rest.foldr keep [] with
        | nil => simp
        | cons next others =>
            rw [hlist] at hkept hle hne
            have hnext : head < next :=
              lt_of_le_of_ne (hle next List.mem_cons_self) (by simpa [eq_comm] using hne)
            intro text htext
            rcases List.mem_cons.mp htext with rfl | htext
            · exact hnext
            · exact hnext.trans ((List.pairwise_cons.mp hkept).1 text htext)

theorem mem_sortedSet {text : Text} {texts : List Text} :
    text ∈ sortedSet texts ↔ text ∈ texts := by
  rw [sortedSet_eq_foldr, mem_foldr_keep, List.mem_mergeSort]

theorem pairwise_sortedSet (texts : List Text) : (sortedSet texts).Pairwise (· < ·) := by
  rw [sortedSet_eq_foldr]
  apply pairwise_foldr_keep
  have hsorted : (texts.mergeSort le).Pairwise fun s t => le s t = true := by
    apply List.pairwise_mergeSort
    · intro s t u hst htu
      exact le_iff.mpr ((le_iff.mp hst).trans (le_iff.mp htu))
    · intro s t
      rw [Bool.or_eq_true, le_iff, le_iff]
      exact le_total s t
  exact hsorted.imp le_iff.mp

end Text

end Clippings
