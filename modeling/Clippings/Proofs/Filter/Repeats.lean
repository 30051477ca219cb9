import Clippings.Filter.Builtin
import Clippings.Proofs.Value.Sameness
import Mathlib.Data.List.Pairwise

namespace Clippings

namespace Value

/-- What counts as a repeat: equal values of which both are truth values, or none. -/
def Repeats (x y : Value) : Prop :=
  Filter.repeats.isTruthValue x = Filter.repeats.isTruthValue y ∧ x.Equal y

namespace Repeats

variable {x y z : Value}

theorem symm (h : x.Repeats y) : y.Repeats x := ⟨h.1.symm, h.2.symm⟩

theorem trans (hxy : x.Repeats y) (hyz : y.Repeats z) : x.Repeats z :=
  ⟨hxy.1.trans hyz.1, hxy.2.trans hyz.2⟩

theorem refl (h : x.IsPlain) : x.Repeats x := ⟨rfl, Agree.refl h⟩

end Repeats

theorem Same.repeats {x y : Value} (h : x.Same y) : x.Repeats y := by
  refine ⟨?_, h.equal⟩
  cases h with
  | leaf left right =>
      obtain rfl := eq_of_leaf? left
      obtain rfl := eq_of_leaf? right
      rfl
  | list => rfl
  | map => rfl

end Value

namespace Filter

theorem repeats_iff {x y : Value} (hx : x.IsPlain) (hy : y.IsPlain) :
    repeats x y = true ↔ x.Repeats y := by
  rw [repeats, Bool.and_eq_true, decide_eq_true_eq, Value.same_iff hx hy, Value.Repeats]

/-- What comes in addition to the items kept so far: none of it repeats one of these or an earlier
one, and each item that does not come in does. -/
theorem exists_dropRepeats (kept items : List Value) :
    ∃ new, dropRepeats kept items = kept.reverse ++ new ∧ new.Sublist items ∧
      new.Pairwise (fun earlier later => repeats later earlier = false) ∧
      (∀ item ∈ new, ∀ other ∈ kept, repeats item other = false) ∧
      ∀ item ∈ items, item ∈ new ∨ ∃ other ∈ kept ++ new, repeats item other = true := by
  induction items generalizing kept with
  | nil => exact ⟨[], by simp [dropRepeats], .slnil, .nil, by simp, by simp⟩
  | cons item rest ih =>
      rw [dropRepeats]
      by_cases hrepeat : kept.any (repeats item) = true
      · rw [if_pos hrepeat]
        obtain ⟨new, hnew, hsublist, hpairwise, hfresh, hall⟩ := ih kept
        obtain ⟨other, hother, hsame⟩ := List.any_eq_true.mp hrepeat
        exact ⟨new, hnew, hsublist.cons item, hpairwise, hfresh, List.forall_mem_cons.mpr
          ⟨.inr ⟨other, List.mem_append_left new hother, hsame⟩, hall⟩⟩
      · rw [if_neg hrepeat]
        obtain ⟨new, hnew, hsublist, hpairwise, hfresh, hall⟩ := ih (item :: kept)
        have hitem : ∀ later ∈ new, repeats later item = false := fun later hlater =>
          hfresh later hlater item List.mem_cons_self
        have hkept : ∀ other ∈ kept, repeats item other = false := by simpa using hrepeat
        refine ⟨item :: new, by simp [hnew], hsublist.cons_cons item,
          List.pairwise_cons.mpr ⟨hitem, hpairwise⟩, ?_, ?_⟩
        · exact List.forall_mem_cons.mpr ⟨hkept, fun later hlater other hother =>
            hfresh later hlater other (List.mem_cons_of_mem item hother)⟩
        · refine List.forall_mem_cons.mpr ⟨.inl List.mem_cons_self, fun later hlater => ?_⟩
          rcases hall later hlater with hmem | ⟨other, hother, hsame⟩
          · exact .inl (List.mem_cons_of_mem item hmem)
          · refine .inr ⟨other, ?_, hsame⟩
            simp only [List.mem_append, List.mem_cons] at hother ⊢
            tauto

theorem exists_run_distinct {items : List Value} (hplain : ∀ item ∈ items, item.IsPlain) :
    ∃ kept, distinct.run (.list items) [] = .ok (.list kept) ∧ kept.Sublist items ∧
      kept.Pairwise (fun x y => ¬ x.Repeats y) ∧
      ∀ item ∈ items, ∃ other ∈ kept, item.Repeats other := by
  obtain ⟨kept, hkept, hsublist, hpairwise, -, hall⟩ := exists_dropRepeats [] items
  have hplain' (item : Value) (hitem : item ∈ kept) : item.IsPlain :=
    hplain item (hsublist.subset hitem)
  refine ⟨kept, congrArg (fun items => Except.ok (Value.list items)) hkept, hsublist, ?_, ?_⟩
  · refine hpairwise.imp_of_mem fun {x y} hx hy hdiffer hrepeats => ?_
    rw [(repeats_iff (hplain' y hy) (hplain' x hx)).mpr hrepeats.symm] at hdiffer
    cases hdiffer
  · intro item hitem
    rcases hall item hitem with hmem | ⟨other, hother, hsame⟩
    · exact ⟨item, hmem, .refl (hplain item hitem)⟩
    · exact ⟨other, hother, (repeats_iff (hplain item hitem) (hplain' other hother)).mp hsame⟩

/-- Of a list of JSON values, the filter keeps some in their order, no two of them the same. Each
item is the same as one that is kept, exactly if no two items differ only in truth values and
numbers inside of them; an item that does differ so still repeats one that is kept. -/
theorem run_distinct {items : List Value} (hplain : ∀ item ∈ items, item.IsPlain) :
    ∃ kept, distinct.run (.list items) [] = .ok (.list kept) ∧ kept.Sublist items ∧
      kept.Pairwise (fun x y => ¬ x.Same y) ∧
      (∀ item ∈ items, ∃ other ∈ kept, item.Repeats other) ∧
      ((∀ item ∈ items, ∃ other ∈ kept, item.Same other) ↔
        ∀ x ∈ items, ∀ y ∈ items, x.Repeats y → x.Same y) := by
  obtain ⟨kept, hrun, hsublist, hpairwise, hall⟩ := exists_run_distinct hplain
  refine ⟨kept, hrun, hsublist, hpairwise.imp fun hdiffer hsame => hdiffer hsame.repeats, hall, ?_⟩
  constructor
  · intro hsame x hx y hy hrepeats
    obtain ⟨other, hother, hxsame⟩ := hsame x hx
    obtain ⟨another, hanother, hysame⟩ := hsame y hy
    -- Both stand for the same item that is kept, since those that are kept differ.
    have heq : other = another := by
      by_contra hne
      have : Std.Symm fun x y : Value => ¬ x.Repeats y := ⟨fun _ _ hdiffer h => hdiffer h.symm⟩
      exact hpairwise.forall hother hanother hne
        ((hxsame.repeats.symm.trans hrepeats).trans hysame.repeats)
    subst heq
    exact hxsame.trans hysame.symm
  · intro hnone item hitem
    obtain ⟨other, hother, hrepeats⟩ := hall item hitem
    exact ⟨other, hother, hnone item hitem other (hsublist.subset hother) hrepeats⟩

theorem run_distinct_mixed :
    let first : Value := .map [(.text "x", .int 1), (.text "y", .list [.bool true])]
    let second : Value := .map [(.text "y", .list [.bool true]), (.text "x", .int 1)]
    let items : List Value := [.bool true, .int 1, first, .text "1", .bool true, second, .int 1]
    let kept : List Value := [.bool true, .int 1, first, .text "1"]
    (∀ item ∈ items, item.IsPlain) ∧ distinct.run (.list items) [] = .ok (.list kept) ∧
      kept.Sublist items ∧ kept.Pairwise (fun x y => ¬ x.Same y) ∧
      (∀ item ∈ items, ∃ other ∈ kept, item.Same other) ∧
      ∀ x ∈ items, ∀ y ∈ items, x.Repeats y → x.Same y := by
  intro first second items kept
  have htruths : (Value.list [.bool true]).IsPlain := .list (by simp [Value.IsPlain.bool])
  have hfirst : first.IsPlain :=
    .map (by simp) (by simp) (by simp [Value.IsPlain.int, htruths])
  have hsecond : second.IsPlain :=
    .map (by simp) (by simp) (by simp [Value.IsPlain.int, htruths])
  have hplain : ∀ item ∈ items, item.IsPlain := by
    simp [items, hfirst, hsecond, Value.IsPlain.bool, Value.IsPlain.int, Value.IsPlain.text]
  have hswapped : second.Same first := hsecond.same_of_perm (.swap ..)
  have hsame : ∀ item ∈ items, ∃ other ∈ kept, item.Same other := by
    intro item hitem
    by_cases hkept : item ∈ kept
    · exact ⟨item, hkept, .refl (hplain item hitem)⟩
    · obtain rfl : item = second := by
        simp only [items, kept, List.mem_cons, List.not_mem_nil, or_false] at hitem hkept
        tauto
      exact ⟨first, by simp [kept], hswapped⟩
  obtain ⟨found, hfound, hsublist, hpairwise, -, hiff⟩ := run_distinct hplain
  have hkept : distinct.run (.list items) [] = .ok (.list kept) := rfl
  obtain rfl : kept = found := Value.list.inj (Except.ok.inj (hkept.symm.trans hfound))
  exact ⟨hplain, hkept, hsublist, hpairwise, hsame, hiff.mp hsame⟩

/-- A list that holds the truth value and one that holds the number 1 are not the same, but the
second is dropped. -/
theorem distinct_drops_nested_number :
    (∀ item ∈ [Value.list [.bool true], .list [.int 1]], item.IsPlain) ∧
      distinct.run (.list [.list [.bool true], .list [.int 1]]) [] =
        .ok (.list [.list [.bool true]]) ∧
      ¬ ∃ other ∈ [Value.list [.bool true]], (Value.list [.int 1]).Same other := by
  refine ⟨?_, rfl, ?_⟩
  · have htruths : (Value.list [.bool true]).IsPlain := .list (by simp [Value.IsPlain.bool])
    have hnumbers : (Value.list [.int 1]).IsPlain := .list (by simp [Value.IsPlain.int])
    simp [htruths, hnumbers]
  · rintro ⟨other, hother, hsame⟩
    obtain rfl := List.mem_singleton.mp hother
    obtain ⟨ys, hys, -, hitems⟩ := Value.Agree.list_iff.mp hsame
    obtain rfl := Value.list.inj hys
    have hleaf := (Value.Agree.leaf_iff rfl).mp (hitems 0 _ _ rfl rfl)
    cases hleaf

end Filter

end Clippings
