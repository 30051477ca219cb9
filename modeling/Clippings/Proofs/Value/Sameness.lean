import Clippings.Proofs.Value.Entries
import Mathlib.Data.List.Perm.Subperm

namespace Clippings

namespace Value

/-- JSON values without floating-point numbers. The keys of a mapping are texts that differ from
one another. -/
inductive IsPlain : Value → Prop
  | null : IsPlain .null
  | bool (b : Bool) : IsPlain (.bool b)
  | int (n : Int) : IsPlain (.int n)
  | text (s : Text) : IsPlain (.text s)
  | list {items : List Value} (members : ∀ item ∈ items, IsPlain item) : IsPlain (.list items)
  | map {entries : Entries} (keys : ∀ entry ∈ entries, ∃ key, entry.1 = .text key)
      (distinct : (entries.map (·.1)).Nodup) (values : ∀ entry ∈ entries, IsPlain entry.2) :
      IsPlain (.map entries)

end Value

namespace Entries

theorem isSome_iff_mem {entries : Entries} (hdistinct : (entries.map (·.1)).Nodup) {key : Text} :
    (entries.getText? key).isSome = true ↔ .text key ∈ entries.map (·.1) := by
  rw [Option.isSome_iff_exists, List.mem_map]
  constructor
  · rintro ⟨value, hvalue⟩
    exact ⟨_, mem_of_getText? hvalue, rfl⟩
  · rintro ⟨⟨first, value⟩, hmem, rfl⟩
    exact ⟨value, getText?_of_mem hdistinct hmem⟩

theorem getText?_perm {entries others : Entries} (h : entries.Perm others)
    (hdistinct : (entries.map (·.1)).Nodup) (key : Text) :
    entries.getText? key = others.getText? key := by
  have hothers : (others.map (·.1)).Nodup := (h.map _).nodup_iff.mp hdistinct
  refine Option.ext fun value => ⟨fun hvalue => ?_, fun hvalue => ?_⟩
  · exact getText?_of_mem hothers (h.mem_iff.mp (mem_of_getText? hvalue))
  · exact getText?_of_mem hdistinct (h.mem_iff.mpr (mem_of_getText? hvalue))

theorem exists_text_of_mem {entries : Entries}
    (hkeys : ∀ entry ∈ entries, ∃ key, entry.1 = .text key) {value : Value}
    (h : value ∈ entries.map (·.1)) : ∃ key, value = .text key := by
  obtain ⟨entry, hmem, rfl⟩ := List.mem_map.mp h
  exact hkeys entry hmem

end Entries

namespace Value

/-- A value that has no parts, with another value in the place of a truth value. -/
def leaf? (truth : Bool → Value) : Value → Option Value
  | .bool b => some (truth b)
  | .list _ | .tuple _ | .map _ => none
  | value => some value

/-- Values of the same structure, for some view of truth values: they have the same leaf, or lists
of the same length with items that agree place by place, or mappings with the same keys and values
that agree key by key. -/
inductive Agree (truth : Bool → Value) : Value → Value → Prop
  | leaf {x y leaf : Value} (left : x.leaf? truth = some leaf) (right : y.leaf? truth = some leaf) :
      Agree truth x y
  | list {xs ys : List Value} (length : xs.length = ys.length)
      (items : ∀ (i : Nat) (x y : Value), xs[i]? = some x → ys[i]? = some y → Agree truth x y) :
      Agree truth (.list xs) (.list ys)
  | map {xs ys : Entries} (keys : ∀ key, (xs.getText? key).isSome = (ys.getText? key).isSome)
      (values : ∀ (key : Text) (x y : Value), xs.getText? key = some x →
        ys.getText? key = some y → Agree truth x y) :
      Agree truth (.map xs) (.map ys)

def Same : Value → Value → Prop := Agree .bool

/-- Values of the same structure, if truth values are taken for the numbers 0 and 1. -/
def Equal : Value → Value → Prop := Agree fun b => .int (if b then 1 else 0)

namespace Agree

variable {truth : Bool → Value} {x y z : Value}

theorem symm (h : Agree truth x y) : Agree truth y x := by
  induction h with
  | leaf left right => exact .leaf right left
  | list length items ih => exact .list length.symm fun i x y hx hy => ih i y x hy hx
  | map keys values ih =>
      exact .map (fun key => (keys key).symm) fun key x y hx hy => ih key y x hy hx

theorem trans (hxy : Agree truth x y) (hyz : Agree truth y z) : Agree truth x z := by
  induction hxy generalizing z with
  | leaf left right =>
      cases hyz with
      | leaf left' right' =>
          obtain rfl := Option.some.inj (right.symm.trans left')
          exact .leaf left right'
      | list => cases right
      | map => cases right
  | @list xs ys length items ih =>
      cases hyz with
      | leaf left => cases left
      | list length' items' =>
          refine .list (length.trans length') fun i x z hx hz => ?_
          obtain ⟨hi, -⟩ := List.getElem?_eq_some_iff.mp hx
          obtain ⟨y, hy⟩ : ∃ y, ys[i]? = some y := ⟨_, List.getElem?_eq_getElem (length ▸ hi)⟩
          exact ih i x y hx hy (items' i y z hy hz)
  | @map xs ys keys values ih =>
      cases hyz with
      | leaf left => cases left
      | map keys' values' =>
          refine .map (fun key => (keys key).trans (keys' key)) fun key x z hx hz => ?_
          have hkey : (ys.getText? key).isSome = true := by rw [← keys key, hx]; rfl
          obtain ⟨y, hy⟩ := Option.isSome_iff_exists.mp hkey
          exact ih key x y hx hy (values' key y z hy hz)

theorem refl (h : x.IsPlain) : Agree truth x x := by
  induction h with
  | null => exact .leaf rfl rfl
  | bool b => exact .leaf rfl rfl
  | int n => exact .leaf rfl rfl
  | text s => exact .leaf rfl rfl
  | list members ih =>
      refine .list rfl fun i x y hx hy => ?_
      obtain rfl := Option.some.inj (hx.symm.trans hy)
      exact ih x (List.mem_of_getElem? hx)
  | map keys distinct values ih =>
      refine .map (fun _ => rfl) fun key x y hx hy => ?_
      obtain rfl := Option.some.inj (hx.symm.trans hy)
      exact ih _ (Entries.mem_of_getText? hx)

theorem leaf_iff {leaf : Value} (h : x.leaf? truth = some leaf) :
    Agree truth x y ↔ y.leaf? truth = some leaf := by
  refine ⟨fun hagree => ?_, .leaf h⟩
  cases hagree with
  | leaf left right => rw [right, ← left, h]
  | list => cases h
  | map => cases h

theorem list_iff {xs : List Value} :
    Agree truth (.list xs) y ↔ ∃ ys, y = .list ys ∧ xs.length = ys.length ∧
      ∀ (i : Nat) (x y : Value), xs[i]? = some x → ys[i]? = some y → Agree truth x y := by
  constructor
  · intro hagree
    cases hagree with
    | leaf left => cases left
    | list length items => exact ⟨_, rfl, length, items⟩
  · rintro ⟨ys, rfl, length, items⟩
    exact .list length items

theorem map_iff {xs : Entries} :
    Agree truth (.map xs) y ↔ ∃ ys : Entries, y = .map ys ∧
      (∀ key, (xs.getText? key).isSome = (ys.getText? key).isSome) ∧
      ∀ (key : Text) (x y : Value), xs.getText? key = some x → ys.getText? key = some y →
        Agree truth x y := by
  constructor
  · intro hagree
    cases hagree with
    | leaf left => cases left
    | map keys values => exact ⟨_, rfl, keys, values⟩
  · rintro ⟨ys, rfl, keys, values⟩
    exact .map keys values

end Agree

theorem eq_of_leaf? {value leaf : Value} (h : value.leaf? .bool = some leaf) : value = leaf := by
  cases value with
  | list => cases h
  | tuple => cases h
  | map => cases h
  | _ => exact Option.some.inj h

theorem Same.equal {x y : Value} (h : x.Same y) : x.Equal y := by
  induction h with
  | @leaf x y leaf left right =>
      obtain rfl := eq_of_leaf? left
      obtain rfl := eq_of_leaf? right
      cases y with
      | list => cases left
      | tuple => cases left
      | map => cases left
      | _ => exact .leaf rfl rfl
  | list length items ih => exact .list length ih
  | map keys values ih => exact .map keys ih

theorem IsPlain.same_of_perm {xs ys : Entries} (hplain : (Value.map xs).IsPlain)
    (h : xs.Perm ys) : (Value.map xs).Same (.map ys) := by
  cases hplain with
  | map keys distinct values =>
      have hfind := Entries.getText?_perm h distinct
      refine .map (fun key => by rw [hfind key]) fun key x y hx hy => ?_
      obtain rfl := Option.some.inj ((hx.symm.trans (hfind key)).trans hy)
      exact .refl (values _ (Entries.mem_of_getText? hx))

theorem sameItems_iff {xs ys : List Value} :
    sameItems xs ys = true ↔ xs.length = ys.length ∧
      ∀ (i : Nat) (x y : Value), xs[i]? = some x → ys[i]? = some y → x.same y = true := by
  induction xs generalizing ys with
  | nil => cases ys <;> simp [sameItems]
  | cons x xs ih =>
      cases ys with
      | nil => simp [sameItems]
      | cons y ys =>
          rw [sameItems, Bool.and_eq_true, ih, List.length_cons, List.length_cons,
            Nat.add_right_cancel_iff]
          constructor
          · rintro ⟨hfirst, hlength, hrest⟩
            refine ⟨hlength, fun i x y hx hy => ?_⟩
            cases i with
            | zero =>
                obtain rfl := Option.some.inj hx
                obtain rfl := Option.some.inj hy
                exact hfirst
            | succ i => exact hrest i x y hx hy
          · rintro ⟨hlength, hall⟩
            exact ⟨hall 0 x y rfl rfl, hlength, fun i x y hx hy => hall (i + 1) x y hx hy⟩

theorem entriesIn_iff {xs ys : Entries} :
    entriesIn xs ys = true ↔ ∀ entry ∈ xs, ∃ other ∈ ys,
      entry.1.same other.1 = true ∧ entry.2.same other.2 = true := by
  induction xs with
  | nil => simp [entriesIn]
  | cons entry xs ih => simp [entriesIn, ih]

theorem map_same_iff {xs ys : Entries} (hxkeys : ∀ entry ∈ xs, ∃ key, entry.1 = .text key)
    (hxdistinct : (xs.map (·.1)).Nodup) (hykeys : ∀ entry ∈ ys, ∃ key, entry.1 = .text key)
    (hydistinct : (ys.map (·.1)).Nodup) :
    (Value.map xs).same (.map ys) = true ↔
      (∀ key, (xs.getText? key).isSome = (ys.getText? key).isSome) ∧
      ∀ (key : Text) (x y : Value), xs.getText? key = some x → ys.getText? key = some y →
        x.same y = true := by
  rw [same, Bool.and_eq_true, decide_eq_true_eq, entriesIn_iff]
  constructor
  · rintro ⟨hlength, hentries⟩
    have hfound {key : Text} {x : Value} (hx : xs.getText? key = some x) :
        ∃ y, ys.getText? key = some y ∧ x.same y = true := by
      obtain ⟨⟨other, y⟩, hmem, hkey, hsame⟩ := hentries _ (Entries.mem_of_getText? hx)
      obtain rfl := text_same_iff.mp hkey
      exact ⟨y, Entries.getText?_of_mem hydistinct hmem, hsame⟩
    have hsubset : xs.map (·.1) ⊆ ys.map (·.1) := by
      intro value hmem
      obtain ⟨key, rfl⟩ := Entries.exists_text_of_mem hxkeys hmem
      obtain ⟨x, hx⟩ := Option.isSome_iff_exists.mp ((Entries.isSome_iff_mem hxdistinct).mpr hmem)
      obtain ⟨y, hy, -⟩ := hfound hx
      exact (Entries.isSome_iff_mem hydistinct).mp (hy ▸ rfl)
    have hperm : (xs.map (·.1)).Perm (ys.map (·.1)) :=
      (hxdistinct.subperm hsubset).perm_of_length_le (by simp [hlength])
    refine ⟨fun key => ?_, fun key x y hx hy => ?_⟩
    · rw [Bool.eq_iff_iff, Entries.isSome_iff_mem hxdistinct, Entries.isSome_iff_mem hydistinct,
        hperm.mem_iff]
    · obtain ⟨other, hother, hsame⟩ := hfound hx
      obtain rfl := Option.some.inj (hother.symm.trans hy)
      exact hsame
  · rintro ⟨hkeys, hvalues⟩
    have hperm : (xs.map (·.1)).Perm (ys.map (·.1)) := by
      refine (List.perm_ext_iff_of_nodup hxdistinct hydistinct).mpr fun value => ?_
      constructor
      · intro hmem
        obtain ⟨key, rfl⟩ := Entries.exists_text_of_mem hxkeys hmem
        rwa [← Entries.isSome_iff_mem hydistinct, ← hkeys, Entries.isSome_iff_mem hxdistinct]
      · intro hmem
        obtain ⟨key, rfl⟩ := Entries.exists_text_of_mem hykeys hmem
        rwa [← Entries.isSome_iff_mem hxdistinct, hkeys, Entries.isSome_iff_mem hydistinct]
    refine ⟨by simpa using hperm.length_eq, fun entry hmem => ?_⟩
    obtain ⟨first, x⟩ := entry
    obtain ⟨key, hfirst⟩ := hxkeys _ hmem
    obtain rfl : first = .text key := hfirst
    have hx := Entries.getText?_of_mem hxdistinct hmem
    have hkey : (ys.getText? key).isSome = true := by rw [← hkeys, hx]; rfl
    obtain ⟨y, hy⟩ := Option.isSome_iff_exists.mp hkey
    exact ⟨_, Entries.mem_of_getText? hy, text_same_iff.mpr rfl, hvalues key x y hx hy⟩

theorem same_iff {x y : Value} (hx : x.IsPlain) (hy : y.IsPlain) :
    x.same y = true ↔ x.Equal y := by
  induction hx generalizing y with
  | null =>
      rw [Equal, Agree.leaf_iff rfl]
      cases hy <;> simp [same, sameScalar, integer?, leaf?]
  | bool b =>
      rw [Equal, Agree.leaf_iff rfl]
      cases hy <;> simp [same, sameScalar, integer?, leaf?, eq_comm]
  | int n =>
      rw [Equal, Agree.leaf_iff rfl]
      cases hy <;> simp [same, sameScalar, integer?, leaf?, eq_comm]
  | text s =>
      rw [Equal, Agree.leaf_iff rfl]
      cases hy <;> simp [same, sameScalar, integer?, leaf?, eq_comm]
  | @list xs members ih =>
      rw [Equal, Agree.list_iff]
      cases hy with
      | @list ys others =>
          have hitems (i : Nat) (x y : Value) (hx : xs[i]? = some x) (hy : ys[i]? = some y) :
              x.same y = true ↔ x.Equal y :=
            ih x (List.mem_of_getElem? hx) (others y (List.mem_of_getElem? hy))
          rw [same, sameItems_iff]
          constructor
          · rintro ⟨hlength, hall⟩
            exact ⟨ys, rfl, hlength, fun i x y hx hy => (hitems i x y hx hy).mp (hall i x y hx hy)⟩
          · rintro ⟨_, ⟨rfl⟩, hlength, hall⟩
            exact ⟨hlength, fun i x y hx hy => (hitems i x y hx hy).mpr (hall i x y hx hy)⟩
      | _ => simp [same, sameScalar, integer?]
  | @map xs hxkeys hxdistinct hxvalues ih =>
      rw [Equal, Agree.map_iff]
      cases hy with
      | @map ys hykeys hydistinct hyvalues =>
          have hitems (key : Text) (x y : Value) (hx : xs.getText? key = some x)
              (hy : ys.getText? key = some y) : x.same y = true ↔ x.Equal y :=
            ih _ (Entries.mem_of_getText? hx) (hyvalues _ (Entries.mem_of_getText? hy))
          rw [map_same_iff hxkeys hxdistinct hykeys hydistinct]
          constructor
          · rintro ⟨hkeys, hall⟩
            exact ⟨ys, rfl, hkeys,
              fun key x y hx hy => (hitems key x y hx hy).mp (hall key x y hx hy)⟩
          · rintro ⟨_, ⟨rfl⟩, hkeys, hall⟩
            exact ⟨hkeys, fun key x y hx hy => (hitems key x y hx hy).mpr (hall key x y hx hy)⟩
      | _ => simp [same, sameScalar, integer?]

end Value

end Clippings
