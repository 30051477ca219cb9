import Clippings.Note.Property
import Clippings.Proofs.Text.Cutting
import Clippings.Proofs.Text.Trim
import Clippings.Proofs.Value.Nesting

namespace Clippings

namespace Text

theorem join_append_head (sep padding first : Text) (rest : List Text) :
    join sep ((padding ++ first) :: rest) = padding ++ join sep (first :: rest) := by
  cases rest with
  | nil => rfl
  | cons next rest => simp only [join, List.append_assoc]

theorem splitOn_join_padded {sep : CodePoint} {padding first : Text} {rest : List Text}
    (hpadding : sep ∉ padding) (hfirst : sep ∉ first) (hrest : ∀ piece ∈ rest, sep ∉ piece) :
    splitOn sep (join (sep :: padding) (first :: rest)) = first :: rest.map (padding ++ ·) := by
  induction rest generalizing first with
  | nil => exact splitOn_eq_singleton hfirst
  | cons next rest ih =>
      obtain ⟨hnext, hothers⟩ := List.forall_mem_cons.mp hrest
      have hpadded : sep ∉ padding ++ next := by simp [hpadding, hnext]
      have hbehind := ih hpadded hothers
      rw [join_append_head] at hbehind
      rw [join, List.append_assoc, List.cons_append, splitOn_append_cons, hbehind,
        splitOn_eq_singleton hfirst]
      rfl

theorem strip_cons_blank {c : CodePoint} (hc : isBlank c = true) (text : Text) :
    strip (c :: text) = strip text := by
  rw [strip, strip, trimBy, trimBy, List.dropWhile_cons_of_pos hc]

end Text

namespace PropertyKind

structure IsListItem (item : Text) : Prop where
  ne_nil : item ≠ []
  strip_eq : Text.strip item = item
  comma : .char ',' ∉ item

theorem isListItem_of_mem_listItems {rendered item : Text} (h : item ∈ listItems rendered) :
    IsListItem item := by
  obtain ⟨hmem, hne⟩ := List.mem_filter.mp h
  obtain ⟨piece, hpiece, rfl⟩ := List.mem_map.mp hmem
  exact
    { ne_nil := by simpa using hne
      strip_eq := Text.strip_strip piece
      comma := fun hcomma => Text.not_mem_of_mem_splitOn hpiece (Text.mem_of_mem_strip hcomma) }

theorem listItems_join {items : List Text} (h : ∀ item ∈ items, IsListItem item) :
    listItems (Text.join ", " items) = items := by
  cases items with
  | nil => rfl
  | cons first rest =>
      obtain ⟨hfirst, hrest⟩ := List.forall_mem_cons.mp h
      have hpieces : Text.splitOn ',' (Text.join ", " (first :: rest)) =
          first :: rest.map ([.char ' '] ++ ·) :=
        Text.splitOn_join_padded (by decide) hfirst.comma fun item hitem => (hrest item hitem).comma
      have hstrip : (first :: rest.map ([.char ' '] ++ ·)).map Text.strip = first :: rest := by
        rw [List.map_cons, List.map_map, hfirst.strip_eq]
        congr 1
        refine (List.map_congr_left fun item hitem => ?_).trans (List.map_id rest)
        exact (Text.strip_cons_blank (by decide) item).trans (hrest item hitem).strip_eq
      rw [listItems, hpieces, hstrip]
      exact List.filter_eq_self.mpr fun item hitem => by simpa using (h item hitem).ne_nil

end PropertyKind

theorem Value.displayItems_texts (room : Nat) (texts : List Text) :
    displayItems room (texts.map .text) = .ok texts := by
  induction texts with
  | nil => rfl
  | cons first rest ih =>
      rw [List.map_cons, displayItems, ih]
      rfl

theorem Value.displayed_texts (runtime : Runtime) (texts : List Text) :
    (Value.list (texts.map .text)).displayed runtime = .ok (Text.join ", " texts) := by
  have hroom : Descent.display.cost ≤ runtime.room := le_trans (by decide) runtime.enough
  rw [displayed, display, Descent.room_of_le hroom]
  show (displayItems _ _ >>= _).mapError _ = _
  rw [displayItems_texts]
  rfl

/-- A list of items that lists can have becomes a list property as it is, and whatever text is
rendered for a list property becomes a list of such items, which its own text becomes again. -/
theorem PropertyKind.coerce_displayed_list (runtime : Runtime) {kind : PropertyKind}
    (hkind : kind = .tags ∨ kind = .aliases) :
    (∀ items : List Text, (∀ item ∈ items, IsListItem item) →
      ∃ text, (Value.list (items.map .text)).displayed runtime = .ok text ∧
        kind.coerce text = .list (items.map .text)) ∧
      ∀ rendered : Text, ∃ (items : List Text) (text : Text),
        kind.coerce rendered = .list (items.map .text) ∧
          (∀ item ∈ items, IsListItem item) ∧
          (kind.coerce rendered).displayed runtime = .ok text ∧
          kind.coerce text = kind.coerce rendered := by
  have hcoerce (rendered : Text) : kind.coerce rendered = .list
    ((listItems rendered).map .text) := by
    rcases hkind with rfl | rfl <;> rfl
  have hback (items : List Text) (h : ∀ item ∈ items, IsListItem item) :
      kind.coerce (Text.join ", " items) = .list (items.map .text) := by
    rw [hcoerce, listItems_join h]
  refine ⟨fun items h => ⟨_, Value.displayed_texts runtime items, hback items h⟩,
    fun rendered => ?_⟩
  have hitems : ∀ item ∈ listItems rendered, IsListItem item := fun item hitem =>
    isListItem_of_mem_listItems hitem
  refine ⟨listItems rendered, Text.join ", " (listItems rendered), hcoerce rendered, hitems, ?_, ?_⟩
  · rw [hcoerce]
    exact Value.displayed_texts runtime _
  · rw [hback _ hitems, hcoerce]

theorem PropertyKind.coerce_displayed_list_commas :
    (PropertyKind.tags = .tags ∨ PropertyKind.tags = .aliases) ∧
      (∀ item ∈ (["slow food", "日本"] : List Text), IsListItem item) ∧
      (∃ text, (Value.list ((["slow food", "日本"] : List Text).map .text)).displayed {} = .ok text ∧
        PropertyKind.tags.coerce text = .list ((["slow food", "日本"] : List Text).map .text)) ∧
      ∃ (items : List Text) (text : Text),
        PropertyKind.tags.coerce " a,,　, b\n" = .list (items.map .text) ∧
          (∀ item ∈ items, IsListItem item) ∧
          (PropertyKind.tags.coerce " a,,　, b\n").displayed {} = .ok text ∧
          PropertyKind.tags.coerce text = PropertyKind.tags.coerce " a,,　, b\n" := by
  have hitems : ∀ item ∈ (["slow food", "日本"] : List Text), IsListItem item := by
    intro item hitem
    rcases List.mem_pair.mp hitem with rfl | rfl
    · exact ⟨by decide, by decide, by decide⟩
    · exact ⟨by decide, by decide, by decide⟩
  have hkind : PropertyKind.tags = .tags ∨ PropertyKind.tags = .aliases := .inl rfl
  exact ⟨hkind, hitems, (coerce_displayed_list {} hkind).1 _ hitems,
    (coerce_displayed_list {} hkind).2 _⟩

end Clippings
