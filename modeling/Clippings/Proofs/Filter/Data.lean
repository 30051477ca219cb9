import Clippings.Filter.Builtin
import Clippings.Proofs.Json.Data

namespace Clippings

namespace Filter

variable {runtime : Runtime}

def KeepsData (action : Value → List Text → Except Failure Value) : Prop :=
  ∀ ⦃value result : Value⦄ ⦃args : List Text⦄, value.IsPageData → action value args = .ok result →
    result.IsPageData

def GivesText (action : Value → List Text → Except Failure Value) : Prop :=
  ∀ ⦃value result : Value⦄ ⦃args : List Text⦄, action value args = .ok result →
    ∃ text, result = .text text

theorem GivesText.keepsData {action : Value → List Text → Except Failure Value}
    (h : GivesText action) : KeepsData action := by
  intro value result args _ hresult
  obtain ⟨text, rfl⟩ := h hresult
  exact .text text

theorem givesText_onText (f : Text → Text) : GivesText (onText runtime f) := by
  intro value result args h
  obtain ⟨text, -, h⟩ := Except.exists_of_bind_eq_ok h
  exact ⟨f text, (Except.ok.inj h).symm⟩

theorem givesText_replaceMatches : GivesText (replaceMatches runtime) := by
  intro value result args h
  obtain ⟨text, -, h⟩ := Except.exists_of_bind_eq_ok h
  simp only at h
  split at h
  · exact ⟨text, (Except.ok.inj h).symm⟩
  · split at h
    · cases h
    · exact ⟨_, (Except.ok.inj h).symm⟩

theorem givesText_slice : GivesText (slice runtime) := by
  intro value result args h
  obtain ⟨text, -, h⟩ := Except.exists_of_bind_eq_ok h
  have hcut : ∀ stop, (do
      let start ← bound (args.head?.getD "0")
      return Value.text (cutOut text start stop)) = .ok result → ∃ text, result = .text text := by
    intro stop h
    obtain ⟨start, -, h⟩ := Except.exists_of_bind_eq_ok h
    exact ⟨cutOut text start stop, (Except.ok.inj h).symm⟩
  simp only at h
  split at h
  · exact hcut none h
  · exact hcut none h
  · obtain ⟨stop, -, h⟩ := Except.exists_of_bind_eq_ok h
    exact hcut stop h

theorem givesText_linkText : GivesText (linkText runtime) := by
  intro value result args h
  obtain ⟨target, -, h⟩ := Except.exists_of_bind_eq_ok h
  exact ⟨_, (Except.ok.inj h).symm⟩

theorem givesText_writeJson : GivesText (writeJson runtime) := by
  intro value result args h
  rw [writeJson] at h
  split at h
  · next text htext => exact ⟨text, (Except.ok.inj h).symm⟩
  · cases h

theorem keepsData_of_lists {action : Value → List Text → Except Failure Value}
    (hother : ∀ value args, value.items? = none → action value args = .ok value)
    (hlists : ∀ value args items result, value.items? = some items →
      (∀ item ∈ items, item.IsPageData) → action value args = .ok result → result.IsPageData) :
    KeepsData action := by
  intro value result args hvalue hresult
  cases hitems : value.items? with
  | none =>
      rw [hother value args hitems] at hresult
      obtain rfl := Except.ok.inj hresult
      exact hvalue
  | some items =>
      have hdata := Value.isPageData_of_mem_items? hvalue hitems
      exact hlists value args items result hitems hdata hresult

theorem keepsData_joinItems : KeepsData (joinItems runtime) := by
  apply keepsData_of_lists
  · intro value args hitems
    rw [joinItems, hitems]
  · intro value args items result hitems _ h
    rw [joinItems, hitems] at h
    obtain ⟨texts, -, h⟩ := Except.exists_of_bind_eq_ok h
    obtain rfl := Except.ok.inj h
    exact .text _

theorem keepsData_listLines : KeepsData (listLines runtime) := by
  apply keepsData_of_lists
  · intro value args hitems
    rw [listLines, hitems]
  · intro value args items result hitems _ h
    rw [listLines, hitems] at h
    obtain ⟨texts, -, h⟩ := Except.exists_of_bind_eq_ok h
    obtain rfl := Except.ok.inj h
    exact .text _

theorem keepsData_pick {item? : List Value → Option Value}
    (h : ∀ items, ∀ item ∈ item? items, item ∈ items) : KeepsData (pick item?) := by
  apply keepsData_of_lists
  · intro value args hitems
    rw [pick, hitems]
  · intro value args items result hitems hdata hresult
    rw [pick, hitems] at hresult
    obtain rfl := Except.ok.inj hresult
    cases hpicked : item? items with
    | none => exact .null
    | some item => exact hdata item (h items item hpicked)

theorem mem_of_mem_dropRepeats {kept items : List Value} {item : Value}
    (h : item ∈ dropRepeats kept items) : item ∈ kept ∨ item ∈ items := by
  induction items generalizing kept with
  | nil => exact .inl (by simpa [dropRepeats] using h)
  | cons first rest ih =>
      rw [dropRepeats] at h
      split at h
      · rcases ih h with hkept | hrest
        · exact .inl hkept
        · exact .inr (List.mem_cons_of_mem first hrest)
      · rcases ih h with hkept | hrest
        · rcases List.mem_cons.mp hkept with rfl | hold
          · exact .inr List.mem_cons_self
          · exact .inl hold
        · exact .inr (List.mem_cons_of_mem first hrest)

theorem keepsData_unique : KeepsData unique := by
  apply keepsData_of_lists
  · intro value args hitems
    rw [unique, hitems]
  · intro value args items result hitems hdata h
    rw [unique, hitems] at h
    obtain rfl := Except.ok.inj h
    apply Value.IsPageData.list
    intro item hitem
    rcases mem_of_mem_dropRepeats hitem with hnone | hmem
    · simp at hnone
    · exact hdata item hmem

theorem keepsData_linkPages : KeepsData (linkPages runtime) := by
  intro value result args _ h
  rw [linkPages] at h
  split at h
  · obtain ⟨links, hlinks, h⟩ := Except.exists_of_bind_eq_ok h
    obtain rfl := Except.ok.inj h
    apply Value.IsPageData.list
    intro link hlink
    obtain ⟨item, -, hitem⟩ := Except.exists_of_mem_mapM hlinks hlink
    obtain ⟨text, -, hitem⟩ := Except.exists_of_bind_eq_ok hitem
    obtain rfl := Except.ok.inj hitem
    exact .text _
  · obtain ⟨target, -, h⟩ := Except.exists_of_bind_eq_ok h
    split at h
    · obtain rfl := Except.ok.inj h
      exact .text _
    · obtain rfl := Except.ok.inj h
      exact .text _

theorem keepsData_splitText : KeepsData (splitText runtime) := by
  intro value result args _ h
  obtain ⟨text, -, h⟩ := Except.exists_of_bind_eq_ok h
  obtain rfl := Except.ok.inj h
  apply Value.IsPageData.list
  intro item hitem
  obtain ⟨piece, -, rfl⟩ := List.mem_map.mp hitem
  exact .text piece

theorem keepsData_formatDate : KeepsData formatDate := by
  intro value result args hvalue h
  rw [formatDate] at h
  split at h
  · cases h
  · obtain rfl := Except.ok.inj h
    exact hvalue
  · obtain rfl := Except.ok.inj h
    exact .text _

theorem keepsData_measure : KeepsData measure := by
  intro value result args _ h
  rw [measure] at h
  split at h
  · next hlimit =>
    obtain rfl := Except.ok.inj h
    apply Value.IsPageData.int
    rw [Int.natAbs_natCast]
    have hsize : size value < 2 ^ 63 := by
      rw [signedLimit] at hlimit
      exact_mod_cast hlimit
    have hdigits : (Text.ofNat (size value)).length ≤ 63 := by
      apply Text.length_ofNat_le (by decide)
      exact hsize.trans_le (Nat.pow_le_pow_left (by decide) 63)
    exact hdigits.trans (by decide)
  · cases h

theorem keepsData_orElse : KeepsData orElse := by
  intro value result args hvalue h
  rw [orElse.eq_def] at h
  split at h
  · obtain rfl := Except.ok.inj h
    exact .text _
  · obtain rfl := Except.ok.inj h
    exact .text _
  · obtain rfl := Except.ok.inj h
    exact hvalue

theorem keepsData_readJson : KeepsData (readJson runtime) := by
  intro value result args hvalue h
  rw [readJson] at h
  split at h
  · split at h
    · obtain rfl := Except.ok.inj h
      exact hvalue
    · cases h
  · split at h
    · next parsed hparsed =>
      obtain rfl := Except.ok.inj h
      exact Json.isPageData_of_parse hparsed
    · cases h
    · obtain rfl := Except.ok.inj h
      exact hvalue

theorem keepsData_run {filter : Filter} (h : KeepsData filter.action) : KeepsData filter.run := by
  intro value result args hvalue hresult
  rw [run] at hresult
  split at hresult
  · exact h hvalue hresult
  · split at hresult
    · exact h hvalue hresult
    · cases hresult

end Filter

namespace FilterTable

def KeepsData (table : FilterTable) : Prop := ∀ entry ∈ table, Filter.KeepsData entry.2.action

theorem mem_of_get? {table : FilterTable} {name : Text} {filter : Filter}
    (h : table.get? name = some filter) : (name, filter) ∈ table := by
  induction table with
  | nil => simp [get?] at h
  | cons entry rest ih =>
      obtain ⟨other, first⟩ := entry
      rw [get?, List.lookup_cons] at h
      split at h
      · next hname =>
        obtain rfl := Option.some.inj h
        obtain rfl : name = other := by simpa using hname
        simp
      · exact List.mem_cons_of_mem _ (ih h)

theorem isPageData_apply {table : FilterTable} (htable : table.KeepsData) (call : FilterCall)
    {value : Value} (hvalue : value.IsPageData) : (table.apply call value).1.IsPageData := by
  rw [apply]
  split
  · exact hvalue
  · next filter hfilter =>
    split
    · next result hresult =>
      exact Filter.keepsData_run (htable _ (mem_of_get? hfilter)) hvalue hresult
    · exact hvalue

theorem isPageData_applyAll {table : FilterTable} (htable : table.KeepsData)
    (calls : List FilterCall) {value : Value} (hvalue : value.IsPageData) :
    (table.applyAll calls value).1.IsPageData := by
  induction calls generalizing value with
  | nil => exact hvalue
  | cons call rest ih =>
      simp only [applyAll]
      exact ih (isPageData_apply htable call hvalue)

theorem KeepsData.cons {name : Text} {filter : Filter} {table : FilterTable}
    (hfilter : Filter.KeepsData filter.action) (htable : table.KeepsData) :
    KeepsData ((name, filter) :: table) := List.forall_mem_cons.mpr ⟨hfilter, htable⟩

theorem keepsData_builtin (runtime : Runtime) : (builtin runtime).KeepsData := by
  have hpick : ∀ items : List Value, ∀ item ∈ items.head?, item ∈ items :=
    fun items item hitem => List.mem_of_mem_head? hitem
  have hpickLast : ∀ items : List Value, ∀ item ∈ items.getLast?, item ∈ items :=
    fun items item hitem => List.mem_of_mem_getLast? hitem
  -- Comparing the two actions as they stand would compute with the limit of sizes.
  have hlength : Filter.KeepsData Filter.length.action := by
    delta Filter.length
    dsimp only
    exact Filter.keepsData_measure
  rw [builtin]
  refine .cons Filter.keepsData_formatDate ?_
  refine .cons (Filter.givesText_onText Text.lower).keepsData ?_
  refine .cons (Filter.givesText_onText Text.upper).keepsData ?_
  refine .cons (Filter.givesText_onText Text.upperFirst).keepsData ?_
  refine .cons (Filter.givesText_onText Text.titleCase).keepsData ?_
  refine .cons (Filter.givesText_onText Text.strip).keepsData ?_
  refine .cons Filter.givesText_replaceMatches.keepsData ?_
  refine .cons Filter.givesText_slice.keepsData ?_
  refine .cons (Filter.givesText_onText Text.camelCase).keepsData ?_
  refine .cons (Filter.givesText_onText Text.pascalCase).keepsData ?_
  refine .cons (Filter.givesText_onText Text.snakeCase).keepsData ?_
  refine .cons (Filter.givesText_onText Text.kebabCase).keepsData ?_
  refine .cons (Filter.givesText_onText Text.safeName).keepsData ?_
  refine .cons (Filter.givesText_onText Filter.quoteLines).keepsData ?_
  refine .cons Filter.keepsData_linkPages ?_
  refine .cons Filter.givesText_linkText.keepsData ?_
  refine .cons Filter.keepsData_joinItems ?_
  refine .cons Filter.keepsData_splitText ?_
  refine .cons (Filter.keepsData_pick hpick) ?_
  refine .cons (Filter.keepsData_pick hpickLast) ?_
  refine .cons Filter.keepsData_unique ?_
  refine .cons Filter.keepsData_listLines ?_
  refine .cons hlength ?_
  refine .cons Filter.keepsData_orElse ?_
  refine .cons Filter.givesText_writeJson.keepsData ?_
  refine .cons Filter.keepsData_readJson ?_
  refine .cons (Filter.givesText_onText Text.stripTags).keepsData ?_
  refine .cons (Filter.givesText_onText Text.stripMarkdown).keepsData ?_
  exact List.forall_mem_nil _

end FilterTable

end Clippings
