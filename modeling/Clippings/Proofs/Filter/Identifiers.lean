import Clippings.Filter.Builtin
import Clippings.Proofs.Text.Identifier

namespace Clippings

namespace Text

theorem signs_eq_one {own : CodePoint} {run : Text} (hne : run ≠ [])
    (h : run.length = 1 ∨ own ∉ run) : signs own run = 1 := by
  fun_induction signs own run with
  | case1 => exact absurd rfl hne
  | case2 => rfl
  | case3 c d rest ih =>
      obtain hshort | hfree := h
      · simp at hshort
      · obtain ⟨hc, hothers⟩ : own ≠ c ∧ own ∉ d :: rest := by simpa using hfree
        obtain ⟨hd, -⟩ : own ≠ d ∧ own ∉ rest := by simpa using hothers
        simp [hc.symm, hd.symm, ih (by simp) (.inr hothers)]

theorem signs_eq_of_blanks {run : Text} (h : run.length = 1 ∨ ∀ c ∈ run, isBlank c = true) :
    signs '-' run = signs '_' run := by
  rcases eq_or_ne run [] with rfl | hne
  · rfl
  · have hfree {own : CodePoint} (hown : isBlank own = false) : run.length = 1 ∨ own ∉ run :=
      h.imp_right fun hblanks hmem => by simp [hblanks own hmem] at hown
    rw [signs_eq_one hne (hfree (by decide)), signs_eq_one hne (hfree (by decide))]

end Text

namespace Filter

variable {runtime : Runtime}

theorem onText_eq_map (f : Text → Text) (value : Value) (args : List Text) :
    onText runtime f value args = (value.displayed runtime).map fun text => .text (f text) := by
  rw [onText]
  cases value.displayed runtime <;> rfl

theorem run_camel (value : Value) :
    (camel runtime).run value [] = (value.displayed runtime).map fun text => .text text.camelCase :=
  onText_eq_map Text.camelCase value []

theorem run_snake (value : Value) :
    (snake runtime).run value [] = (value.displayed runtime).map fun text => .text text.snakeCase :=
  onText_eq_map Text.snakeCase value []

theorem run_kebab (value : Value) :
    (kebab runtime).run value [] = (value.displayed runtime).map fun text => .text text.kebabCase :=
  onText_eq_map Text.kebabCase value []

/-- Kebab case is snake case with hyphens, but for the lengths of runs of signs. The two are the
same exactly if each run of separators leaves as many signs in both: a hyphen stays as it is in
kebab case and an underscore in snake case, and other separators merge. -/
theorem run_kebab_snake (value : Value) :
    (∃ failure, (snake runtime).run value [] = .error failure ∧
      (kebab runtime).run value [] = .error failure) ∨
      ∃ text snaked kebabed, value.displayed runtime = .ok text ∧
        (snake runtime).run value [] = .ok (.text snaked) ∧
          (kebab runtime).run value [] = .ok (.text kebabed) ∧
        Text.mergeRuns (· = '-') '-' false kebabed =
          Text.mergeRuns (· = '-') '-' false snaked.hyphenate ∧
        (kebabed = snaked.hyphenate ↔
          ∀ run ∈ text.separatorRuns, Text.signs '-' run = Text.signs '_' run) ∧
        ((∀ run ∈ text.separatorRuns, run.length = 1 ∨ ∀ c ∈ run, Text.isBlank c = true) →
          kebabed = snaked.hyphenate) := by
  rw [run_snake, run_kebab]
  cases value.displayed runtime with
  | error failure => exact .inl ⟨failure, rfl, rfl⟩
  | ok text =>
      have hsame := Text.kebabCase_eq_hyphenate_iff text
      exact .inr ⟨text, text.snakeCase, text.kebabCase, rfl, rfl, rfl,
        Text.mergeRuns_kebabCase text, hsame,
        fun hruns => hsame.mpr fun run hrun => Text.signs_eq_of_blanks (hruns run hrun)⟩

/-- An underscore before a blank stays in snake case, and goes with it in kebab case. -/
theorem kebab_ne_snake_mixed :
    (snake {}).run (.text "a_ b") [] = .ok (.text "a__b") ∧
      (kebab {}).run (.text "a_ b") [] = .ok (.text "a-b") ∧
      Text.hyphenate "a__b" = "a--b" ∧
      ¬ ∀ (value : Value) (snaked kebabed : Text),
        (snake {}).run value [] = .ok (.text snaked) →
        (kebab {}).run value [] = .ok (.text kebabed) → kebabed = snaked.hyphenate := by
  have hsnaked : Text.snakeCase "a_ b" = "a__b" := by decide +kernel
  have hkebabed : Text.kebabCase "a_ b" = "a-b" := by decide +kernel
  have hsnake : (snake {}).run (.text "a_ b") [] = .ok (.text "a__b") := by
    rw [run_snake, ← hsnaked]
    rfl
  have hkebab : (kebab {}).run (.text "a_ b") [] = .ok (.text "a-b") := by
    rw [run_kebab, ← hkebabed]
    rfl
  exact ⟨hsnake, hkebab, rfl, fun hsame => absurd (hsame _ _ _ hsnake hkebab) (by decide)⟩

theorem onText_eq_self_iff {f : Text → Text} {text : Text} {args : List Text} :
    onText runtime f (.text text) args = .ok (.text text) ↔ f text = text := by
  rw [onText_eq_map]
  constructor
  · intro h
    exact Value.text.inj (Except.ok.inj h)
  · intro h
    exact congrArg (Except.ok ∘ Value.text) h

theorem run_camel_eq_self_iff {text : Text} :
    (camel runtime).run (.text text) [] = .ok (.text text) ↔
      (∀ c ∈ text, c ≠ '-' ∧ c ≠ '_' ∧ Text.isBlank c = false) ∧
        ∀ c ∈ text.head?, Text.IsLower c := by
  show onText runtime Text.camelCase (.text text) [] = _ ↔ _
  rw [onText_eq_self_iff, Text.camelCase_eq_self_iff, Text.isCamelCase_iff]

theorem run_snake_eq_self_iff {text : Text} :
    (snake runtime).run (.text text) [] = .ok (.text text) ↔
      ∀ c ∈ text, c ≠ '-' ∧ Text.isBlank c = false ∧ Text.IsLower c := by
  show onText runtime Text.snakeCase (.text text) [] = _ ↔ _
  rw [onText_eq_self_iff, Text.snakeCase_eq_self_iff]

theorem run_kebab_eq_self_iff {text : Text} :
    (kebab runtime).run (.text text) [] = .ok (.text text) ↔
      ∀ c ∈ text, c ≠ '_' ∧ Text.isBlank c = false ∧ Text.IsLower c := by
  show onText runtime Text.kebabCase (.text text) [] = _ ↔ _
  rw [onText_eq_self_iff, Text.kebabCase_eq_self_iff]

/-- One pass of a filter for identifiers is enough. Camel case has no hyphen, underscore or blank,
snake case has no hyphen, blank or capital, and kebab case has no underscore, blank or capital, and
each of them stays as it is in another pass. A value without a text fails in all of them. What stays
as it is are the texts without separators to merge that are in lower case, for camel case at their
start. -/
theorem run_identifier_again (value : Value) :
    ((∃ failure, value.displayed runtime = .error failure ∧
        (camel runtime).run value [] = .error failure ∧
        (snake runtime).run value [] = .error failure ∧
        (kebab runtime).run value [] = .error failure) ∨
      ∃ camelled snaked kebabed, (camel runtime).run value [] = .ok (.text camelled) ∧
        (snake runtime).run value [] = .ok (.text snaked) ∧
        (kebab runtime).run value [] = .ok (.text kebabed) ∧
        (∀ c ∈ camelled, c ≠ '-' ∧ c ≠ '_' ∧ Text.isBlank c = false) ∧
        (∀ c ∈ snaked, c ≠ '-' ∧ Text.isBlank c = false ∧ Text.isPlainUpper c = false) ∧
        (∀ c ∈ kebabed, c ≠ '_' ∧ Text.isBlank c = false ∧ Text.isPlainUpper c = false) ∧
        (camel runtime).run (.text camelled) [] = .ok (.text camelled) ∧
        (snake runtime).run (.text snaked) [] = .ok (.text snaked) ∧
        (kebab runtime).run (.text kebabed) [] = .ok (.text kebabed)) ∧
      ∀ text : Text,
        ((camel runtime).run (.text text) [] = .ok (.text text) ↔
          (∀ c ∈ text, c ≠ '-' ∧ c ≠ '_' ∧ Text.isBlank c = false) ∧
            ∀ c ∈ text.head?, Text.IsLower c) ∧
        ((snake runtime).run (.text text) [] = .ok (.text text) ↔
          ∀ c ∈ text, c ≠ '-' ∧ Text.isBlank c = false ∧ Text.IsLower c) ∧
        ((kebab runtime).run (.text text) [] = .ok (.text text) ↔
          ∀ c ∈ text, c ≠ '_' ∧ Text.isBlank c = false ∧ Text.IsLower c) := by
  refine ⟨?_, fun text =>
    ⟨run_camel_eq_self_iff, run_snake_eq_self_iff, run_kebab_eq_self_iff⟩⟩
  rw [run_camel, run_snake, run_kebab]
  cases value.displayed runtime with
  | error failure => exact .inl ⟨failure, rfl, rfl, rfl, rfl⟩
  | ok text =>
      have hcamel := Text.isCamelCase_iff.mp (Text.isCamelCase_camelCase text)
      have hsnake :=
        (Text.isSignCase_iff Text.isOther_underscore).mp (Text.isSignCase_snakeCase text)
      have hkebab := (Text.isSignCase_iff Text.isOther_hyphen).mp (Text.isSignCase_kebabCase text)
      refine .inr ⟨text.camelCase, text.snakeCase, text.kebabCase, rfl, rfl, rfl, hcamel.1, ?_, ?_,
        run_camel_eq_self_iff.mpr hcamel, run_snake_eq_self_iff.mpr hsnake,
        run_kebab_eq_self_iff.mpr hkebab⟩
      · intro c hc
        obtain ⟨hhyphen, hblank, hlower⟩ := hsnake c hc
        exact ⟨hhyphen, hblank, hlower.isPlainUpper_eq⟩
      · intro c hc
        obtain ⟨hunderscore, hblank, hlower⟩ := hkebab c hc
        exact ⟨hunderscore, hblank, hlower.isPlainUpper_eq⟩

end Filter

end Clippings
