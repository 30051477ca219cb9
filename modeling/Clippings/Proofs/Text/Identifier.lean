import Clippings.Proofs.Text.CaseForms
import Clippings.Proofs.Text.Spelling

namespace Clippings.Text

variable {own : CodePoint}

/-- The text in the spelling in which a sign separates words: a hyphen or an underscore. -/
def signCase (own : CodePoint) (text : Text) : Text :=
  lower (mergeRuns (isOther own) own false (splitHumps own text))

/-- A text is spelled with a sign: it has no other separators, and all of it is in lower case. -/
structure IsSignCase (own : CodePoint) (text : Text) : Prop where
  merged : ∀ c ∈ text, isOther own c = false
  lowered : ∀ c ∈ text, IsLower c

theorem eq_or_of_mem_mergeRuns {separates : CodePoint → Bool} {sign c : CodePoint} {inRun : Bool}
    {text : Text} (h : c ∈ mergeRuns separates sign inRun text) :
    c = sign ∨ separates c = false := by
  fun_induction mergeRuns separates sign inRun text with
  | case1 => cases h
  | case2 d rest hd ih => exact ih h
  | case3 inRun d rest hd hstart ih =>
      rcases List.mem_cons.mp h with rfl | hrest
      · exact .inl rfl
      · exact ih hrest
  | case4 inRun d rest hd ih =>
      rcases List.mem_cons.mp h with rfl | hrest
      · exact .inr (by simpa using hd)
      · exact ih hrest

theorem mergeRuns_eq_self {separates : CodePoint → Bool} {text : Text}
    (h : ∀ c ∈ text, separates c = false) (sign : CodePoint) :
    mergeRuns separates sign false text = text := by
  rcases eq_or_ne text [] with rfl | hne
  · rfl
  · have happend := mergeRuns_word hne h sign false []
    simpa [mergeRuns] using happend

theorem splitHumps_eq_self {text : Text} (h : ∀ c ∈ text, isPlainUpper c = false)
    (sign : CodePoint) :
    splitHumps sign text = text := by
  fun_induction splitHumps sign text with
  | case1 c d rest hhump ih =>
      rw [h d (by simp), Bool.and_false] at hhump
      cases hhump
  | case2 c d rest hhump ih => rw [ih (List.forall_mem_cons.mp h).2]
  | case3 => rfl

theorem isSignCase_signCase (own : CodePoint) (text : Text) :
    IsSignCase own (signCase own text) where
  merged := by
    intro c hc
    by_contra hother
    rw [Bool.not_eq_false] at hother
    have hseparates : separatesWords c = true := (Bool.and_eq_true_iff.mp hother).1
    rcases eq_or_of_mem_mergeRuns (mem_of_mem_lower hc hseparates) with rfl | hmerged
    · rw [isOther_own] at hother
      cases hother
    · rw [hmerged] at hother
      cases hother
  lowered _ := isLower_of_mem_lower

theorem signCase_eq_self_iff {text : Text} : signCase own text = text ↔ IsSignCase own text := by
  constructor
  · intro h
    rw [← h]
    exact isSignCase_signCase own text
  · intro h
    have hcapitals : ∀ c ∈ text, isPlainUpper c = false :=
      fun c hc => (h.lowered c hc).isPlainUpper_eq
    rw [signCase, splitHumps_eq_self hcapitals, mergeRuns_eq_self h.merged,
      lower_eq_self h.lowered]

theorem isSignCase_snakeCase (text : Text) : IsSignCase '_' text.snakeCase := by
  rw [snakeCase_eq]
  exact isSignCase_signCase '_' text

theorem isSignCase_kebabCase (text : Text) : IsSignCase '-' text.kebabCase := by
  rw [kebabCase_eq]
  exact isSignCase_signCase '-' text

theorem isSignCase_iff {other : CodePoint} (hothers : isOther own = fun c => c = other || isBlank c)
    {text : Text} :
    IsSignCase own text ↔ ∀ c ∈ text, c ≠ other ∧ isBlank c = false ∧ IsLower c := by
  constructor
  · intro h c hc
    have hmerged := h.merged c hc
    simp only [hothers, Bool.or_eq_false_iff, decide_eq_false_iff_not] at hmerged
    exact ⟨hmerged.1, hmerged.2, h.lowered c hc⟩
  · intro h
    exact ⟨fun c hc => by simp [hothers, h c hc], fun c hc => (h c hc).2.2⟩

theorem snakeCase_eq_self_iff {text : Text} :
    snakeCase text = text ↔ ∀ c ∈ text, c ≠ '-' ∧ isBlank c = false ∧ IsLower c := by
  rw [snakeCase_eq, ← isSignCase_iff isOther_underscore]
  exact signCase_eq_self_iff

theorem kebabCase_eq_self_iff {text : Text} :
    kebabCase text = text ↔ ∀ c ∈ text, c ≠ '_' ∧ isBlank c = false ∧ IsLower c := by
  rw [kebabCase_eq, ← isSignCase_iff isOther_hyphen]
  exact signCase_eq_self_iff

/-- A text is in camel case: it has no separators, and its first character is in lower case. -/
structure IsCamelCase (text : Text) : Prop where
  joined : ∀ c ∈ text, separatesWords c = false
  lowered : ∀ c ∈ text.head?, IsLower c

theorem separatesWords_of_mem_joinWords {behind : Bool} {text : Text} {c : CodePoint}
    (h : c ∈ joinWords behind text) : separatesWords c = false := by
  fun_induction joinWords behind text with
  | case1 => cases h
  | case2 behind d rest hd ih => exact ih h
  | case3 behind d rest hd ih =>
      have hletter : separatesWords d = false := by simpa using hd
      rcases List.mem_append.mp h with hfirst | hrest
      · split at hfirst
        · rcases separatesWords_upperChar hfirst with rfl | hother
          · exact hletter
          · exact hother
        · obtain rfl := List.mem_singleton.mp hfirst
          exact hletter
      · exact ih hrest

theorem joinWords_eq_self {text : Text} (h : ∀ c ∈ text, separatesWords c = false) :
    joinWords false text = text := by
  induction text with
  | nil => rfl
  | cons c rest ih =>
      obtain ⟨hc, hrest⟩ := List.forall_mem_cons.mp h
      simp [joinWords, hc, ih hrest]

theorem isLower_of_head?_lowerFirst {text : Text} {c : CodePoint}
    (h : c ∈ (lowerFirst text).head?) :
    IsLower c := by
  cases text with
  | nil => cases h
  | cons d rest =>
      rw [lowerFirst, List.head?_append_of_ne_nil _ (lower_ne_nil (List.cons_ne_nil d []))] at h
      exact isLower_of_mem_lower (List.mem_of_mem_head? h)

theorem mem_of_mem_lowerFirst {text : Text} {c : CodePoint} (h : c ∈ lowerFirst text)
    (hseparates : separatesWords c = true) : c ∈ text := by
  cases text with
  | nil => cases h
  | cons d rest =>
      rcases List.mem_append.mp h with hfirst | hrest
      · obtain rfl := List.mem_singleton.mp (mem_of_mem_lower hfirst hseparates)
        exact List.mem_cons_self
      · exact List.mem_cons_of_mem d hrest

theorem isCamelCase_camelCase (text : Text) : IsCamelCase text.camelCase where
  joined := by
    intro c hc
    by_contra hseparates
    rw [Bool.not_eq_false] at hseparates
    rw [separatesWords_of_mem_joinWords (mem_of_mem_lowerFirst hc hseparates)] at hseparates
    cases hseparates
  lowered _ := isLower_of_head?_lowerFirst

theorem isCamelCase_iff {text : Text} :
    IsCamelCase text ↔ (∀ c ∈ text, c ≠ '-' ∧ c ≠ '_' ∧ isBlank c = false) ∧
      ∀ c ∈ text.head?, IsLower c := by
  have hseparates {c : CodePoint} :
      separatesWords c = false ↔ c ≠ '-' ∧ c ≠ '_' ∧ isBlank c = false := by
    simp [separatesWords, and_assoc]
  simp only [← hseparates]
  exact ⟨fun h => ⟨h.joined, h.lowered⟩, fun h => ⟨h.1, h.2⟩⟩

theorem camelCase_eq_self_iff {text : Text} : camelCase text = text ↔ IsCamelCase text := by
  constructor
  · intro h
    rw [← h]
    exact isCamelCase_camelCase text
  · intro h
    rw [camelCase, joinWords_eq_self h.joined]
    cases text with
    | nil => rfl
    | cons c rest =>
        have hfirst : lower [c] = [c] := lower_eq_self (by simpa using h.lowered c rfl)
        rw [lowerFirst, hfirst, List.singleton_append]

end Clippings.Text
