import Clippings.Proofs.Template.Checking
import Clippings.Proofs.Template.Rendering
import Clippings.Proofs.Text.Order
import Clippings.Proofs.Variable.ContextKeys
/-!
What a rendering reads of its context, and how much of it a check with the names of a context sees.
The check looks at the roots of paths, which are the keys that are looked up unless a key holds a
bracket or a placeholder has no variable.
-/

namespace Clippings

namespace Dialect

variable {dialect : Dialect} {first second : Value}

theorem renderHoles_congr {holes : List (Text × Text)}
    (h : ∀ hole ∈ holes,
      resolveIn dialect.places (Expression.parse (Text.strip hole.2)).variableName first =
        resolveIn dialect.places (Expression.parse (Text.strip hole.2)).variableName second) :
    dialect.renderHoles first holes = dialect.renderHoles second holes := by
  induction holes with
  | nil => rfl
  | cons hole rest ih =>
      obtain ⟨literal, body⟩ := hole
      obtain ⟨hbody, hrest⟩ := List.forall_mem_cons.mp h
      simp only [renderHoles, renderExpression, evaluate, hbody, ih hrest]

theorem renderText_congr {text : Text}
    (h : ∀ body ∈ Engine.placeholders text,
      resolveIn dialect.places (Expression.parse body).variableName first =
        resolveIn dialect.places (Expression.parse body).variableName second) :
    dialect.renderText first text = dialect.renderText second text := by
  have hholes : dialect.renderHoles first (Template.ofText text).holes =
      dialect.renderHoles second (Template.ofText text).holes :=
    renderHoles_congr fun hole hhole => h (Text.strip hole.2) (List.mem_map_of_mem hhole)
  rw [renderText, renderText, hholes]

end Dialect

def Entries.AgreeOn (keys : Set Text) (first second : Entries) : Prop :=
  ∀ key ∈ keys, first.getText? key = second.getText? key

namespace Engine

/-- The keys of a context under which the variables of a template are looked up. -/
def contextKeys (template : Text) : List Text :=
  (placeholders template).filterMap fun body =>
    (Namespace.ofVariable (Expression.parse body).variableName).contextKey?
      (Expression.parse body).variableName

theorem render_congr_of_contextKeys {engine : Engine}
    (hplaces : engine.dialect.places = VariablePlace.builtin) {template : Text}
    {first second : Entries} (h : Entries.AgreeOn {key | key ∈ contextKeys template} first second) :
    (engine.render (.text template) (.map first)).1 =
      (engine.render (.text template) (.map second)).1 := by
  rw [render_fst, render_fst]
  apply Dialect.renderText_congr
  intro body hbody
  rw [hplaces]
  apply resolveIn_builtin_congr
  intro key hkey
  exact h key (List.mem_filterMap.mpr ⟨body, hbody, hkey⟩)

end Engine

def reservedKeys : List Text := ["metadata", "_selectors", "_selectorsHtml", "_schema"]

theorem Namespace.contextKey?_cases {variableName key : Text} {place : Namespace}
    (h : place.contextKey? variableName = some key) :
    key ∈ reservedKeys ∨ place = path ∧ key = pathKey variableName := by
  cases place with
  | prompt => cases h
  | path =>
      obtain rfl := Option.some.inj h
      exact .inr ⟨rfl, rfl⟩
  | _ =>
      obtain rfl := Option.some.inj h
      exact .inl (by decide)

theorem pathKey_eq_rootName {path : Text} (h : .char '[' ∉ pathKey path) :
    pathKey path = Validation.rootName path :=
  PathSegment.keyText_parse h

namespace Validation

theorem unknownRoots_eq_nil_iff {known variableNames : List Text} :
    unknownRoots known variableNames = [] ↔
      ∀ name ∈ variableNames, Namespace.ofVariable name = .path → rootName name ∈ known := by
  rw [List.eq_nil_iff_forall_not_mem]
  simp only [unknownRoots, Text.mem_sortedSet]
  constructor
  · intro hnone name hname hplace
    by_contra hunknown
    apply hnone (rootName name)
    refine List.mem_filter.mpr ⟨List.mem_map_of_mem (List.mem_filter.mpr ⟨hname, ?_⟩), ?_⟩
    · simpa using hplace
    · simpa using hunknown
  · intro hknown root hroot
    obtain ⟨hroot, hunknown⟩ := List.mem_filter.mp hroot
    obtain ⟨name, hname, rfl⟩ := List.mem_map.mp hroot
    obtain ⟨hname, hplace⟩ := List.mem_filter.mp hname
    exact absurd (hknown name hname (by simpa using hplace)) (by simpa using hunknown)

theorem checkVariables_of_unknownRoots {known variableNames : List Text}
    (h : unknownRoots known variableNames = []) :
    checkVariables (some known) variableNames = [] := by
  rw [checkVariables, h]

theorem unknownRoots_of_checkVariables {known variableNames : List Text}
    (h : ∀ names, .unknownVariables names ∉ checkVariables (some known) variableNames) :
    unknownRoots known variableNames = [] := by
  rw [checkVariables] at h
  split at h
  · assumption
  · next hnames => exact absurd List.mem_cons_self (h _)

end Validation

def unknownVariablesStart : Text := "Template uses variables not in context"

theorem Finding.startsWith_message_unknownVariables (names : List Text) :
    Text.startsWith (unknownVariables names).message unknownVariablesStart = true :=
  List.isPrefixOf_iff_prefix.mpr
    ⟨": " ++ Text.join ", " names, (List.append_assoc _ _ _).symm⟩

namespace Engine

theorem mem_variableNames_iff {template name : Text} (engine : Engine) :
    name ∈ (engine.variableNames template).1 ↔
      name ≠ [] ∧ ∃ body ∈ placeholders template, (Expression.parse body).variableName = name := by
  rw [variableNames_fst, Text.mem_sortedSet, List.map_map, List.mem_filter, List.mem_map, and_comm]
  simp

/-- If a check that knows the names of a context does not warn about variables, then it has seen
every key that the template looks up, but for those that are empty or hold a bracket. -/
theorem mem_contextKeys_cases {checker : Engine} {expectations : Expectations} {known : List Text}
    (hstrictness : expectations.strictness ≠ .permissive)
    (hknown : expectations.known = some known) {template key : Text}
    (hclean : ∀ names,
      .unknownVariables names ∉ (checker.validateText expectations template).1.warnings)
    (hkey : key ∈ contextKeys template) :
    key ∈ known ∨ key ∈ reservedKeys ∨ key = [] ∨ .char '[' ∈ key := by
  obtain ⟨body, hbody, hkey⟩ := List.mem_filterMap.mp hkey
  rcases Namespace.contextKey?_cases hkey with hreserved | ⟨hplace, rfl⟩
  · exact .inr (.inl hreserved)
  · by_cases hbracket : .char '[' ∈ pathKey (Expression.parse body).variableName
    · exact .inr (.inr (.inr hbracket))
    · by_cases hempty : (Expression.parse body).variableName = []
      · rw [hempty]
        exact .inr (.inr (.inl rfl))
      -- The key is the root of a variable that the check has listed, so it is known.
      · have hname := (mem_variableNames_iff checker).mpr ⟨hempty, body, hbody, rfl⟩
        have hnone : Validation.unknownRoots known (checker.variableNames template).1 = [] := by
          apply Validation.unknownRoots_of_checkVariables
          intro names hwarning
          apply hclean names
          rw [warnings_validateText hstrictness, hknown]
          exact List.mem_append_right _ hwarning
        rw [pathKey_eq_rootName hbracket]
        exact .inl (Validation.unknownRoots_eq_nil_iff.mp hnone _ hname hplace)

/-- A check that knows the names of a context, and does not warn about variables, covers what a
rendering reads, but for the keys that are empty or hold a bracket: contexts with the same values
under the known keys, the keys of the sections, and those keys of the template that the check does
not see are rendered in the same way. -/
theorem render_congr_of_known {checker engine : Engine}
    (hplaces : engine.dialect.places = VariablePlace.builtin) {expectations : Expectations}
    {known : List Text} (hstrictness : expectations.strictness ≠ .permissive)
    (hknown : expectations.known = some known) {template : Text}
    (hclean : ∀ finding ∈ (checker.validate expectations (some template)).1.warnings,
      Text.startsWith finding.message unknownVariablesStart = false)
    {first second : Entries}
    (hagree : Entries.AgreeOn
      {key | key ∈ known ∨ key ∈ reservedKeys ∨
        key ∈ contextKeys template ∧ (key = [] ∨ .char '[' ∈ key)} first second) :
    (engine.render (.text template) (.map first)).1 =
      (engine.render (.text template) (.map second)).1 := by
  apply render_congr_of_contextKeys hplaces
  intro key hkey
  have hne : template ≠ [] := by
    rintro rfl
    cases hkey
  have hnone : ∀ names, .unknownVariables names ∉
      (checker.validateText expectations template).1.warnings := by
    intro names hwarning
    rw [validate_of_ne_nil hne] at hclean
    have hstart := hclean _ hwarning
    rw [Finding.startsWith_message_unknownVariables] at hstart
    cases hstart
  apply hagree
  rcases mem_contextKeys_cases hstrictness hknown hnone hkey with hmem | hmem | hunseen
  · exact .inl hmem
  · exact .inr (.inl hmem)
  · exact .inr (.inr ⟨hkey, hunseen⟩)

theorem warnings_validate_eq_nil {checker : Engine} {known : List Text} {template : Text}
    (hne : template ≠ []) (hfindings : Validation.findings checker.dialect.filters template = [])
    (hroots : ∀ body ∈ placeholders template,
      Namespace.ofVariable (Expression.parse body).variableName = .path →
        Validation.rootName (Expression.parse body).variableName ∈ known) :
    (checker.validate { known := some known } (some template)).1.warnings = [] := by
  have hnone : Validation.unknownRoots known (checker.variableNames template).1 = [] := by
    apply Validation.unknownRoots_eq_nil_iff.mpr
    intro name hname
    obtain ⟨-, body, hbody, rfl⟩ := (mem_variableNames_iff checker).mp hname
    exact hroots body hbody
  rw [validate_of_ne_nil hne, warnings_validateText (by simp), hfindings, List.filter_nil,
    List.nil_append]
  exact Validation.checkVariables_of_unknownRoots hnone

theorem render_congr_of_known_bracket :
    let template : Text := "\x7b\x7btitle\x7d\x7d \x7b\x7ba-b[0]\x7d\x7d"
    let known : List Text := ["title", "a-b"]
    let first : Entries := [(.text "title", .text "T"), (.text "a-b[0]", .int 1)]
    let second : Entries := (.text "author", .text "A") :: first
    (∀ finding ∈ (({} : Engine).validate { known := some known } (some template)).1.warnings,
        Text.startsWith finding.message unknownVariablesStart = false) ∧
      Entries.AgreeOn
        {key | key ∈ known ∨ key ∈ reservedKeys ∨
          key ∈ contextKeys template ∧ (key = [] ∨ .char '[' ∈ key)} first second ∧
      (({} : Engine).render (.text template) (.map first)).1 = .ok { output := "T 1" } ∧
      (({} : Engine).render (.text template) (.map second)).1 = .ok { output := "T 1" } := by
  intro template known first second
  have hclean : ∀ finding ∈
      (({} : Engine).validate { known := some known } (some template)).1.warnings,
      Text.startsWith finding.message unknownVariablesStart = false := by
    rw [warnings_validate_eq_nil (by decide) rfl (by decide)]
    exact List.forall_mem_nil _
  have hagree : Entries.AgreeOn
      {key | key ∈ known ∨ key ∈ reservedKeys ∨
        key ∈ contextKeys template ∧ (key = [] ∨ .char '[' ∈ key)} first second := by
    intro key hkey
    have hother : key ≠ ("author" : Text) := by
      rintro rfl
      rcases hkey with hmem | hmem | ⟨hmem, -⟩ <;> exact absurd hmem (by decide)
    exact (if_neg hother).symm
  have hfirst : (({} : Engine).render (.text template) (.map first)).1 = .ok { output := "T 1" } :=
    rfl
  exact ⟨hclean, hagree, hfirst,
    (render_congr_of_known rfl (by decide) rfl hclean hagree).symm.trans hfirst⟩

/-- The check takes what stands before the bracket as the root, and the rendering does not. -/
theorem render_of_hidden_key :
    let template : Text := "\x7b\x7ba-b[0]\x7d\x7d"
    let first : Entries := [(.text "a-b", .list [.text "x"])]
    let second : Entries := [(.text "a-b", .list [.text "x"]), (.text "a-b[0]", .text "y")]
    (({} : Engine).validate { known := some [("a-b" : Text)] } (some template)).1.warnings = [] ∧
      Entries.AgreeOn {key | key ∈ [("a-b" : Text)] ∨ key ∈ reservedKeys} first second ∧
      (({} : Engine).render (.text template) (.map first)).1 = .ok { output := [] } ∧
      (({} : Engine).render (.text template) (.map second)).1 = .ok { output := "y" } := by
  intro template first second
  refine ⟨warnings_validate_eq_nil (by decide) rfl (by decide), ?_, rfl, rfl⟩
  intro key hkey
  have hother : key ≠ ("a-b[0]" : Text) := by
    rintro rfl
    rcases hkey with hmem | hmem <;> exact absurd hmem (by decide)
  by_cases hlist : key = ("a-b" : Text)
  · rw [hlist]
    rfl
  · exact (if_neg hlist).trans ((if_neg hlist).trans (if_neg hother)).symm

end Engine

theorem resolveIn_empty (spaces : List Namespace) {entries : Entries}
    (h : entries.getText? [] = none) :
    resolveIn (spaces.map Namespace.place) [] (.map entries) = .ok (.text []) := by
  rw [resolveIn_map_place]
  split
  · next space hspace =>
    have hadmits : space.admits [] = true := List.find?_some hspace
    cases space with
    | path =>
        change followPath [.key []] (.map entries) = .ok (.text [])
        simp [followPath, PathSegment.follow, lookUp, h, bind, Except.bind, pure, Except.pure]
    | _ => cases hadmits
  · rfl

namespace Engine

/-- The variables of a template are all that a rendering reads of a context, but for the empty name
that a placeholder without a variable has: if all of them have the same values in two contexts, or
fail in the same way, then so does the rendering, whatever the engine remembers. The usual places
have nothing under the empty name unless the context has a key for it. -/
theorem render_congr_of_variableNames :
    (∀ {engine other : Engine}, other.dialect = engine.dialect →
      ∀ {template : Text} {first second : Entries},
        ([] ∈ (placeholders template).map (fun body => (Expression.parse body).variableName) →
          resolveIn engine.dialect.places [] (.map first) =
            resolveIn engine.dialect.places [] (.map second)) →
        (∀ name ∈ (engine.variableNames template).1,
          resolveIn engine.dialect.places name (.map first) =
            resolveIn engine.dialect.places name (.map second)) →
        (engine.render (.text template) (.map first)).1 =
          (other.render (.text template) (.map second)).1) ∧
      ∀ (spaces : List Namespace) {first second : Entries},
        first.getText? [] = none → second.getText? [] = none →
          resolveIn (spaces.map Namespace.place) [] (.map first) =
            resolveIn (spaces.map Namespace.place) [] (.map second) := by
  constructor
  · intro engine other hdialect template first second hempty hsame
    rw [render_fst, render_fst, hdialect]
    apply Dialect.renderText_congr
    intro body hbody
    by_cases hname : (Expression.parse body).variableName = []
    · rw [hname]
      exact hempty (List.mem_map.mpr ⟨body, hbody, hname⟩)
    · exact hsame _ ((mem_variableNames_iff engine).mpr ⟨hname, body, hbody, rfl⟩)
  · intro spaces first second hfirst hsecond
    rw [resolveIn_empty spaces hfirst, resolveIn_empty spaces hsecond]

theorem render_congr_of_variableNames_filter :
    let template : Text := "\x7b\x7ba|json\x7d\x7d\x7b\x7b|\x7d\x7d\x7b\x7bb\x7d\x7d"
    let first : Entries := [(.text "a", .text "t"), (.text "by", .text "A")]
    let second : Entries := [(.text "metadata", .map []), (.text "a", .text "t")]
    first.getText? [] = none ∧ second.getText? [] = none ∧
      (∀ name ∈ (({} : Engine).variableNames template).1,
        resolveIn VariablePlace.builtin name (.map first) =
          resolveIn VariablePlace.builtin name (.map second)) ∧
      (({} : Engine).render (.text template) (.map first)).1 = .ok { output := "\"t\"" } ∧
      (({ cacheSize := 0 } : Engine).render (.text template) (.map second)).1 =
        .ok { output := "\"t\"" } := by
  intro template first second
  have hsame : ∀ name ∈ (({} : Engine).variableNames template).1,
      resolveIn VariablePlace.builtin name (.map first) =
        resolveIn VariablePlace.builtin name (.map second) := by
    intro name hname
    obtain ⟨-, body, hbody, rfl⟩ := (mem_variableNames_iff {}).mp hname
    have hbodies : placeholders template = ([("a|json" : Text), "|", "b"] : List Text) := rfl
    rw [hbodies] at hbody
    simp only [List.mem_cons, List.not_mem_nil, or_false] at hbody
    rcases hbody with rfl | rfl | rfl <;> rfl
  have hfirst : (({} : Engine).render (.text template) (.map first)).1 = .ok { output :=
    "\"t\"" } :=
    rfl
  have hempty : resolveIn VariablePlace.builtin [] (.map first) =
      resolveIn VariablePlace.builtin [] (.map second) :=
    render_congr_of_variableNames.2 Namespace.all rfl rfl
  have hcongr : (({} : Engine).render (.text template) (.map first)).1 =
      (({ cacheSize := 0 } : Engine).render (.text template) (.map second)).1 :=
    render_congr_of_variableNames.1 rfl (fun _ => hempty) hsame
  exact ⟨rfl, rfl, hsame, hfirst, hcongr.symm.trans hfirst⟩

/-- A place of the caller may give the empty name any value, and mappings that are equal in another
order are shown in theirs. -/
theorem render_differs_on_same_variables :
    let everything : VariablePlace :=
      { admits := fun _ => .ok true
        resolve := fun _ context => followPath [.key "t"] context }
    let engine : Engine := { dialect := { places := [everything] } }
    let template : Text := "\x7b\x7b \x7d\x7d"
    let first : Entries := [(.text "t", .text "A")]
    let second : Entries := [(.text "t", .text "B")]
    let pair : Value := .map [(.text "x", .int 1), (.text "y", .int 2)]
    let swapped : Value := .map [(.text "y", .int 2), (.text "x", .int 1)]
    (engine.variableNames template).1 = [] ∧
      first.getText? [] = none ∧ second.getText? [] = none ∧
      (engine.render (.text template) (.map first)).1 = .ok { output := "A" } ∧
      (engine.render (.text template) (.map second)).1 = .ok { output := "B" } ∧
      (({} : Engine).variableNames "\x7b\x7ba\x7d\x7d").1 = [("a" : Text)] ∧
        pair.same swapped = true ∧
      (({} : Engine).render (.text "\x7b\x7ba\x7d\x7d") (.map [(.text "a", pair)])).1 =
        .ok { output := "\x7b\"x\":1,\"y\":2\x7d" } ∧
      (({} : Engine).render (.text "\x7b\x7ba\x7d\x7d") (.map [(.text "a", swapped)])).1 =
        .ok { output := "\x7b\"y\":2,\"x\":1\x7d" } := by
  intro everything engine template first second pair swapped
  exact ⟨by decide +kernel, rfl, rfl, rfl, rfl, by decide +kernel, rfl, rfl, rfl⟩

end Engine

end Clippings
