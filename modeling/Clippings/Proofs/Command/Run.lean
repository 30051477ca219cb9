import Clippings.Proofs.Command.Clip
import Clippings.Proofs.Command.Templates

namespace Clippings

open FileTree (OnlyReads)

theorem FileSystem.onlyReads_kindNamed (name : Text) :
    OnlyReads (FileTree.system.kindNamed name) := by
  rw [kindNamed]
  split
  · exact FileTree.onlyReads_pure _
  · refine (FileTree.onlyReads_kindAt _).bind fun found => ?_
    split
    · split <;> exact FileTree.onlyReads_pure _
    · exact FileTree.onlyReads_pure _
    · exact FileTree.onlyReads_pure _

theorem ValueKind.onlyReads_misuse? (kind : ValueKind) (label value : Text) :
    OnlyReads (kind.misuse? FileTree.system label value) := by
  have hrefusal : OnlyReads (kind.refusal? FileTree.system value) := by
    cases kind with
    | text => exact FileTree.onlyReads_pure _
    | among words =>
        rw [refusal?]
        split <;> exact FileTree.onlyReads_pure _
    | file =>
        refine (FileSystem.onlyReads_kindNamed value).bind fun found => ?_
        split <;> exact FileTree.onlyReads_pure _
    | folder =>
        refine (FileSystem.onlyReads_kindNamed value).bind fun found => ?_
        split <;> exact FileTree.onlyReads_pure _
  exact hrefusal.bind fun _ => FileTree.onlyReads_pure _

namespace CommandForm

theorem onlyReads_checkOptions (form : CommandForm) (arguments : Arguments) (names : List Text) :
    OnlyReads (form.checkOptions FileTree.system arguments names) := by
  induction names with
  | nil => exact FileTree.onlyReads_pure _
  | cons name rest ih =>
      refine (ValueKind.onlyReads_misuse? _ _ _).bind fun misuse => ?_
      cases misuse with
      | none => exact ih
      | some misuse => exact FileTree.onlyReads_pure _

theorem onlyReads_checkWords (parameters : List Parameter) (words : List Text) :
    OnlyReads (checkWords FileTree.system parameters words) := by
  fun_induction checkWords FileTree.system parameters words with
  | case1 => exact FileTree.onlyReads_pure _
  | case2 => exact FileTree.onlyReads_pure _
  | case3 => exact FileTree.onlyReads_pure _
  | case4 parameter rest word words ih =>
      refine (ValueKind.onlyReads_misuse? _ _ _).bind fun misuse => ?_
      cases misuse with
      | none => exact ih
      | some misuse => exact FileTree.onlyReads_pure _

theorem onlyReads_check (form : CommandForm) (arguments : Arguments) :
    OnlyReads (form.check FileTree.system arguments) := by
  refine (form.onlyReads_checkOptions arguments _).bind fun misuse => ?_
  cases misuse with
  | none => exact onlyReads_checkWords _ _
  | some misuse => exact FileTree.onlyReads_pure _

end CommandForm

namespace Command

def callOf? (words : List Text) : Option (Name × Arguments) := do
  let program ← (programForm.read false words).toOption
  let name ← program.words.head?
  let command ← Name.ofText? name
  let arguments ← (command.form.read true program.words.tail).toOption
  return (command, arguments)

def Breaks (tree : FileTree) (setting : Setting) : Name → Arguments → Crash → Prop
  | .clip, arguments => BreaksClip tree setting arguments
  | .render, arguments => BreaksRender tree setting arguments
  | .validate, arguments => BreaksValidate tree setting arguments
  | .filters, _ => fun _ => False

/-- What a call has done that ends well: it has changed no file, or it has clipped. -/
def Succeeds (tree : FileTree) (setting : Setting) (command : Name) (arguments : Arguments)
    (after : FileTree) : Prop :=
  after = tree ∨ command = .clip ∧ Clips tree setting arguments after

/-- How a command stops that started on a file tree: properly or for a known reason, or it breaks
down when a file was opened for a note. -/
def Stops (tree : FileTree) (setting : Setting) (command : Name) (arguments : Arguments)
    (stop : Stop) (left : Transcript) (after : FileTree) : Prop :=
  Explained setting.palette command tree (Breaks tree setting command arguments) stop left after ∨
    command = .clip ∧ BreaksLate tree setting arguments stop after

theorem isWhole_builtin : ∀ entry ∈ FilterTable.builtin {},
    entry.1.IsWhole ∧ entry.2.summary.IsWhole := by
  simp only [FilterTable.builtin, List.forall_mem_cons]
  and_intros <;> first | exact Text.isWhole_map _ | simp

theorem isWhole_exampleOf {name : Text} (h : name.IsWhole) : (exampleOf name).IsWhole := by
  have hexamples : ∀ entry ∈ filterExamples, entry.2.IsWhole := by
    simp only [filterExamples, List.forall_mem_cons]
    and_intros <;> first | exact Text.isWhole_map _ | simp
  rw [exampleOf]
  cases hfound : filterExamples.lookup name with
  | none => exact h.between _ _
  | some example_ =>
      obtain ⟨before, after, hentries, -⟩ := List.lookup_eq_some_iff.mp hfound
      exact hexamples (name, example_) (hentries ▸ by simp)

theorem isWhole_filterTable : filterTable.IsWhole := by
  refine Screen.isWhole_table ?_ fun row hrow => ?_
  · simp only [List.forall_mem_cons, Text.isWhole_map, List.not_mem_nil]
    simp
  · obtain ⟨entry, hentry, rfl⟩ := List.mem_map.mp hrow
    obtain ⟨hname, hsummary⟩ := isWhole_builtin entry hentry
    simp only [List.forall_mem_cons]
    exact ⟨hname, hsummary, isWhole_exampleOf hname, by simp⟩

theorem isWhole_filtersText : filtersText.IsWhole := by
  have hlines : ∀ line ∈ namespaceLines,
      Text.IsWhole (("  • " : Text) ++ line ++ [CodePoint.char '\n']) := by
    decide +kernel
  have hpanel : (Screen.panel "Example Template" exampleTemplate).IsWhole := by decide +kernel
  unfold filtersText
  simp only [Text.isWhole_append, Text.isWhole_map, isWhole_filterTable, hpanel,
    Text.isWhole_flatMap hlines, and_self]
theorem ends_session (tree : FileTree) (setting : Setting) (verbose : Bool) (command : Name)
    (arguments : Arguments) :
    (command.session (surroundings setting verbose) arguments).Ends tree
      (fun _ => Succeeds tree setting command arguments)
      (Stops tree setting command arguments) := by
  cases command with
  | clip =>
      exact (ends_clip tree setting verbose arguments).mono (fun _ _ h => .inr ⟨rfl, h⟩)
        fun _ _ _ h => h.imp_right fun hlate => ⟨rfl, hlate⟩
  | render =>
      exact (ends_render tree setting verbose arguments).mono (fun _ _ h => .inl h)
        fun _ _ _ h => .inl h
  | validate =>
      exact (ends_validate tree setting verbose arguments).mono (fun _ _ h => .inl h)
        fun _ _ _ h => .inl h
  | filters => exact (Session.passes_write isWhole_filtersText).ends fun _ => .inl rfl

theorem isWhole_usageLines (command : Name) : command.form.usageLines.IsWhole := by
  cases command <;> decide

theorem ends_run (tree : FileTree) (setting : Setting) (verbose : Bool) (command : Name)
    (words : List Text) :
    (command.run (surroundings setting verbose) words).Ends tree
      (fun _ after => after = tree ∨ ∃ arguments, command.form.read true words = .ok arguments ∧
        Succeeds tree setting command arguments after)
      (fun stop left after => (after = tree ∧ ∃ form misuse, stop = .misuse form misuse) ∨
        ∃ arguments, command.form.read true words = .ok arguments ∧
          Stops tree setting command arguments stop left after) := by
  rw [Name.run]
  cases hread : command.form.read true words with
  | error misuse => exact Session.ends_throw fun _ => .inl ⟨rfl, _, misuse, rfl⟩
  | ok arguments =>
      dsimp only
      split
      · exact (Session.passes_write (isWhole_usageLines command)).ends fun _ => .inl rfl
      · refine Session.ends_read (CommandForm.onlyReads_check _ _) ?_
        split
        · exact Session.ends_throw fun _ => .inl ⟨rfl, _, _, rfl⟩
        · exact (ends_session tree setting verbose command arguments).mono
            (fun _ _ h => .inr ⟨arguments, rfl, h⟩) fun _ _ _ h => .inr ⟨arguments, rfl, h⟩

theorem callOf?_eq_some {words rest : List Text} {program arguments : Arguments} {name : Text}
    {command : Name} (hprogram : programForm.read false words = .ok program)
    (hwords : program.words = name :: rest) (hname : Name.ofText? name = some command)
    (harguments : command.form.read true rest = .ok arguments) :
    callOf? words = some (command, arguments) := by
  simp [callOf?, hprogram, hwords, hname, harguments, Except.toOption]

theorem exists_of_callOf? {command : Name} {words : List Text} {arguments : Arguments}
    (h : callOf? words = some (command, arguments)) :
    ∃ program name rest, programForm.read false words = .ok program ∧
      program.words = name :: rest ∧ Name.ofText? name = some command ∧
      command.form.read true rest = .ok arguments := by
  rw [callOf?] at h
  cases hprogram : programForm.read false words with
  | error misuse => simp [hprogram, Except.toOption] at h
  | ok program =>
      rw [hprogram] at h
      obtain ⟨_, ⟨rfl⟩, h⟩ := Option.bind_eq_some_iff.mp h
      obtain ⟨name, hname, h⟩ := Option.bind_eq_some_iff.mp h
      obtain ⟨found, hfound, h⟩ := Option.bind_eq_some_iff.mp h
      obtain ⟨given, hgiven, h⟩ := Option.bind_eq_some_iff.mp h
      obtain ⟨rfl, rfl⟩ := Prod.mk.inj (Option.some.inj h)
      obtain ⟨rest, hrest⟩ := List.head?_eq_some_iff.mp hname
      refine ⟨program, name, rest, rfl, hrest, hfound, ?_⟩
      rw [hrest, List.tail_cons] at hgiven
      cases hread : found.form.read true rest with
      | error misuse => simp [hread, Except.toOption] at hgiven
      | ok read =>
          rw [hread] at hgiven
          exact congrArg Except.ok (Option.some.inj hgiven)

def Done (tree : FileTree) (setting : Setting) (words : List Text) (after : FileTree) : Prop :=
  after = tree ∨ ∃ command arguments, callOf? words = some (command, arguments) ∧
    Succeeds tree setting command arguments after

/-- How a run of the program may stop: it was called in a wrong way, or its command stops. -/
def Stopped (tree : FileTree) (setting : Setting) (words : List Text) (stop : Stop)
    (left : Transcript) (after : FileTree) : Prop :=
  (after = tree ∧ ∃ form misuse, stop = .misuse form misuse) ∨
    ∃ command arguments, callOf? words = some (command, arguments) ∧
      Stops tree setting command arguments stop left after

theorem ends_dispatch (tree : FileTree) (setting : Setting) (verbose : Bool)
    (words : List Text) :
    (dispatch (surroundings setting verbose) words).Ends tree (fun _ => Done tree setting words)
      (Stopped tree setting words) := by
  rw [dispatch]
  cases hprogram : programForm.read false words with
  | error misuse => exact Session.ends_throw fun _ => .inl ⟨rfl, _, misuse, rfl⟩
  | ok program =>
      dsimp only
      split
      · exact (Session.passes_write (by decide)).ends fun _ => .inl rfl
      · cases hwords : program.words with
        | nil => exact Session.ends_throw fun _ => .inl ⟨rfl, _, .noCommand, rfl⟩
        | cons name rest =>
            dsimp only
            cases hname : Name.ofText? name with
            | none => exact Session.ends_throw fun _ => .inl ⟨rfl, _, .unknownCommand name, rfl⟩
            | some command =>
                refine (ends_run tree setting (program.has "--verbose") command rest).mono ?_ ?_
                · rintro _ after (rfl | ⟨arguments, hread, hsucceeds⟩)
                  · exact .inl rfl
                  · exact .inr ⟨command, arguments, callOf?_eq_some hprogram hwords hname hread,
                      hsucceeds⟩
                · rintro stop left after (hmisuse | ⟨arguments, hread, hstops⟩)
                  · exact .inl hmisuse
                  · exact .inr ⟨command, arguments, callOf?_eq_some hprogram hwords hname hread,
                      hstops⟩

theorem run_of_ends {tree : FileTree} {setting : Setting} {verbose : Bool}
    {words : List Text} {p : Unit → FileTree → Prop} {r : Stop → Transcript → FileTree → Prop}
    (h : (dispatch (surroundings setting verbose) words).Ends tree p r) :
    (∃ left after, run (surroundings setting verbose) words tree =
        (Outcome.ofSession (.ok (), left), after) ∧ p () after) ∨
      ∃ stop left after, run (surroundings setting verbose) words tree =
        (Outcome.ofSession (.error stop, left), after) ∧ r stop left after := by
  have hending := h.ending {}
  rcases hresult : (dispatch (surroundings setting verbose) words).runOn {} tree with
    ⟨⟨stop | ⟨⟩, left⟩, after⟩
  · rw [hresult] at hending
    exact .inr ⟨stop, left, after, Session.bind_apply hresult, hending⟩
  · rw [hresult] at hending
    exact .inl ⟨left, after, Session.bind_apply hresult, hending⟩

theorem run_cases (tree : FileTree) (setting : Setting) (verbose : Bool) (words : List Text) :
    ∃ ending left after,
      run (surroundings setting verbose) words tree = (Outcome.ofSession (ending, left), after) ∧
      ((ending = .ok () ∧ Done tree setting words after) ∨
        ∃ stop, ending = .error stop ∧ Stopped tree setting words stop left after) := by
  rcases run_of_ends (ends_dispatch tree setting verbose words) with
    ⟨left, after, hrun, hdone⟩ | ⟨stop, left, after, hrun, hstopped⟩
  · exact ⟨.ok (), left, after, hrun, .inl ⟨rfl, hdone⟩⟩
  · exact ⟨.error stop, left, after, hrun, .inr ⟨stop, rfl, hstopped⟩⟩

end Command

end Clippings
