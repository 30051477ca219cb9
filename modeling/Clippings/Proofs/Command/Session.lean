import Clippings.Command.Run
import Clippings.Proofs.File.Tree
import Clippings.Proofs.Screen.Frame
import Clippings.Proofs.Screen.Markup
import Clippings.Proofs.Text.Utf8

namespace Clippings

def errorHeadings : List Text :=
  ["[bold red]Error:[/bold red]", Command.errorHeading, "❌ [red]Error reading template:[/red]"]

theorem noteHeading_mem : ("[bold red]Error:[/bold red]" : Text) ∈ errorHeadings := by
  simp [errorHeadings]

theorem templateHeading_mem : Command.errorHeading ∈ errorHeadings := by simp [errorHeadings]

theorem readingHeading_mem : ("❌ [red]Error reading template:[/red]" : Text) ∈ errorHeadings := by
  simp [errorHeadings]

def Transcript.EndsInError (palette : Markup.Palette) (transcript : Transcript) : Prop :=
  ∃ before heading message text, heading ∈ errorHeadings ∧
    Markup.visible? palette (heading ++ .char ' ' :: message) = some text ∧
    transcript.output = before ++ Screen.shown text

/-- How a command may stop with what it has written: it tells an error and gives up, it was called
in a wrong way, or it tells by its status that a template is invalid. -/
inductive Stop.IsProper (palette : Markup.Palette) (command : Command.Name) (left : Transcript) :
    Stop → Prop
  | abort (told : left.EndsInError palette) : IsProper palette command left .abort
  | misuse (form : CommandForm) (misuse : Misuse) :
      IsProper palette command left (.misuse form misuse)
  | invalid (validates : command = .validate) : IsProper palette command left (.status 1)

/-- How a command stops that started on a file tree: properly, or it breaks down for a known reason.
In any case nothing but folders is new. -/
def Explained (palette : Markup.Palette) (command : Command.Name) (tree : FileTree)
    (breaks : Crash → Prop) (stop : Stop) (left : Transcript) (after : FileTree) : Prop :=
  FileTree.OnlyNewFolders tree after ∧
    (stop.IsProper palette command left ∨ ∃ crash, stop = .crash crash ∧ breaks crash)

namespace Explained

variable {palette : Markup.Palette} {command : Command.Name} {tree after : FileTree}
  {breaks : Crash → Prop} {left : Transcript}

theorem abort (hafter : FileTree.OnlyNewFolders tree after) (htold : left.EndsInError palette) :
    Explained palette command tree breaks .abort left after := ⟨hafter, .inl (.abort htold)⟩

theorem crash (hafter : FileTree.OnlyNewFolders tree after) {crash : Crash}
    (hbreaks : breaks crash) (left : Transcript) :
    Explained palette command tree breaks (.crash crash) left after :=
  ⟨hafter, .inr ⟨crash, rfl, hbreaks⟩⟩

theorem mono {stop : Stop} {breaks' : Crash → Prop}
    (h : Explained palette command tree breaks stop left after)
    (hbreaks : ∀ crash, breaks crash → breaks' crash) :
    Explained palette command tree breaks' stop left after := by
  obtain ⟨hafter, hproper | ⟨crash, hcrash, hreason⟩⟩ := h
  · exact ⟨hafter, .inl hproper⟩
  · exact ⟨hafter, .inr ⟨crash, hcrash, hbreaks crash hreason⟩⟩

theorem status_ne_zero {stop : Stop} (h : Explained palette command tree breaks stop left after) :
    (Outcome.ofSession (.error stop, left)).status ≠ 0 := by
  obtain ⟨-, hproper | ⟨crash, rfl, -⟩⟩ := h
  · cases hproper with
    | abort => exact Nat.one_ne_zero
    | misuse form misuse => exact Nat.succ_ne_zero 1
    | invalid => exact Nat.one_ne_zero
  · exact Nat.one_ne_zero

end Explained

namespace Session

/-- The result of a command that goes on from a transcript and a file tree, with what it leaves. -/
def runOn {α : Type} (session : Session (StateM FileTree) α) (transcript : Transcript)
    (tree : FileTree) : (Except Stop α × Transcript) × FileTree :=
  (session.run.run transcript) tree

/-- Whatever was written before, a command that starts on a file tree gives a result and leaves a
tree of some kind, or stops in some way. -/
structure Ends {α : Type} (session : Session (StateM FileTree) α) (tree : FileTree)
    (gives : α → FileTree → Prop) (stops : Stop → Transcript → FileTree → Prop) : Prop where
  ending (transcript : Transcript) :
    match session.runOn transcript tree with
    | ((.ok a, _), after) => gives a after
    | ((.error stop, left), after) => stops stop left after

abbrev Passes {α : Type} (session : Session (StateM FileTree) α) : Prop :=
  ∀ tree, session.Ends tree (fun _ after => after = tree) fun _ _ _ => False

variable {α β : Type} {surroundings : Surroundings (StateM FileTree)} {tree : FileTree}
  {p : α → FileTree → Prop} {q : β → FileTree → Prop} {r : Stop → Transcript → FileTree → Prop}

theorem bind_apply {action : StateM FileTree α} {next : α → StateM FileTree β} {a : α}
    {after : FileTree} (h : action tree = (a, after)) : (action >>= next) tree = next a after := by
  show next (action tree).1 (action tree).2 = _
  rw [h]

theorem runOn_bind (session : Session (StateM FileTree) α)
    (next : α → Session (StateM FileTree) β) (transcript : Transcript) (tree : FileTree) :
    (session >>= next).runOn transcript tree =
      match session.runOn transcript tree with
      | ((.ok a, left), after) => (next a).runOn left after
      | ((.error stop, left), after) => ((.error stop, left), after) := by
  rw [runOn, ExceptT.run_bind, StateT.run_bind]
  rcases hfirst : session.runOn transcript tree with ⟨⟨stop | a, left⟩, after⟩
  · rw [runOn] at hfirst
    rw [bind_apply hfirst]
    rfl
  · rw [runOn] at hfirst
    rw [bind_apply hfirst]
    rfl

theorem ends_pure {a : α} (h : p a tree) :
    (pure a : Session (StateM FileTree) α).Ends tree p r := ⟨fun _ => h⟩

theorem ends_throw {stop : Stop} (h : ∀ left, r stop left tree) :
    (throw stop : Session (StateM FileTree) α).Ends tree p r := ⟨fun left => h left⟩

theorem ends_files {action : StateM FileTree α} (h : p (action tree).1 (action tree).2) :
    (files action).Ends tree p r := ⟨fun _ => h⟩

theorem Ends.bind {session : Session (StateM FileTree) α}
    {next : α → Session (StateM FileTree) β} (h : session.Ends tree p r)
    (hnext : ∀ a after, p a after → (next a).Ends after q r) :
    (session >>= next).Ends tree q r := by
  refine ⟨fun transcript => ?_⟩
  have hfirst := h.ending transcript
  rw [runOn_bind]
  rcases hresult : session.runOn transcript tree with ⟨⟨stop | a, left⟩, after⟩
  · rw [hresult] at hfirst
    exact hfirst
  · rw [hresult] at hfirst
    exact (hnext a after hfirst).ending left

theorem Ends.mono {session : Session (StateM FileTree) α} {p' : α → FileTree → Prop}
    {r' : Stop → Transcript → FileTree → Prop} (h : session.Ends tree p r)
    (hp : ∀ a after, p a after → p' a after)
    (hr : ∀ stop left after, r stop left after → r' stop left after) :
    session.Ends tree p' r' := by
  refine ⟨fun transcript => ?_⟩
  have hsession := h.ending transcript
  rcases hresult : session.runOn transcript tree with ⟨⟨stop | a, left⟩, after⟩
  · rw [hresult] at hsession
    exact hr stop left after hsession
  · rw [hresult] at hsession
    exact hp a after hsession

theorem Passes.bind {session : Session (StateM FileTree) α}
    {next : α → Session (StateM FileTree) β} (h : Passes session)
    (hnext : ∀ a, (next a).Ends tree q r) : (session >>= next).Ends tree q r :=
  ((h tree).mono (fun _ _ h => h) fun _ _ _ h => h.elim).bind fun a after hafter => by
    rw [hafter]
    exact hnext a

theorem Passes.ends {session : Session (StateM FileTree) α} (h : Passes session)
    (hp : ∀ a, p a tree) : session.Ends tree p r :=
  (h tree).mono (fun a _ hafter => hafter ▸ hp a) fun _ _ _ h => h.elim

theorem ends_throw_bind {stop : Stop} {next : α → Session (StateM FileTree) β}
    (h : ∀ left, r stop left tree) : (throw stop >>= next).Ends tree q r :=
  Ends.bind (p := fun _ _ => False) (ends_throw h) fun _ _ h => h.elim

theorem ends_read {action : StateM FileTree α} {next : α → Session (StateM FileTree) β}
    (haction : FileTree.OnlyReads action) (hnext : (next (action tree).1).Ends tree q r) :
    (files action >>= next).Ends tree q r := by
  refine Ends.bind (p := fun found after => found = (action tree).1 ∧ after = tree)
    (ends_files ⟨rfl, haction tree⟩) ?_
  rintro _ _ ⟨rfl, rfl⟩
  exact hnext

theorem passes_pure (a : α) : Passes (pure a) := fun _ => ends_pure rfl

theorem passes_put (text : Text) : Passes (put text) := fun _ => ⟨fun _ => rfl⟩

theorem passes_write {text : Text} (h : text.IsWhole) : Passes (write text) := by
  rw [write, Text.Utf8.unencodable?_eq_none_iff.mpr h]
  exact passes_put text

theorem ends_write {text : Text} {p : Unit → FileTree → Prop} (hp : p () tree)
    (hhalf : ¬text.IsWhole → ∀ fault left, r (.crash (.unencodable fault)) left tree) :
    (write text).Ends tree p r := by
  rw [write]
  cases hfault : Text.Utf8.unencodable? text with
  | none => exact (passes_put text).ends fun _ => hp
  | some fault =>
      refine ends_throw (hhalf (fun hwhole => ?_) fault)
      cases hfault.symm.trans (Text.Utf8.unencodable?_eq_none_iff.mpr hwhole)

theorem passes_modify (change : Transcript → Transcript) :
    Passes (modify change : Session (StateM FileTree) Unit) := fun _ => ⟨fun _ => rfl⟩

theorem passes_report (surroundings : Surroundings (StateM FileTree)) (importance : Importance)
    (message : Text) : Passes (report surroundings importance message) := by
  rw [report]
  split
  · exact passes_modify _
  · exact passes_pure ()

theorem ends_print {markup : Text} {p : Unit → FileTree → Prop} (hp : p () tree)
    (hhalf : ¬markup.IsWhole → ∀ fault left, r (.crash (.unencodable fault)) left tree)
    (hcrash : Markup.visible? surroundings.palette markup = none →
      ∀ left, r (.crash .markup) left tree) :
    (print surroundings markup : Session (StateM FileTree) Unit).Ends tree p r := by
  rw [print]
  cases hvisible : Markup.visible? surroundings.palette markup with
  | none => exact ends_throw (hcrash hvisible)
  | some text =>
      refine ends_write hp fun hshown => hhalf fun hwhole => hshown ?_
      exact Screen.isWhole_shown (Markup.isWhole_visible? hvisible hwhole)

theorem ends_print_of_shows {markup : Text} {p : Unit → FileTree → Prop}
    (h : Markup.Shows surroundings.palette [] markup) (hp : p () tree)
    (hhalf : ¬markup.IsWhole → ∀ fault left, r (.crash (.unencodable fault)) left tree) :
    (print surroundings markup : Session (StateM FileTree) Unit).Ends tree p r := by
  obtain ⟨text, htext⟩ := h.exists_visible?
  exact ends_print hp hhalf fun hnone => by cases htext.symm.trans hnone

theorem passes_print {markup : Text} (h : Markup.Shows surroundings.palette [] markup)
    (hwhole : markup.IsWhole) : Passes (print surroundings markup) :=
  fun _ => ends_print_of_shows h rfl fun hhalf => absurd hwhole hhalf

theorem passes_reportWarnings (surroundings : Surroundings (StateM FileTree))
    (warnings : List Warning) : Passes (reportWarnings surroundings warnings) := by
  induction warnings with
  | nil => exact passes_pure ()
  | cons warning rest ih =>
      exact fun tree => (passes_report surroundings .warning _).bind fun _ => ih tree

theorem passes_reportRendering (surroundings : Surroundings (StateM FileTree))
    (warnings : List Warning) : Passes (reportRendering surroundings warnings) := by
  intro tree
  refine (passes_reportWarnings surroundings warnings).bind fun _ => ?_
  split
  · exact passes_report _ _ _ tree
  · exact passes_pure _ tree

theorem ends_showWarnings {warnings : List Warning} {p : Unit → FileTree → Prop}
    (hp : p () tree)
    (hhalf : ∀ warning ∈ warnings, ¬warning.message.IsWhole →
      ∀ fault left, r (.crash (.unencodable fault)) left tree) :
    (showWarnings surroundings warnings : Session (StateM FileTree) Unit).Ends tree p r := by
  induction warnings with
  | nil => exact ends_pure hp
  | cons warning rest ih =>
      obtain ⟨hwarning, hrest⟩ := List.forall_mem_cons.mp hhalf
      have hline : "[yellow]⚠️  " ++ Markup.escape warning.message ++ "[/yellow]" =
          Markup.inStyle "yellow" ("⚠️  " ++ Markup.escape warning.message) := by
        simp [Markup.inStyle]
      have hshows : Markup.Shows surroundings.palette []
          ("[yellow]⚠️  " ++ Markup.escape warning.message ++ "[/yellow]") := by
        rw [hline]
        exact Markup.IsStyle.shows_escape (by decide) (by decide) _
      have hprint : (print surroundings
          ("[yellow]⚠️  " ++ Markup.escape warning.message ++ "[/yellow]") :
          Session (StateM FileTree) Unit).Ends tree (fun _ after => after = tree) r := by
        refine ends_print_of_shows hshows rfl fun hbroken => hwarning fun hwhole => hbroken ?_
        exact (Markup.isWhole_escape hwhole).between _ _
      refine hprint.bind ?_
      rintro _ tree rfl
      exact ih hrest

theorem passes_forIn {γ : Type} (items : List γ) {step : γ → Session (StateM FileTree) PUnit}
    (h : ∀ item, Passes (step item)) :
    Passes (forIn items PUnit.unit fun item _ => do
      step item
      pure (ForInStep.yield PUnit.unit)) := by
  induction items with
  | nil => exact passes_pure _
  | cons item rest ih =>
      intro tree
      rw [List.forIn_cons]
      have hitem : Passes (step item >>= fun _ => pure (ForInStep.yield PUnit.unit)) :=
        fun tree => (h item).bind fun _ => passes_pure _ tree
      refine hitem.bind fun next => ?_
      cases next with
      | done => exact passes_pure _ tree
      | yield => exact ih tree

theorem isWhole_heading {heading : Text} (h : heading ∈ errorHeadings) : heading.IsWhole := by
  simp only [errorHeadings, List.mem_cons, List.not_mem_nil, or_false] at h
  rcases h with rfl | rfl | rfl <;> exact Text.isWhole_map _

theorem ends_refuse {heading message : Text} (hheading : heading ∈ errorHeadings)
    (habort : ∀ left : Transcript, left.EndsInError surroundings.palette → r .abort left tree)
    (hhalf : ¬message.IsWhole → ∀ fault left, r (.crash (.unencodable fault)) left tree)
    (hcrash : Markup.visible? surroundings.palette (heading ++ .char ' ' :: message) = none →
      ∀ left, r (.crash .markup) left tree) :
    (do print surroundings (heading ++ .char ' ' :: message); throw .abort :
      Session (StateM FileTree) α).Ends tree p r := by
  cases hvisible : Markup.visible? surroundings.palette (heading ++ .char ' ' :: message) with
  | none =>
      rw [print, hvisible]
      exact ends_throw (hcrash hvisible)
  | some text =>
      rw [print, hvisible]
      dsimp only
      rw [writeLine, write]
      cases hfault : Text.Utf8.unencodable? (Screen.shown text) with
      | none =>
          refine ⟨fun left => habort _ ?_⟩
          exact ⟨left.output, heading, message, text, hheading, hvisible, rfl⟩
      | some fault =>
          refine ends_throw_bind (hhalf (fun hwhole => ?_) fault)
          have hline : (heading ++ .char ' ' :: message).IsWhole := Text.isWhole_append.mpr
            ⟨isWhole_heading hheading, Text.isWhole_cons.mpr ⟨rfl, hwhole⟩⟩
          cases hfault.symm.trans (Text.Utf8.unencodable?_eq_none_iff.mpr
            (Screen.isWhole_shown (Markup.isWhole_visible? hvisible hline)))

theorem shows_heading {heading rest : Text} (h : heading ∈ errorHeadings)
    (hrest : Markup.Shows surroundings.palette [] rest) :
    Markup.Shows surroundings.palette [] (heading ++ rest) := by
  simp only [errorHeadings, List.mem_cons, List.not_mem_nil, or_false] at h
  rcases h with rfl | rfl | rfl
  · exact Markup.shows_line [] "bold red" "Error:" [] (by decide) (by decide) (by decide) hrest
  · exact Markup.shows_line "❌ " "red" "Error:" [] (by decide) (by decide) (by decide) hrest
  · exact Markup.shows_line "❌ " "red" "Error reading template:" [] (by decide) (by decide)
      (by decide) hrest

theorem visible?_ne_none {heading message : Text} (hheading : heading ∈ errorHeadings)
    (hmessage : Markup.Shows surroundings.palette [] message) :
    Markup.visible? surroundings.palette (heading ++ .char ' ' :: message) ≠ none := by
  have hspace : Markup.Shows surroundings.palette [] ([.char ' '] ++ message) :=
    Markup.Shows.append (by decide) hmessage
  obtain ⟨text, htext⟩ := (shows_heading hheading hspace).exists_visible?
  intro hnone
  cases hnone.symm.trans htext

theorem ends_giveUp {heading message : Text} (hheading : heading ∈ errorHeadings)
    (habort : ∀ left : Transcript, left.EndsInError surroundings.palette → r .abort left tree)
    (hhalf : ¬message.IsWhole → ∀ fault left, r (.crash (.unencodable fault)) left tree) :
    (giveUp surroundings heading message : Session (StateM FileTree) α).Ends tree p r := by
  refine ends_refuse hheading habort (fun hbroken => hhalf fun hwhole => ?_) fun hnone =>
    absurd hnone (visible?_ne_none hheading (Markup.shows_escaped [] message))
  exact hbroken (Markup.isWhole_escape hwhole)

end Session

end Clippings
