import Clippings.Proofs.Command.Saving

namespace Clippings.Command

open FileTree (OnlyNewFolders)

/-- What a call shows of a note cannot be encoded: its path or the listing of its text. -/
inductive ShowsHalf (note : Note) : Prop
  | path (half : ¬note.path.IsWhole)
  | listing {text : Text} (written : note.markdown = .ok text)
      (half : ¬(Screen.listing text).IsWhole)

/-- What makes a call of the command that clips break down on a file tree. -/
inductive BreaksClip (tree : FileTree) (setting : Setting) (arguments : Arguments) :
    Crash → Prop
  | making {crash : Crash} (breaks : BreaksMaking tree setting arguments crash) :
      BreaksClip tree setting arguments crash
  | warning {build : NoteBuild} {warning : Warning} {fault : Text.Utf8.Unencodable}
      (made : Makes tree setting arguments build) (shown : warning ∈ build.warnings)
      (half : ¬warning.message.IsWhole) : BreaksClip tree setting arguments (.unencodable fault)
  | showing {build : NoteBuild} {fault : Text.Utf8.Unencodable}
      (given : arguments.value? "--output" = none) (made : Makes tree setting arguments build)
      (half : ShowsHalf build.note) : BreaksClip tree setting arguments (.unencodable fault)
  | saving {vault : Text} {build : NoteBuild} {crash : Crash}
      (given : arguments.value? "--output" = some vault) (made : Makes tree setting arguments build)
      (breaks : BreaksSaving tree vault build.note crash) : BreaksClip tree setting arguments crash
  | spoiling {vault : Text} {build : NoteBuild} {fault : Text.Utf8.Unencodable}
      (given : arguments.value? "--output" = some vault) (made : Makes tree setting arguments build)
      (half : HoldsHalf tree vault build.note) :
      BreaksClip tree setting arguments (.unencodable fault)

theorem ends_showNote {tree : FileTree} {setting : Setting} {verbose : Bool} {note : Note}
    {p : Unit → FileTree → Prop} {r : Stop → Transcript → FileTree → Prop} (h : note.IsSavable)
    (hp : p () tree)
    (hhalf : ShowsHalf note → ∀ fault left, r (.crash (.unencodable fault)) left tree) :
    (showNote (surroundings setting verbose) note).Ends tree p r := by
  have hline : "[bold blue]" ++ Markup.escape note.path ++ "[/bold blue]" =
      Markup.inStyle "bold blue" ([] ++ Markup.escape note.path) := by
    simp [Markup.inStyle]
  have hshows : Markup.Shows setting.palette []
      ("[bold blue]" ++ Markup.escape note.path ++ "[/bold blue]") := by
    rw [hline]
    exact Markup.IsStyle.shows_escape (by decide) (by decide) note.path
  have hpath : (Session.print (surroundings setting verbose)
      ("[bold blue]" ++ Markup.escape note.path ++ "[/bold blue]")).Ends tree
      (fun _ after => after = tree) r := by
    refine Session.ends_print_of_shows hshows rfl fun hbroken =>
      hhalf (.path fun hwhole => hbroken ?_)
    exact (Markup.isWhole_escape hwhole).between _ _
  rw [showNote]
  refine hpath.bind ?_
  rintro _ tree rfl
  refine Session.Ends.bind (p := fun text after => after = tree ∧ note.markdown = .ok text)
    (ends_markdownOf h fun _ hwritten => ⟨rfl, hwritten⟩) ?_
  rintro text tree ⟨rfl, hwritten⟩
  exact Session.ends_write hp fun hbroken => hhalf (.listing hwritten hbroken)

/-- What a call of the command that clips has done if it ends well: it has shown a note, or saved
one. -/
inductive Clips (tree : FileTree) (setting : Setting) (arguments : Arguments) :
    FileTree → Prop
  | shown (given : arguments.value? "--output" = none) : Clips tree setting arguments tree
  | saved {vault : Text} {build : NoteBuild} {after : FileTree}
      (given : arguments.value? "--output" = some vault) (made : Makes tree setting arguments build)
      (saves : Saves tree after vault build.note) : Clips tree setting arguments after

/-- A call breaks down when a file was opened for the note that it makes. -/
def BreaksLate (tree : FileTree) (setting : Setting) (arguments : Arguments) (stop : Stop)
    (after : FileTree) : Prop :=
  ∃ vault build, arguments.value? "--output" = some vault ∧ Makes tree setting arguments build ∧
    Spoils tree vault build.note stop after

/-- However a call of the command that clips ends, it has clipped, or nothing but folders is new and
it has stopped properly or for one of the known reasons, or it broke down when it saved a note. -/
theorem ends_clip (tree : FileTree) (setting : Setting) (verbose : Bool)
    (arguments : Arguments) :
    (clip (surroundings setting verbose) arguments).Ends tree
      (fun _ after => Clips tree setting arguments after)
      (fun stop left after =>
        Explained setting.palette .clip tree (BreaksClip tree setting arguments) stop left after ∨
          BreaksLate tree setting arguments stop after) := by
  rw [clip]
  cases hextra : readVariables (arguments.valuesOf "--var") [] with
  | error misuse =>
      exact Session.ends_throw fun left => .inl ⟨.refl tree, .inl (.misuse _ misuse)⟩
  | ok extra =>
      refine Session.Ends.bind ((ends_makeNote verbose hextra).mono (fun _ _ h => h)
        fun _ _ _ h => .inl (h.mono fun _ => .making)) ?_
      rintro build tree ⟨rfl, hmade⟩
      refine Session.Ends.bind (p := fun _ after => after = tree)
        (Session.ends_showWarnings rfl fun warning hshown hhalf fault left =>
          .inl (.crash (.refl tree) (.warning hmade hshown hhalf) left)) ?_
      rintro _ tree rfl
      cases hvault : arguments.value? "--output" with
      | none =>
          exact ends_showNote hmade.isSavable (.shown hvault) fun hhalf fault left =>
            .inl (.crash (.refl tree) (.showing hvault hmade hhalf) left)
      | some vault =>
          refine (ends_saveNote hmade.isSavable).mono (fun _ after h => .saved hvault hmade h) ?_
          rintro stop left after (h | h)
          · exact .inl (h.mono fun _ => .saving hvault hmade)
          · exact .inr ⟨vault, build, hvault, hmade, h⟩

end Clippings.Command
