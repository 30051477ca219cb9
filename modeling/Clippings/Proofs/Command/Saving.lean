import Clippings.Proofs.Command.Making
import Clippings.Proofs.File.Walk
import Clippings.Proofs.Note.Saving

namespace Clippings.Command

open FileTree (OnlyNewFolders)

def notePath (vault : Text) (note : Note) : FilePath :=
  (FilePath.ofText vault).join (.ofText note.path)

/-- What may be wrong with a file when a note is saved in it: whether it is there cannot be told, it
cannot be read, the folders around it cannot be made, or it cannot be written. -/
inductive SavingFault (tree : FileTree) (path : FilePath) (error : FileError) : Prop
  | looking (fault : (FileTree.system.existsAt path tree).1 = .error error)
  | reading (fault : (FileTree.system.read path tree).1 = .error error)
  | folders (fault : (FileTree.system.ensureFolders path.parent tree).1 = .error error)
  | writing (content : Bytes) (fault : (FileTree.system.write path content
      (FileTree.system.ensureFolders path.parent tree).2).1 = .error error)

def outsideMessage (vault : Text) (note : Note) : Text :=
  ("Note path " : Text) ++ (Markup.escape note.path ++ ((" resolves outside " : Text) ++
    Markup.escape (FilePath.ofText vault).text))

/-- What makes the saving of a note break down while nothing but folders is new. -/
inductive BreaksSaving (tree : FileTree) (vault : Text) (note : Note) : Crash → Prop
  | path {path : FilePath} {crash : Crash} (involved : path ∈ [notePath vault note, .ofText vault])
      (refused : pathCrash? path = some crash) : BreaksSaving tree vault note crash
  | linkLoop {path : FilePath} {problem : FileProblem}
      (involved : path ∈ [notePath vault note, .ofText vault])
      (loops : tree.resolve path = .error problem) : BreaksSaving tree vault note .linkLoop
  | markup (opened : .char '[' ∈ note.path) (closed : .char ']' ∈ vault) :
      BreaksSaving tree vault note .markup
  | outside {fault : Text.Utf8.Unencodable} (half : ¬(outsideMessage vault note).IsWhole) :
      BreaksSaving tree vault note (.unencodable fault)
  | encoding {content : Bytes} {fault : Text.Utf8.Malformed} (adds : note.behavior ≠ .create)
      (found : tree.read (notePath vault note) = .ok content)
      (malformed : Text.Utf8.decode content = .error fault) :
      BreaksSaving tree vault note (.encoding fault)
  | file {error : FileError} (fault : SavingFault tree (notePath vault note) error) :
      BreaksSaving tree vault note (.file error)

/-- The text that the file of a note is to have. -/
inductive IsTextFor (tree : FileTree) (vault : Text) (note : Note) : Text → Prop
  | created {text : Text} (written : note.markdown = .ok text) : IsTextFor tree vault note text
  | added {content : Bytes} {existing : Text} (adds : note.behavior ≠ .create)
      (found : tree.read (notePath vault note) = .ok content)
      (decoded : Text.Utf8.decode content = .ok existing) :
      IsTextFor tree vault note
        (Note.insert note.behavior.isTop existing.unifyLineEndings note.body)

/-- The text of the file of a note cannot be encoded, or what is shown when it is saved. -/
inductive HoldsHalf (tree : FileTree) (vault : Text) (note : Note) : Prop
  | text {text : Text} (written : IsTextFor tree vault note text) (half : ¬text.IsWhole)
  | path (half : ¬(notePath vault note).text.IsWhole)

theorem Makes.isSavable {tree : FileTree} {setting : Setting} {arguments : Arguments}
    {build : NoteBuild} (h : Makes tree setting arguments build) : build.note.IsSavable := by
  obtain ⟨extra, page, template, -, hbuild⟩ := h
  obtain ⟨context, -, hnote⟩ := Except.exists_of_bind_eq_ok hbuild
  dsimp only at hnote
  cases hresult : (Engine.buildNote template (.map context)
      { dialect := { runtime := setting.runtime } }).1 with
  | error failure =>
      rw [hresult] at hnote
      cases hnote
  | ok made =>
      rw [hresult] at hnote
      obtain rfl := Except.ok.inj hnote
      exact Engine.isSavable_of_buildNote hresult

theorem ends_resolve {tree : FileTree} (setting : Setting) {vault : Text} {note : Note}
    {path : FilePath} (hpath : path ∈ [notePath vault note, .ofText vault]) :
    (resolve FileTree.system path).Ends tree
      (fun place after => after = tree ∧ tree.resolve path = .ok place)
      (Explained setting.palette .clip tree (BreaksSaving tree vault note)) := by
  have hfound : (FileTree.system.resolve path tree).1 =
      FileProblem.about path (tree.resolve path) := rfl
  rw [resolve]
  split
  · next hrefused =>
      exact Session.ends_throw_bind (Explained.crash (.refl tree) (.path hpath hrefused))
  · dsimp only
    refine Session.ends_read (FileTree.onlyReads_resolve path) ?_
    rw [hfound]
    cases hresolve : tree.resolve path with
    | ok place => exact Session.ends_pure ⟨rfl, rfl⟩
    | error problem =>
        exact Session.ends_throw (Explained.crash (.refl tree) (.linkLoop hpath hresolve))

theorem ends_orCrash {α : Type} {tree : FileTree} {outcome : Except FileError α}
    {p : α → FileTree → Prop} {r : Stop → Transcript → FileTree → Prop}
    (hp : ∀ a, outcome = .ok a → p a tree)
    (hcrash : ∀ error, outcome = .error error → ∀ left, r (.crash (.file error)) left tree) :
    (orCrash outcome : Session (StateM FileTree) α).Ends tree p r := by
  cases outcome with
  | ok a => exact Session.ends_pure (hp a rfl)
  | error error => exact Session.ends_throw (hcrash error rfl)

theorem ends_markdownOf {tree : FileTree} {note : Note} {p : Text → FileTree → Prop}
    {r : Stop → Transcript → FileTree → Prop} (h : note.IsSavable)
    (hp : ∀ text, note.markdown = .ok text → p text tree) :
    (markdownOf note : Session (StateM FileTree) Text).Ends tree p r := by
  obtain ⟨text, htext⟩ := h.written
  rw [markdownOf, htext]
  exact Session.ends_pure (hp text htext)

theorem ends_textFor {tree : FileTree} {setting : Setting} {vault : Text} {note : Note}
    (h : note.IsSavable) :
    (textFor FileTree.system (notePath vault note) note).Ends tree
      (fun text after => after = tree ∧ IsTextFor tree vault note text)
      (Explained setting.palette .clip tree (BreaksSaving tree vault note)) := by
  have hmarkdown : (markdownOf note).Ends tree
      (fun text after => after = tree ∧ IsTextFor tree vault note text)
      (Explained setting.palette .clip tree (BreaksSaving tree vault note)) :=
    ends_markdownOf h fun _ hwritten => ⟨rfl, .created hwritten⟩
  rw [textFor]
  split
  · exact hmarkdown
  rename_i hadds
  refine Session.ends_read (FileTree.onlyReads_existsAt _) ?_
  refine Session.Ends.bind (p := fun _ after => after = tree) (ends_orCrash (fun _ _ => rfl) ?_) ?_
  · intro error herror
    exact Explained.crash (.refl tree) (.file (.looking herror))
  rintro found tree rfl
  split
  · refine Session.ends_read (onlyReads_readText _) ?_
    rw [readText_fst]
    cases hread : tree.read (notePath vault note) with
    | error problem =>
        have hfault : (FileTree.system.read (notePath vault note) tree).1 =
            .error ⟨problem, notePath vault note⟩ := by
          rw [read_fst, hread]
          rfl
        exact Session.ends_throw (Explained.crash (.refl tree) (.file (.reading hfault)))
    | ok content =>
        dsimp only
        cases hdecode : Text.Utf8.decode content with
        | ok existing => exact Session.ends_pure ⟨rfl, .added hadds hread hdecode⟩
        | error fault =>
            exact Session.ends_throw (Explained.crash (.refl tree) (.encoding hadds hread hdecode))
  · exact hmarkdown

/-- A note was written: its path leads into the vault, and nothing but folders is new besides. -/
structure Saves (tree after : FileTree) (vault : Text) (note : Note) : Prop where
  inside : ∃ place root, tree.resolve (notePath vault note) = .ok place ∧
    tree.resolve (.ofText vault) = .ok root ∧ root <+: place
  written : ∃ folders content, OnlyNewFolders tree folders ∧
    folders.write (notePath vault note) content = .ok after

/-- The file of a note was opened or written, but then the command broke down. -/
structure Spoils (tree : FileTree) (vault : Text) (note : Note) (stop : Stop)
    (after : FileTree) : Prop where
  saves : Saves tree after vault note
  half : HoldsHalf tree vault note
  stops : ∃ fault, stop = .crash (.unencodable fault)

theorem outsideLine_eq (vault : Text) (note : Note) :
    ("[bold red]Error:[/bold red] Note path " : Text) ++ Markup.escape note.path ++
        (" resolves outside " : Text) ++ Markup.escape (FilePath.ofText vault).text =
      ("[bold red]Error:[/bold red]" : Text) ++ .char ' ' :: outsideMessage vault note := by
  delta outsideMessage
  simp

theorem shows_outsideMessage (palette : Markup.Palette) {vault : Text} {note : Note}
    (h : note.IsSavable)
    (hmarkup : .char '[' ∈ note.path → .char ']' ∉ vault) : Markup.Shows palette []
      (outsideMessage vault note) := by
  have hvault : Markup.Shows palette [] (Markup.escape (FilePath.ofText vault).text) :=
    Markup.shows_escaped [] _
  have hwords : (" resolves outside " : Text) = .char ' ' :: ("resolves outside " : Text) := by
    decide
  delta outsideMessage
  rw [hwords]
  refine Markup.Shows.append (by decide) ?_
  by_cases hopen : .char '[' ∈ note.path
  · refine Markup.shows_escape ?_ note.path
    refine Markup.follows_append (by decide) (by decide) ?_ hvault
    refine Markup.noClose_of_not_mem fun hclose => ?_
    rcases List.mem_append.mp hclose with hwords | hescaped
    · exact absurd hwords (by decide)
    · rcases Markup.mem_escape hescaped with htext | hslash
      · rcases FilePath.mem_text_ofText htext with hmem | hmem | hmem
        · exact hmarkup hopen hmem
        · cases hmem
        · cases hmem
      · cases hslash
  · rw [Markup.escape_eq_self hopen h.plain]
    have hplain : Markup.isPlain note.path = true := by
      refine Markup.isPlain_iff.mpr fun c hc => ⟨?_, ?_⟩
      · exact fun hslash => h.plain (hslash ▸ hc)
      · exact fun hbracket => hopen (hbracket ▸ hc)
    exact Markup.Shows.append hplain (Markup.Shows.append (by decide) hvault)

theorem shows_savedMessage (palette : Markup.Palette) (path : Text) :
    Markup.Shows palette [] ("[green]✓ Note saved to " ++ Markup.escape path ++ "[/green]") := by
  have hline : "[green]✓ Note saved to " ++ Markup.escape path ++ "[/green]" =
      Markup.inStyle "green" ("✓ Note saved to " ++ Markup.escape path) := by
    simp [Markup.inStyle]
  rw [hline]
  exact Markup.IsStyle.shows_escape (by decide) (by decide) path

theorem ends_writeFile (setting : Setting) {tree : FileTree} {vault : Text} {note : Note}
    {next : Session (StateM FileTree) Unit} {p : Unit → FileTree → Prop}
    {r : Stop → Transcript → FileTree → Prop} (content : Bytes)
    (hstops : ∀ stop left after, Explained setting.palette .clip tree
      (BreaksSaving tree vault note) stop left after → r stop left after)
    (hnext : ∀ folders after, OnlyNewFolders tree folders →
      folders.write (notePath vault note) content = .ok after → next.Ends after p r) :
    (do
      orCrash (← Session.files (FileTree.system.ensureFolders (notePath vault note).parent))
      orCrash (← Session.files (FileTree.system.write (notePath vault note) content))
      next : Session (StateM FileTree) Unit).Ends tree p r := by
  refine Session.Ends.bind (p := fun made after =>
    (made, after) = FileTree.system.ensureFolders (notePath vault note).parent tree)
    (Session.ends_files rfl) fun made folders hfolders => ?_
  have hnew : OnlyNewFolders tree folders := by
    have hmade := FileTree.onlyMakesFolders_ensureFolders (notePath vault note).parent tree
    rwa [← hfolders] at hmade
  refine Session.Ends.bind (p := fun _ after => after = folders)
    (ends_orCrash (fun _ _ => rfl) ?_) ?_
  · intro error herror left
    refine hstops _ _ _ (.crash hnew (.file (.folders ?_)) left)
    rw [← herror, ← hfolders]
  rintro _ folders rfl
  refine Session.Ends.bind (p := fun written after => (written, after) =
    FileTree.system.write (notePath vault note) content folders)
    (Session.ends_files rfl) fun written after hwritten => ?_
  have hchange := hwritten
  rw [write_apply] at hchange
  cases hwrite : folders.write (notePath vault note) content with
  | error problem =>
      rw [hwrite] at hchange
      obtain ⟨rfl, rfl⟩ := Prod.mk.inj hchange
      refine Session.ends_throw_bind fun left => hstops _ _ _ (.crash hnew (.file ?_) left)
      refine .writing content ?_
      rw [← hfolders, ← hwritten]
  | ok saved =>
      rw [hwrite] at hchange
      obtain ⟨rfl, rfl⟩ := Prod.mk.inj hchange
      exact (Session.passes_pure _).bind fun _ => hnext folders _ hnew hwrite

theorem ends_saveNote {tree : FileTree} {setting : Setting} {verbose : Bool} {vault : Text}
    {note : Note} (h : note.IsSavable) :
    (saveNote (surroundings setting verbose) (.ofText vault) note).Ends tree
      (fun _ after => Saves tree after vault note)
      (fun stop left after =>
        Explained setting.palette .clip tree (BreaksSaving tree vault note) stop left after ∨
          Spoils tree vault note stop after) := by
  rw [saveNote]
  refine Session.Ends.bind ((ends_resolve setting (.head _)).mono (fun _ _ h => h)
    fun _ _ _ h => .inl h) ?_
  rintro place tree ⟨rfl, hplace⟩
  refine Session.Ends.bind ((ends_resolve setting (.tail _ (.head _))).mono (fun _ _ h => h)
    fun _ _ _ h => .inl h) ?_
  rintro root tree ⟨rfl, hroot⟩
  dsimp only
  split
  · rw [outsideLine_eq]
    refine Session.ends_refuse noteHeading_mem (fun left htold => .inl (.abort (.refl tree) htold))
      (fun hhalf fault left => .inl (.crash (.refl tree) (.outside hhalf) left)) ?_
    intro hnone left
    refine .inl (.crash (.refl tree) ?_ left)
    by_cases hmarkup : .char '[' ∈ note.path ∧ .char ']' ∈ vault
    · exact .markup hmarkup.1 hmarkup.2
    · exact absurd hnone (Session.visible?_ne_none noteHeading_mem
        (shows_outsideMessage _ h fun hopen hclose => hmarkup ⟨hopen, hclose⟩))
  · rename_i hinside
    refine Session.Ends.bind ((ends_textFor h).mono (fun _ _ h => h) fun _ _ _ h => .inl h) ?_
    rintro text tree ⟨rfl, htext⟩
    have hsaves {folders after : FileTree} {content : Bytes} (hnew : OnlyNewFolders tree folders)
        (hwrite : folders.write (notePath vault note) content = .ok after) :
        Saves tree after vault note :=
      ⟨⟨place, root, hplace, hroot, by simpa using hinside⟩, folders, content, hnew, hwrite⟩
    cases hfault : Text.Utf8.unencodable? text with
    | some fault =>
        have hhalf : ¬text.IsWhole := fun hwhole => by
          cases hfault.symm.trans (Text.Utf8.unencodable?_eq_none_iff.mpr hwhole)
        refine ends_writeFile setting [] (fun _ _ _ h => .inl h) fun folders after hnew hwrite => ?_
        exact Session.ends_throw_bind fun _ =>
          .inr ⟨hsaves hnew hwrite, .text htext hhalf, fault, rfl⟩
    | none =>
        refine ends_writeFile setting (Text.Utf8.encode text) (fun _ _ _ h => .inl h)
          fun folders after hnew hwrite => ?_
        refine Session.ends_print_of_shows (shows_savedMessage _ _) (hsaves hnew hwrite)
          fun hbroken fault left => .inr ⟨hsaves hnew hwrite, .path fun hwhole => hbroken ?_,
            fault, rfl⟩
        exact (Markup.isWhole_escape hwhole).between _ _

end Clippings.Command
