import Clippings.Proofs.Command.Session
import Clippings.Proofs.Library.Files
import Clippings.Proofs.Note.Clipping
import Clippings.Proofs.Page.Data

namespace Clippings.Command

open FileTree (OnlyReads)

theorem onlyReads_readText (path : FilePath) : OnlyReads (readText FileTree.system path) := by
  refine (FileTree.onlyReads_read path).bind fun found => ?_
  cases found <;> exact FileTree.onlyReads_pure _

theorem read_fst (path : FilePath) (tree : FileTree) :
    (FileTree.system.read path tree).1 = FileProblem.about path (tree.read path) := rfl

theorem readText_fst (path : FilePath) (tree : FileTree) :
    (readText FileTree.system path tree).1 =
      match tree.read path with
      | .error problem => .error (.file ⟨problem, path⟩)
      | .ok content =>
        ((Text.Utf8.decode content).mapError .encoding).map Text.unifyLineEndings := by
  have hread : FileTree.system.read path tree = (FileProblem.about path (tree.read path), tree) :=
    rfl
  rw [readText, Session.bind_apply hread]
  cases tree.read path with
  | error problem => rfl
  | ok content => rfl

theorem write_apply (path : FilePath) (content : Bytes) (tree : FileTree) :
    FileTree.system.write path content tree =
      match tree.write path content with
      | .ok after => (.ok (), after)
      | .error problem => (.error ⟨problem, path⟩, tree) := rfl

theorem onlyReads_readPage (runtime : Runtime) (path : FilePath) :
    OnlyReads (readPage FileTree.system runtime path) := by
  refine (onlyReads_readText path).bind fun text => ?_
  split
  · exact FileTree.onlyReads_pure _
  · split
    · exact FileTree.onlyReads_pure _
    · exact FileTree.onlyReads_pure _

theorem onlyReads_loadTemplate (runtime : Runtime) (path : FilePath) :
    OnlyReads (FileTree.system.loadTemplate runtime path) := by
  refine (FileTree.onlyReads_existsAt path).bind fun found => ?_
  split
  · exact FileTree.onlyReads_pure _
  · exact FileTree.onlyReads_pure _
  · split
    · exact FileTree.onlyReads_pure _
    · exact (FileTree.onlyReads_templatesIn runtime path).bind fun _ => FileTree.onlyReads_pure _

theorem onlyReads_loadTemplateOf (runtime : Runtime) (path : Option FilePath) :
    OnlyReads (loadTemplateOf FileTree.system runtime path) := by
  cases path with
  | none => exact FileTree.onlyReads_pure _
  | some path => exact (onlyReads_loadTemplate runtime path).bind fun _ => FileTree.onlyReads_pure _

theorem isPageData_of_readJson {runtime : Runtime} {text : Text} {value : Value}
    (h : readJson runtime text = .ok value) : value.IsPageData := by
  rw [readJson] at h
  split at h
  · next hparse =>
    obtain rfl := Except.ok.inj h
    exact Json.isPageData_of_parse hparse
  · cases h
  · cases h

theorem InputError.exists_of_crash? {error : InputError} {crash : Crash}
    (h : error.crash? = some crash) :
    ∃ descent, error = .tooDeep descent ∧ crash = .failure (.tooDeep descent) := by
  cases error with
  | tooDeep descent => exact ⟨descent, rfl, (Option.some.inj h).symm⟩
  | _ => cases h

theorem settles_readPage (runtime : Runtime) (path : FilePath) (tree : FileTree) :
    Settles (fun error : ClipError => ∀ crash, error.crash? = some crash →
        ∃ descent, error = .input (.tooDeep descent) ∧ crash = .failure (.tooDeep descent))
      (fun page => (Value.map (page.entries true)).IsPageData)
      (readPage FileTree.system runtime path tree).1 := by
  rcases hread : readText FileTree.system path tree with ⟨text, after⟩
  rw [readPage, Session.bind_apply hread]
  cases hvalue : text.bind (readJson runtime) with
  | error e =>
      refine .error fun crash hcrash => ?_
      obtain ⟨descent, rfl, rfl⟩ := InputError.exists_of_crash? hcrash
      exact ⟨descent, rfl, rfl⟩
  | ok value =>
      obtain ⟨source, -, hjson⟩ := Except.exists_of_bind_eq_ok hvalue
      have hdata := isPageData_of_readJson hjson
      dsimp only
      cases hpage : PageContent.check value with
      | invalid issues => exact .error fun crash hcrash => nomatch hcrash
      | valid page => exact .ok (PageContent.gives_check hdata page hpage)

theorem isPageData_of_readVariables {pairs : List Text} {entries extra : Entries}
    (h : (Value.map entries).IsPageData) (hread : readVariables pairs entries = .ok extra) :
    (Value.map extra).IsPageData := by
  fun_induction readVariables pairs entries with
  | case1 entries =>
      obtain rfl := Except.ok.inj hread
      exact h
  | case2 => cases hread
  | case3 entries pair rest name value hcut hname ih =>
      exact ih (Entries.isPageData_insert _ h (.text _)) hread
  | case4 => cases hread

theorem settles_buildFrom (setting : Setting) {page : PageContent} {extra : Entries}
    (hpage : (Value.map (page.entries true)).IsPageData) (hextra : (Value.map extra).IsPageData)
    (template : NoteTemplate) :
    FailsOnly (fun error : ClipError => ∃ failure, error = .failure failure ∧ failure.StopsData)
      (buildFrom setting page extra template) := by
  obtain ⟨context, hcontext, hdata⟩ := exists_contextFor setting.now hpage hextra
  have hbuild : FailsOnly Failure.StopsData
      (Engine.buildNote template (.map context) { dialect := { runtime := setting.runtime } }).1 :=
    Engine.failsOnly_buildNote_of_isPageData template
      (FilterTable.keepsData_builtin setting.runtime) rfl hdata
  rw [buildFrom, hcontext]
  show FailsOnly _ (Except.mapError _ _)
  generalize (Engine.buildNote template (.map context) _).1 = note at hbuild ⊢
  cases note with
  | ok build => exact .ok trivial
  | error failure => exact .error ⟨failure, rfl, hbuild.fails failure rfl⟩

def surroundings (setting : Setting) (verbose : Bool) : Surroundings (StateM FileTree) :=
  { setting with system := FileTree.system, verbose }

/-- What a call of the command that clips finds in a file tree: variables, a page and a template. -/
structure Finds (tree : FileTree) (setting : Setting) (arguments : Arguments) (extra : Entries)
    (page : PageContent) (template : NoteTemplate) : Prop where
  given : readVariables (arguments.valuesOf "--var") [] = .ok extra
  page : (readPage FileTree.system setting.runtime (.ofText arguments.word) tree).1 = .ok page
  template : (loadTemplateOf FileTree.system setting.runtime
    ((arguments.value? "--template").map .ofText) tree).1 = .ok template

/-- A call makes a note of the page and by the template that it finds in a file tree. -/
def Makes (tree : FileTree) (setting : Setting) (arguments : Arguments) (build : NoteBuild) :
    Prop :=
  ∃ extra page template, Finds tree setting arguments extra page template ∧
    buildFrom setting page extra template = .ok build

/-- A call finds an error when it makes a note. -/
inductive FailsMaking (tree : FileTree) (setting : Setting) (arguments : Arguments)
    (error : ClipError) : Prop
  | page (failed : (readPage FileTree.system setting.runtime (.ofText arguments.word) tree).1 =
      .error error)
  | template (failed : (loadTemplateOf FileTree.system setting.runtime
      ((arguments.value? "--template").map .ofText) tree).1 = .error error)
  | note {extra : Entries} {page : PageContent} {template : NoteTemplate}
      (found : Finds tree setting arguments extra page template)
      (failed : buildFrom setting page extra template = .error error)

inductive BreaksMaking (tree : FileTree) (setting : Setting) (arguments : Arguments) :
    Crash → Prop
  | page {descent : Descent}
      (deep : (readPage FileTree.system setting.runtime (.ofText arguments.word) tree).1 =
        .error (.input (.tooDeep descent))) :
      BreaksMaking tree setting arguments (.failure (.tooDeep descent))
  /-- The file of the template is refused for a reason that is not expected. -/
  | template {path : Text} {refusal : Refusal} (given : arguments.value? "--template" = some path)
      (refused : (FileTree.system.loadTemplate setting.runtime (.ofText path) tree).1 =
        .error refusal)
      (hidden : isExpected refusal = false) : BreaksMaking tree setting arguments (.refusal refusal)
  | value {extra : Entries} {page : PageContent} {template : NoteTemplate} {descent : Descent}
      (found : Finds tree setting arguments extra page template)
      (deep : buildFrom setting page extra template =
        .error (.failure (.unprintable (.tooDeep descent)))) :
      BreaksMaking tree setting arguments (.failure (.unprintable (.tooDeep descent)))
  /-- The message that is to be shown cannot be encoded. -/
  | message {error : ClipError} {fault : Text.Utf8.Unencodable}
      (failed : FailsMaking tree setting arguments error) (half : ¬error.message.IsWhole) :
      BreaksMaking tree setting arguments (.unencodable fault)

section Making

variable {tree : FileTree} {setting : Setting} {verbose : Bool} {arguments : Arguments}

theorem ends_orFail {α : Type} {p : α → FileTree → Prop}
    {r : Stop → Transcript → FileTree → Prop} {outcome : Except ClipError α}
    (hp : ∀ a, outcome = .ok a → p a tree)
    (habort : ∀ left : Transcript, left.EndsInError setting.palette → r .abort left tree)
    (hhalf : ∀ error, outcome = .error error → ¬error.message.IsWhole →
      ∀ fault left, r (.crash (.unencodable fault)) left tree)
    (hcrash : ∀ error crash, outcome = .error error → error.crash? = some crash →
      ∀ left, r (.crash crash) left tree) :
    (orFail (surroundings setting verbose) outcome : Session (StateM FileTree) α).Ends
      tree p r := by
  cases outcome with
  | ok a => exact Session.ends_pure (hp a rfl)
  | error error =>
      rw [orFail, fail]
      cases hexpected : error.crash? with
      | some crash => exact Session.ends_throw (hcrash error crash rfl hexpected)
      | none =>
          exact Session.ends_giveUp noteHeading_mem habort (hhalf error rfl)

theorem breaksMaking_of_readPage {error : ClipError} {crash : Crash}
    (herror : (readPage FileTree.system setting.runtime (.ofText arguments.word) tree).1 =
      .error error)
    (hcrash : error.crash? = some crash) : BreaksMaking tree setting arguments crash := by
  obtain ⟨descent, rfl, rfl⟩ := (settles_readPage _ _ _).fails error herror crash hcrash
  exact .page herror

theorem breaksMaking_of_loadTemplateOf {error : ClipError} {crash : Crash}
    (herror : (loadTemplateOf FileTree.system setting.runtime
      ((arguments.value? "--template").map .ofText) tree).1 = .error error)
    (hcrash : error.crash? = some crash) : BreaksMaking tree setting arguments crash := by
  cases hgiven : arguments.value? "--template" with
  | none =>
      rw [hgiven] at herror
      cases herror
  | some path =>
      rw [hgiven] at herror
      change (FileTree.system.loadTemplate setting.runtime (.ofText path) tree).1.mapError
        ClipError.template = _ at herror
      cases hload : (FileTree.system.loadTemplate setting.runtime (.ofText path) tree).1 with
      | ok template =>
          rw [hload] at herror
          cases herror
      | error refusal =>
          rw [hload] at herror
          obtain rfl := Except.error.inj herror
          rw [ClipError.crash?] at hcrash
          split at hcrash
          · cases hcrash
          · rename_i hhidden
            obtain rfl := Option.some.inj hcrash
            exact .template hgiven hload (by simpa using hhidden)

theorem Finds.breaksMaking {extra : Entries} {page : PageContent} {template : NoteTemplate}
    (h : Finds tree setting arguments extra page template) {error : ClipError} {crash : Crash}
    (herror : buildFrom setting page extra template = .error error)
    (hcrash : error.crash? = some crash) : BreaksMaking tree setting arguments crash := by
  have hpage := (settles_readPage _ _ _).gives page h.page
  have hextra := isPageData_of_readVariables (.map (by simp) (by simp)) h.given
  obtain ⟨failure, rfl, hstops⟩ := (settles_buildFrom setting hpage hextra template).fails _ herror
  cases hstops with
  | longNumber digits => cases hcrash
  | tooDeep descent =>
      obtain rfl := Option.some.inj hcrash
      exact .value h herror

theorem ends_reportNote {make : Session (StateM FileTree) NoteBuild} {template : NoteTemplate}
    {p : NoteBuild → FileTree → Prop} {r : Stop → Transcript → FileTree → Prop}
    (h : make.Ends tree p r) :
    (do
      let build ← make
      for warnings in build.remarks do
        Session.reportRendering (surroundings setting verbose) warnings
      Session.report (surroundings setting verbose) .debug
        ("Built note '" ++ build.note.path ++ "' from template '" ++ template.id ++
          [CodePoint.char '\''])
      return build : Session (StateM FileTree) NoteBuild).Ends tree p r := by
  refine h.bind fun build after hp => ?_
  refine (Session.passes_forIn _ (Session.passes_reportRendering _)).bind fun _ => ?_
  exact (Session.passes_report _ _ _).bind fun _ => Session.ends_pure hp

theorem ends_makeNote (verbose : Bool) {extra : Entries}
    (hextra : readVariables (arguments.valuesOf "--var") [] = .ok extra) :
    (makeNote (surroundings setting verbose) arguments extra).Ends tree
      (fun build after => after = tree ∧ Makes tree setting arguments build)
      (Explained setting.palette .clip tree (BreaksMaking tree setting arguments)) := by
  have habort (left : Transcript) (h : left.EndsInError setting.palette) :
      Explained setting.palette .clip tree (BreaksMaking tree setting arguments) .abort left tree :=
    .abort (.refl tree) h
  have hhalf (error : ClipError) (herror : FailsMaking tree setting arguments error)
      (hbroken : ¬error.message.IsWhole) (fault : Text.Utf8.Unencodable) (left : Transcript) :
      Explained setting.palette .clip tree (BreaksMaking tree setting arguments)
        (.crash (.unencodable fault)) left tree :=
    .crash (.refl tree) (.message herror hbroken) left
  rw [makeNote]
  refine Session.ends_read (onlyReads_readPage _ _) ?_
  refine Session.Ends.bind (p := fun page after => after = tree ∧
    (readPage FileTree.system setting.runtime (.ofText arguments.word) tree).1 = .ok page)
    (ends_orFail (fun page hpage => ⟨rfl, hpage⟩) habort
      (fun error herror => hhalf error (.page herror)) ?_) ?_
  · intro error crash herror hcrash
    exact .crash (.refl tree) (breaksMaking_of_readPage herror hcrash)
  rintro page tree ⟨rfl, hpage⟩
  refine Session.ends_read (onlyReads_loadTemplateOf _ _) ?_
  refine Session.Ends.bind (p := fun template after => after = tree ∧
    (loadTemplateOf FileTree.system setting.runtime
      ((arguments.value? "--template").map .ofText) tree).1 = .ok template)
    (ends_orFail (fun template htemplate => ⟨rfl, htemplate⟩) habort
      (fun error herror => hhalf error (.template herror)) ?_) ?_
  · intro error crash herror hcrash
    exact .crash (.refl tree) (breaksMaking_of_loadTemplateOf herror hcrash)
  rintro template tree ⟨rfl, htemplate⟩
  have hfinds : Finds tree setting arguments extra page template := ⟨hextra, hpage, htemplate⟩
  have hmake : (orFail (surroundings setting verbose)
      (buildFrom setting page extra template)).Ends tree
      (fun build after => after = tree ∧ Makes tree setting arguments build)
      (Explained setting.palette .clip tree (BreaksMaking tree setting arguments)) := by
    refine ends_orFail (fun build hmade => ?_) habort
      (fun error herror => hhalf error (.note hfinds herror)) fun error crash herror hcrash => ?_
    · exact ⟨rfl, extra, page, template, hfinds, hmade⟩
    · exact .crash (.refl tree) (hfinds.breaksMaking herror hcrash)
  dsimp only
  split
  · exact (Session.passes_report _ _ _).bind fun _ => ends_reportNote hmake
  · exact ends_reportNote hmake

theorem ends_makeNote_of_makes {extra : Entries} {build : NoteBuild}
    {p : NoteBuild → FileTree → Prop} {r : Stop → Transcript → FileTree → Prop}
    (hextra : readVariables (arguments.valuesOf "--var") [] = .ok extra)
    (hmade : Makes tree setting arguments build) (hp : p build tree) :
    (makeNote (surroundings setting verbose) arguments extra).Ends tree p r := by
  obtain ⟨same, page, template, ⟨hsame, hpage, htemplate⟩, hbuild⟩ := hmade
  obtain rfl := Except.ok.inj (hextra.symm.trans hsame)
  have hpure {α : Type} (a : α) :
      (orFail (surroundings setting verbose) (.ok a) : Session (StateM FileTree) α).Ends tree
        (fun found after => found = a ∧ after = tree) r := Session.ends_pure ⟨rfl, rfl⟩
  have hmake : (orFail (surroundings setting verbose)
      (buildFrom setting page extra template)).Ends tree p r := by
    rw [hbuild]
    exact Session.ends_pure hp
  rw [makeNote]
  refine Session.ends_read (onlyReads_readPage _ _) ?_
  change (readPage (surroundings setting verbose).system (surroundings setting verbose).runtime
    (.ofText arguments.word) tree).1 = _ at hpage
  rw [hpage]
  refine (hpure page).bind ?_
  rintro _ tree ⟨rfl, rfl⟩
  refine Session.ends_read (onlyReads_loadTemplateOf _ _) ?_
  change (loadTemplateOf (surroundings setting verbose).system
    (surroundings setting verbose).runtime
    ((arguments.value? "--template").map .ofText) tree).1 = _ at htemplate
  rw [htemplate]
  refine (hpure template).bind ?_
  rintro _ tree ⟨rfl, rfl⟩
  dsimp only
  split
  · exact (Session.passes_report _ _ _).bind fun _ => ends_reportNote hmake
  · exact ends_reportNote hmake

theorem ends_makeNote_of_refusal (verbose : Bool) {page : PageContent} {path : Text}
    {refusal : Refusal}
    (hpage : (readPage FileTree.system setting.runtime (.ofText arguments.word) tree).1 = .ok page)
    (hgiven : arguments.value? "--template" = some path)
    (hrefused : (FileTree.system.loadTemplate setting.runtime (.ofText path) tree).1 =
      .error refusal)
    (hhidden : isExpected refusal = false) (extra : Entries) :
    (makeNote (surroundings setting verbose) arguments extra).Ends tree (fun _ _ => False)
      fun stop _ after => stop = .crash (.refusal refusal) ∧ after = tree := by
  have hpath : (arguments.value? "--template").map FilePath.ofText = some (.ofText path) := by
    rw [hgiven]
    rfl
  have hload : (loadTemplateOf FileTree.system setting.runtime (some (.ofText path)) tree).1 =
      .error (.template refusal) := by
    show (FileTree.system.loadTemplate setting.runtime (.ofText path) tree).1.mapError
      ClipError.template = _
    rw [hrefused]
    rfl
  rw [makeNote, hpath]
  refine Session.ends_read (onlyReads_readPage _ _) ?_
  refine Session.Ends.bind (p := fun _ after => after = tree) ?_ ?_
  · change (readPage (surroundings setting verbose).system (surroundings setting verbose).runtime
      (.ofText arguments.word) tree).1 = _ at hpage
    rw [hpage]
    exact Session.ends_pure rfl
  rintro other tree rfl
  refine Session.ends_read (onlyReads_loadTemplateOf _ _) ?_
  change (loadTemplateOf (surroundings setting verbose).system
    (surroundings setting verbose).runtime (some (.ofText path)) tree).1 = _ at hload
  rw [hload]
  refine Session.Ends.bind (p := fun _ _ => False) ?_ fun _ _ hnever => hnever.elim
  have hcrash : (ClipError.template refusal).crash? = some (.refusal refusal) := by
    simp [ClipError.crash?, hhidden]
  rw [orFail, fail, hcrash]
  exact Session.ends_throw fun _ => ⟨rfl, rfl⟩

end Making

end Clippings.Command
