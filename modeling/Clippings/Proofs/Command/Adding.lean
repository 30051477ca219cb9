import Clippings.Proofs.Command.Run
import Clippings.Proofs.File.Flat
import Clippings.Proofs.Json.RoundTrip
import Clippings.Proofs.Note.Adding

namespace Clippings

namespace Command

variable {tree : FileTree} {setting : Setting} {verbose : Bool} {words : List Text}
  {arguments : Arguments}

def asksForHelp (words : List Text) : Bool :=
  (programForm.read false words).toOption.any (·.has "--help") ||
    (callOf? words).any (·.2.has "--help")

theorem ends_dispatch_of_call (verbose : Bool) {command : Name} {p : Unit → FileTree → Prop}
    {r : Stop → Transcript → FileTree → Prop}
    (hcall : callOf? words = some (command, arguments)) (hhelp : asksForHelp words = false)
    (hcheck : ∀ misuse, (command.form.check FileTree.system arguments tree).1 = some misuse →
      ∀ left, r (.misuse command.form misuse) left tree)
    (hsession : ∀ verbose, (command.session (surroundings setting verbose) arguments).Ends tree p
      r) :
    (dispatch (surroundings setting verbose) words).Ends tree p r := by
  obtain ⟨program, name, rest, hprogram, hwords, hname, hread⟩ := exists_of_callOf? hcall
  obtain ⟨hprogramHelp, hcommandHelp⟩ :
      program.has "--help" = false ∧ arguments.has "--help" = false := by
    simpa [asksForHelp, hprogram, hcall, Except.toOption] using hhelp
  have hne : words.isEmpty = false := by
    cases words with
    | nil =>
        obtain rfl := Except.ok.inj hprogram
        cases hwords
    | cons word rest => rfl
  rw [dispatch, hprogram]
  dsimp only
  rw [if_neg (by rw [hne, hprogramHelp]; decide), hwords]
  dsimp only
  rw [hname]
  show (command.run (surroundings setting (program.has "--verbose")) rest).Ends tree p r
  rw [Name.run, hread]
  dsimp only
  rw [if_neg (by rw [hcommandHelp]; decide)]
  refine Session.ends_read (CommandForm.onlyReads_check _ _) ?_
  split
  · rename_i misuse hmisuse
    exact Session.ends_throw (hcheck misuse hmisuse)
  · exact hsession _

theorem ends_clip_of_makes {vault : Text} {build : NoteBuild} {p : Unit → FileTree → Prop}
    {r : Stop → Transcript → FileTree → Prop} (hmade : Makes tree setting arguments build)
    (hvault : arguments.value? "--output" = some vault)
    (hhalf : ∀ warning ∈ build.warnings, ¬warning.message.IsWhole →
      ∀ fault left, r (.crash (.unencodable fault)) left tree)
    (hsave : (saveNote (surroundings setting verbose) (.ofText vault) build.note).Ends tree p r) :
    (clip (surroundings setting verbose) arguments).Ends tree p r := by
  obtain ⟨extra, page, template, hfinds, hbuild⟩ := hmade
  rw [clip, hfinds.given]
  dsimp only
  refine Session.Ends.bind (p := fun made after => made = build ∧ after = tree)
    (ends_makeNote_of_makes hfinds.given ⟨extra, page, template, hfinds, hbuild⟩ ⟨rfl, rfl⟩) ?_
  rintro made tree ⟨rfl, rfl⟩
  refine Session.Ends.bind (p := fun _ after => after = tree)
    (Session.ends_showWarnings rfl hhalf) ?_
  rintro _ tree rfl
  rw [hvault]
  exact hsave

variable {vault : Text} {note : Note} {place : Place} {existing : Text}

/-- The text of a file that is there with the body of a note added. -/
def textWith (note : Note) (existing : Text) : Text :=
  Note.insert note.behavior.isTop existing.unifyLineEndings note.body

theorem ends_textFor_of_file {p : Text → FileTree → Prop}
    {r : Stop → Transcript → FileTree → Prop} (hadds : note.behavior ≠ .create)
    (hwhole : existing.IsWhole)
    (hread : tree.read (notePath vault note) = .ok (Text.Utf8.encode existing))
    (hp : p (textWith note existing) tree) :
    (textFor FileTree.system (notePath vault note) note).Ends tree p r := by
  have hexists : (FileTree.system.existsAt (notePath vault note) tree).1 = .ok true := by
    rw [FileTree.existsAt_of_kindAt (FileTree.kindAt_of_read hread)]
  rw [textFor, if_neg hadds]
  refine Session.ends_read (FileTree.onlyReads_existsAt _) ?_
  rw [hexists]
  refine Session.Ends.bind (p := fun found after => found = true ∧ after = tree)
    (Session.ends_pure ⟨rfl, rfl⟩) ?_
  rintro _ tree ⟨rfl, rfl⟩
  rw [if_pos rfl]
  refine Session.ends_read (onlyReads_readText _) ?_
  rw [readText_fst, hread]
  dsimp only
  rw [Text.Utf8.decode_encode hwhole]
  exact Session.ends_pure hp

theorem ends_saveNote_of_file (hadds : note.behavior ≠ .create) (hwhole : existing.IsWhole)
    (hplace : tree.locate (notePath vault note) = .ok place)
    (hfile : tree.node? place = some (.file (Text.Utf8.encode existing))) :
    (saveNote (surroundings setting verbose) (.ofText vault) note).Ends tree
      (fun _ after => (textWith note existing).IsWhole ∧
        after.node? place = some (.file (Text.Utf8.encode (textWith note existing))))
      fun stop left _ => (Outcome.ofSession (.error stop, left)).status ≠ 0 := by
  have hne : place ≠ [] := by
    rintro rfl
    cases hfile
  have hresolve {path : FilePath} (hpath : path ∈ [notePath vault note, .ofText vault]) :
      (resolve FileTree.system path).Ends tree (fun _ after => after = tree)
        fun stop left _ => (Outcome.ofSession (.error stop, left)).status ≠ 0 :=
    (ends_resolve setting hpath).mono (fun _ _ h => h.1) fun _ _ _ h => h.status_ne_zero
  rw [saveNote]
  refine (hresolve (.head _)).bind ?_
  rintro found tree rfl
  refine (hresolve (.tail _ (.head _))).bind ?_
  rintro root tree rfl
  dsimp only
  split
  · rw [outsideLine_eq]
    exact Session.ends_refuse noteHeading_mem (fun _ _ => Nat.one_ne_zero)
      (fun _ _ _ => Nat.one_ne_zero) fun _ _ => Nat.one_ne_zero
  · refine Session.Ends.bind (p := fun text after => text = textWith note existing ∧ after = tree)
      (ends_textFor_of_file hadds hwhole (FileTree.read_of_locate hplace hfile) ⟨rfl, rfl⟩) ?_
    rintro _ tree ⟨rfl, rfl⟩
    cases hfault : Text.Utf8.unencodable? (textWith note existing) with
    | some fault =>
        refine ends_writeFile setting [] (fun _ _ _ h => h.status_ne_zero)
          fun folders after _ _ => ?_
        exact Session.ends_throw_bind fun _ => Nat.one_ne_zero
    | none =>
        refine ends_writeFile setting (Text.Utf8.encode (textWith note existing))
          (fun _ _ _ h => h.status_ne_zero) fun folders after hnew hwrite => ?_
        refine Session.ends_print_of_shows (shows_savedMessage _ _)
          ⟨Text.Utf8.unencodable?_eq_none_iff.mp hfault, ?_⟩ fun _ _ _ => Nat.one_ne_zero
        exact hnew.node?_of_write hplace hne hwrite

/-- Where a note leads to a file in the vault, the file is written if its new text can be encoded,
and else it is left empty. -/
theorem ends_saveNote_of_resolved {root : Place} {p : Unit → FileTree → Prop}
    {r : Stop → Transcript → FileTree → Prop} (hadds : note.behavior ≠ .create)
    (hwhole : existing.IsWhole)
    (hpaths : ∀ path ∈ [notePath vault note, .ofText vault], pathCrash? path = none)
    (hplace : tree.locate (notePath vault note) = .ok place)
    (hfile : tree.node? place = some (.file (Text.Utf8.encode existing)))
    (hroot : tree.resolve (.ofText vault) = .ok root) (hinside : root <+: place)
    (hfolder : FileTree.system.ensureFolders (notePath vault note).parent tree = (.ok (), tree))
    (hshown : (notePath vault note).text.IsWhole)
    (hp : (textWith note existing).IsWhole →
      p () (tree.put place (.file (Text.Utf8.encode (textWith note existing)))))
    (hr : ¬(textWith note existing).IsWhole → ∀ fault left,
      r (.crash (.unencodable fault)) left (tree.put place (.file []))) :
    (saveNote (surroundings setting verbose) (.ofText vault) note).Ends tree p r := by
  have hresolve {path : FilePath} {target : Place} (hpath : pathCrash? path = none)
      (htarget : tree.resolve path = .ok target) : (resolve FileTree.system path).Ends tree
        (fun found after => found = target ∧ after = tree) r := by
    have hfound : (FileTree.system.resolve path tree).1 =
        FileProblem.about path (tree.resolve path) := rfl
    rw [resolve, hpath]
    refine Session.ends_read (FileTree.onlyReads_resolve path) ?_
    rw [hfound, htarget]
    exact Session.ends_pure ⟨rfl, rfl⟩
  have hwrite {next : Session (StateM FileTree) Unit} (content : Bytes)
      (hnext : next.Ends (tree.put place (.file content)) p r) :
      (do
        orCrash (← Session.files (FileTree.system.ensureFolders (notePath vault note).parent))
        orCrash (← Session.files (FileTree.system.write (notePath vault note) content))
        next : Session (StateM FileTree) Unit).Ends tree p r := by
    refine Session.Ends.bind (p := fun made after => made = .ok () ∧ after = tree)
      (Session.ends_files (by rw [hfolder]; exact ⟨rfl, rfl⟩)) ?_
    rintro _ after ⟨rfl, rfl⟩
    refine (Session.passes_pure _).bind fun _ => ?_
    refine Session.Ends.bind (p := fun written other => written = .ok () ∧
      other = after.put place (.file content)) (Session.ends_files ?_) ?_
    · rw [write_apply, FileTree.write_of_locate hplace hfile content]
      exact ⟨rfl, rfl⟩
    rintro _ other ⟨rfl, rfl⟩
    exact (Session.passes_pure _).bind fun _ => hnext
  obtain ⟨n, hwalk⟩ := FileTree.walk_of_locate hplace
  rw [saveNote]
  refine (hresolve (hpaths _ (by simp)) (hwalk.resolve rfl fun _ _ => Iff.rfl)).bind ?_
  rintro _ tree ⟨rfl, rfl⟩
  refine (hresolve (hpaths _ (by simp)) hroot).bind ?_
  rintro _ tree ⟨rfl, rfl⟩
  dsimp only
  rw [if_neg (by simpa using hinside)]
  refine Session.Ends.bind (p := fun text after => text = textWith note existing ∧ after = tree)
    (ends_textFor_of_file hadds hwhole (FileTree.read_of_locate hplace hfile) ⟨rfl, rfl⟩) ?_
  rintro _ _ ⟨rfl, rfl⟩
  cases hfault : Text.Utf8.unencodable? (textWith note existing) with
  | some fault =>
      have hhalf : ¬(textWith note existing).IsWhole := fun h => by
        cases hfault.symm.trans (Text.Utf8.unencodable?_eq_none_iff.mpr h)
      exact hwrite [] (Session.ends_throw_bind (hr hhalf fault))
  | none =>
      have hline : Text.IsWhole ("[green]✓ Note saved to " ++
          Markup.escape (notePath vault note).text ++ "[/green]") :=
        (Markup.isWhole_escape hshown).between _ _
      refine hwrite (Text.Utf8.encode (textWith note existing)) ?_
      exact (Session.passes_print (shows_savedMessage _ _) hline).ends fun _ =>
        hp (Text.Utf8.unencodable?_eq_none_iff.mp hfault)

theorem node?_run_of_file {build : NoteBuild} (hcall : callOf? words = some (.clip, arguments))
    (hhelp : asksForHelp words = false) (hvault : arguments.value? "--output" = some vault)
    (hmade : Makes tree setting arguments build) (hadds : build.note.behavior ≠ .create)
    (hwhole : existing.IsWhole) (hplace : tree.locate (notePath vault build.note) = .ok place)
    (hfile : tree.node? place = some (.file (Text.Utf8.encode existing)))
    (hstatus : (run (surroundings setting verbose) words tree).1.status = 0) :
    (textWith build.note existing).IsWhole ∧
      (run (surroundings setting verbose) words tree).2.node? place =
        some (.file (Text.Utf8.encode (textWith build.note existing))) := by
  have hends : (dispatch (surroundings setting verbose) words).Ends tree
      (fun _ after => (textWith build.note existing).IsWhole ∧
        after.node? place = some (.file (Text.Utf8.encode (textWith build.note existing))))
      fun stop left _ => (Outcome.ofSession (.error stop, left)).status ≠ 0 :=
    ends_dispatch_of_call verbose hcall hhelp (fun _ _ _ => Nat.succ_ne_zero 1) fun verbose =>
      ends_clip_of_makes hmade hvault (fun _ _ _ _ _ => Nat.one_ne_zero)
        (ends_saveNote_of_file hadds hwhole hplace hfile)
  rcases run_of_ends hends with ⟨left, after, hrun, hwritten⟩ | ⟨stop, left, after, hrun, hfails⟩
  · rw [hrun]
    exact hwritten
  · rw [hrun] at hstatus
    exact absurd hstatus hfails

def notedPage : Value :=
  .map [(.text "url", .text "https://example.com/coffee"), (.text "title", .text "Coffee")]

def notedPageText : Text := "\x7b\"url\":\"https://example.com/coffee\",\"title\":\"Coffee\"\x7d"

def notedTemplateText : Text :=
  "id: inbox\nname: Inbox\nbehavior: append-top\nnoteNameFormat: Inbox\n" ++
    "noteContent: '\x7b\x7btext\x7d\x7d'\n"

def notedTree (existing : Text) : FileTree where
  nodes :=
    [(["home"], .folder),
      (["home", "page.json"], .file (Text.Utf8.encode notedPageText)),
      (["home", "inbox.yaml"], .file (Text.Utf8.encode notedTemplateText)),
      (["home", "vault"], .folder),
      (["home", "vault", "Inbox.md"], .file (Text.Utf8.encode existing))]
  working := ["home"]

def notedWords (text : Text) : List Text :=
  ["clip", "page.json", "-t", "inbox.yaml", "-o", "vault", "--var", "text=" ++ text]

def notedArguments (text : Text) : Arguments where
  given :=
    [{ name := "--template", value := "inbox.yaml" }, { name := "--output", value := "vault" },
      { name := "--var", value := "text=" ++ text }]
  words := ["page.json"]

def notedTemplate : NoteTemplate where
  id := "inbox"
  name := "Inbox"
  behavior := .appendTop
  nameFormat := "Inbox"
  content := "\x7b\x7btext\x7d\x7d"

def notedBuild (text : Text) : NoteBuild where
  note := { fileName := "Inbox.md", path := "Inbox.md", body := text, behavior := .appendTop }
  remarks := [[], [], []]

/-- Half of a pair that stands for the byte 255 of an argument. -/
def notedHalf : Text := [.half 0x4FF]

def notedTexts : List Text := ["NEW", notedHalf]

theorem callOf?_notedWords : ∀ text ∈ notedTexts,
    callOf? (notedWords text) = some (.clip, notedArguments text) := by
  decide +kernel

theorem asksForHelp_notedWords : ∀ text ∈ notedTexts, asksForHelp (notedWords text) = false := by
  decide +kernel

theorem buildFrom_notedTemplate : ∀ text ∈ notedTexts,
    buildFrom { now := default } { title := "Coffee", url := "https://example.com/coffee" }
      [(.text "text", .text text)] notedTemplate = .ok (notedBuild text) := by
  simp only [notedTexts, List.forall_mem_cons]
  exact ⟨rfl, rfl, by simp⟩

theorem allOfBytes_notedTemplateText :
    (NoteTemplate.allOfBytes {} (.ofText "inbox.yaml")
      (Text.Utf8.encode notedTemplateText)).toOption =
      some [notedTemplate] := by
  decide +kernel

theorem readJson_notedPageText : readJson {} notedPageText = .ok notedPage := by
  have hjson : notedPage.IsJson := by
    refine .map ?_ ?_ ?_
    · simp
    · simp
    · simp only [List.forall_mem_cons, List.not_mem_nil, false_imp_iff, implies_true, and_true]
      exact ⟨.text _, .text _⟩
  have hprint : (Json.print .compact ({} : Runtime).room notedPage).toOption =
      some notedPageText := by decide +kernel
  rw [readJson, Json.parse_print rfl hjson (Except.toOption_eq_some_iff.mp hprint)]

section NotedTree

variable (existing text : Text)

theorem read_notedTree_page :
    (notedTree existing).read (.ofText "page.json") = .ok (Text.Utf8.encode notedPageText) :=
  @FileTree.read_child (notedTree existing) "page.json" _ (by decide) (by decide) rfl rfl

theorem read_notedTree_template :
    (notedTree existing).read (.ofText "inbox.yaml") =
      .ok (Text.Utf8.encode notedTemplateText) :=
  @FileTree.read_child (notedTree existing) "inbox.yaml" _ (by decide) (by decide) rfl rfl

theorem node?_notedTree_vault :
    (notedTree existing).node? ["home", "vault"] = some .folder := rfl

theorem locate_notedTree_vault :
    (notedTree existing).locate (.ofText "vault") = .ok ["home", "vault"] :=
  FileTree.locate_child (by decide) (by decide) rfl
    (FileTree.ne_link_of_node? (node?_notedTree_vault existing) rfl)

theorem notePath_notedBuild :
    notePath "vault" (notedBuild text).note = ⟨[], ["vault", "Inbox.md"]⟩ := rfl

theorem locate_notedTree :
    (notedTree existing).locate (notePath "vault" (notedBuild text).note) =
      .ok ["home", "vault", "Inbox.md"] := by
  have hfile : (notedTree existing).node? ["home", "vault", "Inbox.md"] =
      some (.file (Text.Utf8.encode existing)) := rfl
  have hvault := @FileTree.trace_step (notedTree existing) FileTree.linkLimit ["home"] "vault" rfl
    (by decide) (FileTree.ne_link_of_node? (node?_notedTree_vault existing) rfl) ["Inbox.md"]
  have hnote := @FileTree.trace_step (notedTree existing) FileTree.linkLimit ["home", "vault"]
    "Inbox.md" rfl (by decide) (FileTree.ne_link_of_node? hfile rfl) []
  rw [notePath_notedBuild, FileTree.locate, if_neg (by decide)]
  exact hvault.trans (hnote.trans (FileTree.trace.eq_1 ..))

theorem resolve_notedTree :
    (notedTree existing).resolve (.ofText "vault") = .ok ["home", "vault"] := by
  obtain ⟨n, hwalk⟩ := FileTree.walk_of_locate (locate_notedTree_vault existing)
  exact hwalk.resolve rfl fun _ _ => Iff.rfl

theorem kindAt_notedTree_vault :
    FileTree.system.kindAt (.ofText "vault") (notedTree existing) =
      (.ok .folder, notedTree existing) := by
  have hkind : (notedTree existing).kindAt (.ofText "vault") = .ok .folder := by
    rw [FileTree.kindAt, locate_notedTree_vault]
    rfl
  show (FileProblem.about _ ((notedTree existing).kindAt (.ofText "vault")), _) = _
  rw [hkind]
  rfl

theorem readPage_notedTree :
    (readPage FileTree.system {} (.ofText "page.json") (notedTree existing)).1 =
      .ok { title := "Coffee", url := "https://example.com/coffee" } := by
  have hread : readText FileTree.system (.ofText "page.json") (notedTree existing) =
      (.ok notedPageText, notedTree existing) := by
    refine Prod.ext ?_ (onlyReads_readText _ _)
    rw [readText_fst, read_notedTree_page]
    dsimp only
    have hwhole : notedPageText.IsWhole := Text.isWhole_map _
    rw [Text.Utf8.decode_encode hwhole]
    exact congrArg Except.ok (Text.unifyLineEndings_eq_self (by decide))
  have hjson : (Except.ok notedPageText : Except InputError Text).bind (readJson {}) =
      .ok notedPage := by
    rw [Except.bind, readJson_notedPageText]
  have hpage : PageContent.check notedPage =
      .valid { title := "Coffee", url := "https://example.com/coffee" } := rfl
  rw [readPage, Session.bind_apply hread, hjson]
  dsimp only
  rw [hpage]
  rfl

theorem loadTemplateOf_notedTree :
    (loadTemplateOf FileTree.system {} (some (.ofText "inbox.yaml")) (notedTree existing)).1 =
      .ok notedTemplate := by
  have hread := read_notedTree_template existing
  have hsuffix : (FilePath.ofText "inbox.yaml").isTemplateFile = true := by decide +kernel
  change (FileTree.system.loadTemplate {} (.ofText "inbox.yaml") (notedTree existing)).1.mapError
    ClipError.template = _
  rw [FileTree.loadTemplate_apply (FileTree.kindAt_of_read hread) hsuffix, FileTree.templatesAt,
    hread]
  dsimp only
  cases hfound : NoteTemplate.allOfBytes {} (.ofText "inbox.yaml")
      (Text.Utf8.encode notedTemplateText) with
  | error refusal =>
      have hsome := allOfBytes_notedTemplateText
      rw [hfound] at hsome
      cases hsome
  | ok templates =>
      have hsome := allOfBytes_notedTemplateText
      rw [hfound] at hsome
      obtain rfl := Option.some.inj hsome
      rfl

theorem makes_notedTree {text : Text} (h : text ∈ notedTexts) :
    Makes (notedTree existing) { now := default } (notedArguments text) (notedBuild text) := by
  refine ⟨[(.text "text", .text text)], { title := "Coffee", url := "https://example.com/coffee" },
    notedTemplate, ⟨rfl, readPage_notedTree existing, loadTemplateOf_notedTree existing⟩, ?_⟩
  exact buildFrom_notedTemplate text h

theorem ensureFolders_notedTree :
    FileTree.system.ensureFolders (notePath "vault" (notedBuild text).note).parent
      (notedTree existing) = (.ok (), notedTree existing) := by
  have hmake : FileTree.system.makeFolder (.ofText "vault") (notedTree existing) =
      (.error ⟨.exists, .ofText "vault"⟩, notedTree existing) := by
    have hparent : (notedTree existing).locate (FilePath.parent (.ofText "vault")) =
        .ok ["home"] := FileTree.locate_empty _
    have hmakes : (notedTree existing).makeFolder (.ofText "vault") = .error .exists := by
      rw [FileTree.makeFolder, hparent]
      rfl
    show FileTree.change _ (·.makeFolder (.ofText "vault")) _ = _
    rw [FileTree.change, hmakes]
  have hkind : FileTree.system.isKind .folder (.ofText "vault") (notedTree existing) =
      (.ok true, notedTree existing) := by
    rw [FileSystem.isKind, Session.bind_apply (kindAt_notedTree_vault existing)]
    rfl
  have hensure : FileTree.system.ensureFolder (.ofText "vault") (notedTree existing) =
      (.ok (), notedTree existing) := by
    rw [FileSystem.ensureFolder, Session.bind_apply hmake]
    dsimp only
    rw [Session.bind_apply hkind]
    rfl
  rw [notePath_notedBuild]
  show FileTree.system.ensureFoldersFrom 1 (.ofText "vault") _ = _
  rw [FileSystem.ensureFoldersFrom, Session.bind_apply hensure]
  rfl

theorem misuse?_notedTree {kind : ValueKind} {found : FileKind} {name : Text}
    (hkind : kind = .file ∧ found = .file ∨ kind = .folder ∧ found = .folder)
    (hname : name.isEmpty = false) (hlast : name.getLast? ≠ some (.char '/'))
    (hfound : FileTree.system.kindAt (.ofText name) (notedTree existing) =
      (.ok found, notedTree existing)) (label : Text) :
    kind.misuse? FileTree.system label name (notedTree existing) = (none, notedTree existing) := by
  have hnamed : FileTree.system.kindNamed name (notedTree existing) =
      (some found, notedTree existing) := by
    rw [FileSystem.kindNamed, if_neg (by rw [hname]; decide), Session.bind_apply hfound]
    cases found with
    | folder => rfl
    | file =>
        dsimp only
        rw [if_neg hlast]
        rfl
  have hrefusal : kind.refusal? FileTree.system name (notedTree existing) =
      (none, notedTree existing) := by
    rcases hkind with ⟨rfl, rfl⟩ | ⟨rfl, rfl⟩
    · rw [ValueKind.refusal?, Session.bind_apply hnamed]
      rfl
    · rw [ValueKind.refusal?, Session.bind_apply hnamed]
      rfl
  rw [ValueKind.misuse?, Session.bind_apply hrefusal]
  rfl

theorem kindAt_notedTree_of_read {name : Text} {content : Bytes}
    (hread : (notedTree existing).read (.ofText name) = .ok content) :
    FileTree.system.kindAt (.ofText name) (notedTree existing) =
      (.ok .file, notedTree existing) := by
  show (FileProblem.about _ ((notedTree existing).kindAt (.ofText name)), _) = _
  rw [FileTree.kindAt_of_read hread]
  rfl

theorem check_notedTree :
    clipForm.check FileTree.system (notedArguments text) (notedTree existing) =
      (none, notedTree existing) := by
  have hpage := kindAt_notedTree_of_read existing (read_notedTree_page existing)
  have htemplate := kindAt_notedTree_of_read existing (read_notedTree_template existing)
  have hvault := kindAt_notedTree_vault existing
  have hoptions : clipForm.checkOptions FileTree.system (notedArguments text)
      ["--template", "--output", "--var"] (notedTree existing) = (none, notedTree existing) := by
    have hfile : clipForm.optionKind "--template" = .file := rfl
    have hfolder : clipForm.optionKind "--output" = .folder := rfl
    have hpath : ((notedArguments text).value? "--template").getD [] = "inbox.yaml" := rfl
    have hroot : ((notedArguments text).value? "--output").getD [] = "vault" := rfl
    rw [CommandForm.checkOptions, hfile, hpath, Session.bind_apply (misuse?_notedTree existing
      (.inl ⟨rfl, rfl⟩) rfl (by decide) htemplate _)]
    dsimp only
    rw [CommandForm.checkOptions, hfolder, hroot, Session.bind_apply (misuse?_notedTree existing
      (.inr ⟨rfl, rfl⟩) rfl (by decide) hvault _)]
    rfl
  have hwords : CommandForm.checkWords FileTree.system clipForm.parameters
      (notedArguments text).words (notedTree existing) = (none, notedTree existing) := by
    show CommandForm.checkWords FileTree.system [_] [_] _ = _
    rw [CommandForm.checkWords, Session.bind_apply (misuse?_notedTree existing
      (.inl ⟨rfl, rfl⟩) rfl (by decide) hpage _)]
    rfl
  have hnames : ((notedArguments text).given.map (·.name)).eraseDups =
      (["--template", "--output", "--var"] : List Text) := rfl
  rw [CommandForm.check, hnames, Session.bind_apply hoptions]
  exact hwords

end NotedTree

theorem ends_dispatch_notedTree {existing text : Text} {p : Unit → FileTree → Prop}
    {r : Stop → Transcript → FileTree → Prop} (htext : text ∈ notedTexts)
    (hexisting : existing.IsWhole)
    (hp : (textWith (notedBuild text).note existing).IsWhole →
      p () ((notedTree existing).put ["home", "vault", "Inbox.md"]
        (.file (Text.Utf8.encode (textWith (notedBuild text).note existing)))))
    (hr : ¬(textWith (notedBuild text).note existing).IsWhole → ∀ fault left,
      r (.crash (.unencodable fault)) left
        ((notedTree existing).put ["home", "vault", "Inbox.md"] (.file []))) :
    (dispatch (surroundings { now := default } false) (notedWords text)).Ends
      (notedTree existing) p r := by
  refine ends_dispatch_of_call false (callOf?_notedWords text htext)
    (asksForHelp_notedWords text htext) ?_ fun verbose => ?_
  · intro misuse hmisuse
    change (clipForm.check FileTree.system (notedArguments text) (notedTree existing)).1 = _
      at hmisuse
    rw [check_notedTree] at hmisuse
    cases hmisuse
  · have hvault : (notedArguments text).value? "--output" = some "vault" := rfl
    have hwarnings : (notedBuild text).warnings = [] := rfl
    refine ends_clip_of_makes (makes_notedTree existing htext) hvault (by simp [hwarnings]) ?_
    have hpaths : ∀ path ∈ [notePath "vault" (notedBuild text).note, .ofText "vault"],
        pathCrash? path = none := by
      rw [notePath_notedBuild]
      decide
    exact ends_saveNote_of_resolved (fun h => by cases h) hexisting hpaths
      (locate_notedTree existing text) rfl (resolve_notedTree existing) (by decide)
      (ensureFolders_notedTree existing text) (by rw [notePath_notedBuild]; decide) hp hr

theorem status_run_notedTree {existing text : Text} (htext : text ∈ notedTexts)
    (hexisting : existing.IsWhole) (hwhole : (textWith (notedBuild text).note existing).IsWhole) :
    (run (surroundings { now := default } false) (notedWords text)
      (notedTree existing)).1.status = 0 := by
  have hends : (dispatch (surroundings { now := default } false) (notedWords text)).Ends
      (notedTree existing) (fun _ _ => True) fun _ _ _ => False :=
    ends_dispatch_notedTree htext hexisting (fun _ => trivial) fun hhalf => absurd hwhole hhalf
  rcases run_of_ends hends with ⟨left, after, hrun, -⟩ | ⟨-, -, -, -, hnever⟩
  · rw [hrun]
    rfl
  · exact hnever.elim

/-- For every call that makes a note for a path where a file is, with a behavior that adds to notes:
if the call ends well, the file holds the text that was there with the body of the note added. That
text was read with line feeds for its line endings; the text of the file itself is kept exactly if
it holds no carriage return. -/
theorem run_adds_to_note {build : NoteBuild} (hcall : callOf? words = some (.clip, arguments))
    (hhelp : asksForHelp words = false) (hvault : arguments.value? "--output" = some vault)
    (hmade : Makes tree setting arguments build) (hadds : build.note.behavior ≠ .create)
    (hwhole : existing.IsWhole) (hplace : tree.locate (notePath vault build.note) = .ok place)
    (hfile : tree.node? place = some (.file (Text.Utf8.encode existing)))
    (hstatus : (run (surroundings setting verbose) words tree).1.status = 0) :
    let note := build.note
    let text := Note.insert note.behavior.isTop existing.unifyLineEndings note.body
    text.IsWhole ∧
      (run (surroundings setting verbose) words tree).2.node? place =
        some (.file (Text.Utf8.encode text)) ∧
      Note.Adds existing.unifyLineEndings note.body note.behavior.isTop text ∧
      (Note.Adds existing note.body note.behavior.isTop text ↔ .char '\r' ∉ existing) := by
  intro note text
  obtain ⟨htext, hwritten⟩ :=
    node?_run_of_file hcall hhelp hvault hmade hadds hwhole hplace hfile hstatus
  exact ⟨htext, hwritten, Note.adds_insert _ _ _, Note.adds_insert_unifyLineEndings_iff _ _ _⟩

theorem run_adds_to_note_below_block :
    let tree := notedTree "---\nsource: old\n---\nOLD\n"
    let words := notedWords "NEW"
    callOf? words = some (.clip, notedArguments "NEW") ∧ asksForHelp words = false ∧
      (notedArguments "NEW").value? "--output" = some "vault" ∧
      Makes tree { now := default } (notedArguments "NEW") (notedBuild "NEW") ∧
      (notedBuild "NEW").note.behavior ≠ .create ∧
      tree.locate (notePath "vault" (notedBuild "NEW").note) = .ok ["home", "vault", "Inbox.md"] ∧
      (run (surroundings { now := default } false) words tree).1.status = 0 ∧
      (run (surroundings { now := default } false) words tree).2.node?
        ["home", "vault", "Inbox.md"] =
        some (.file (Text.Utf8.encode "---\nsource: old\n---\nNEW\nOLD\n")) ∧
      Note.Adds "---\nsource: old\n---\nOLD\n" "NEW" true
        "---\nsource: old\n---\nNEW\nOLD\n" := by
  intro tree words
  have hcall := callOf?_notedWords "NEW" (.head _)
  have hhelp := asksForHelp_notedWords "NEW" (.head _)
  have hmade := makes_notedTree "---\nsource: old\n---\nOLD\n" (.head _)
  have hplace := locate_notedTree "---\nsource: old\n---\nOLD\n" "NEW"
  have hstatus := status_run_notedTree (.head _) (Text.isWhole_map _)
    (by decide : (textWith (notedBuild "NEW").note "---\nsource: old\n---\nOLD\n").IsWhole)
  have hadds : (notedBuild "NEW").note.behavior ≠ .create := by decide
  obtain ⟨-, hfile, -, hkept⟩ := run_adds_to_note hcall hhelp rfl hmade hadds (Text.isWhole_map _)
    hplace rfl hstatus
  exact ⟨hcall, hhelp, rfl, hmade, hadds, hplace, hstatus, hfile, hkept.mpr (by decide)⟩

/-- A note with carriage returns loses them, although the text is added above them. -/
theorem run_rewrites_carriage_returns :
    let words := notedWords "NEW"
    let after := (run (surroundings { now := default } false) words (notedTree "OLD\r\n")).2
    (run (surroundings { now := default } false) words (notedTree "OLD\r\n")).1.status = 0 ∧
      after.node? ["home", "vault", "Inbox.md"] = some (.file (Text.Utf8.encode "NEW\nOLD\n")) ∧
      ¬ ∃ text : Text, text.IsWhole ∧ after.node? ["home", "vault", "Inbox.md"] =
        some (.file (Text.Utf8.encode text)) ∧ Note.Adds "OLD\r\n" "NEW" true text := by
  intro words after
  have hstatus := status_run_notedTree (.head _) (Text.isWhole_map _)
    (by decide : (textWith (notedBuild "NEW").note "OLD\r\n").IsWhole)
  have hfile : after.node? ["home", "vault", "Inbox.md"] =
      some (.file (Text.Utf8.encode "NEW\nOLD\n")) :=
    (node?_run_of_file (callOf?_notedWords "NEW" (.head _)) (asksForHelp_notedWords "NEW" (.head _))
      rfl (makes_notedTree "OLD\r\n" (.head _)) (by decide) (Text.isWhole_map _)
      (locate_notedTree "OLD\r\n" "NEW") rfl hstatus).2
  refine ⟨hstatus, hfile, ?_⟩
  rintro ⟨text, hwhole, htext, hadds⟩
  have hsame := FileNode.file.inj (Option.some.inj (hfile.symm.trans htext))
  have hdecoded := congrArg Text.Utf8.decode hsame
  rw [Text.Utf8.decode_encode (Text.isWhole_map _), Text.Utf8.decode_encode hwhole] at hdecoded
  obtain rfl := Except.ok.inj hdecoded
  exact absurd (hadds.count_eq (c := '\r') (by decide)) (by decide)

end Command

end Clippings
