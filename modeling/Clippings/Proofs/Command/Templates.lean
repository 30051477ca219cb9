import Clippings.Proofs.Command.Making
import Clippings.Proofs.Json.Leaves

namespace Clippings.Command

open FileTree (OnlyReads)

theorem isPageData_of_readContext {runtime : Runtime} {source text : Text} {entries : Entries}
    (h : readContext runtime source text = .ok entries) : (Value.map entries).IsPageData := by
  obtain ⟨value, hvalue, hcontext⟩ := Except.exists_of_bind_eq_ok h
  have hdata := isPageData_of_readJson hvalue
  split at hcontext
  · obtain rfl := Except.ok.inj hcontext
    exact hdata
  · cases hcontext

theorem onlyReads_readContextFile (runtime : Runtime) (path : Option FilePath) :
    OnlyReads (readContextFile FileTree.system runtime path) := by
  cases path with
  | none => exact FileTree.onlyReads_pure _
  | some path => exact (onlyReads_readText path).bind fun _ => FileTree.onlyReads_pure _

theorem isPageData_of_readContextFile {runtime : Runtime} {path : Option FilePath} {tree : FileTree}
    {entries : Entries} (h : (readContextFile FileTree.system runtime path tree).1 = .ok entries) :
    (Value.map entries).IsPageData := by
  cases path with
  | none =>
      obtain rfl := Except.ok.inj h
      exact .map (by simp) (by simp)
  | some path =>
      obtain ⟨text, -, hcontext⟩ := Except.exists_of_bind_eq_ok h
      exact isPageData_of_readContext hcontext

theorem onlyReads_readTemplateText (arguments : Arguments) :
    OnlyReads (readTemplateText FileTree.system arguments) := by
  rw [readTemplateText]
  split
  · exact onlyReads_readText _
  · exact FileTree.onlyReads_pure _

theorem onlyReads_readRenderContext (runtime : Runtime) (arguments : Arguments) :
    OnlyReads (readRenderContext FileTree.system runtime arguments) := by
  refine (onlyReads_readContextFile _ _).bind fun found => ?_
  cases found with
  | error e => exact FileTree.onlyReads_pure _
  | ok entries => dsimp only; split <;> exact FileTree.onlyReads_pure _

theorem onlyReads_readRenderInput (runtime : Runtime) (arguments : Arguments) :
    OnlyReads (readRenderInput FileTree.system runtime arguments) := by
  refine (onlyReads_readTemplateText arguments).bind fun template => ?_
  cases template with
  | error e => exact FileTree.onlyReads_pure _
  | ok template => exact (onlyReads_readRenderContext runtime arguments).bind fun _ =>
      FileTree.onlyReads_pure _

theorem isPageData_of_readRenderContext {runtime : Runtime} {arguments : Arguments}
    {tree : FileTree} {context : Entries}
    (h : (readRenderContext FileTree.system runtime arguments tree).1 = .ok context) :
    (Value.map context).IsPageData := by
  rw [readRenderContext, (onlyReads_readContextFile _ _).bind_apply] at h
  cases hfile : (readContextFile FileTree.system runtime
      ((arguments.value? "--context-file").map .ofText) tree).1 with
  | error e =>
      rw [hfile] at h
      cases h
  | ok entries =>
      rw [hfile] at h
      have hentries := isPageData_of_readContextFile hfile
      dsimp only at h
      generalize (arguments.value? "--context").getD [] = text at h
      cases text with
      | nil =>
          obtain rfl := Except.ok.inj h
          exact hentries
      | cons c text =>
          obtain ⟨new, hnew, rfl⟩ := Except.exists_of_map_eq_ok h
          exact Entries.isPageData_insertAll hentries (isPageData_of_readContext hnew)

theorem isPageData_of_readRenderInput {runtime : Runtime} {arguments : Arguments} {tree : FileTree}
    {template : Text} {context : Entries}
    (h : (readRenderInput FileTree.system runtime arguments tree).1 = .ok (template, context)) :
    (Value.map context).IsPageData := by
  rw [readRenderInput, (onlyReads_readTemplateText arguments).bind_apply] at h
  cases htemplate : (readTemplateText FileTree.system arguments tree).1 with
  | error e =>
      rw [htemplate] at h
      cases h
  | ok text =>
      rw [htemplate] at h
      obtain ⟨entries, hentries, heq⟩ := Except.exists_of_map_eq_ok h
      obtain rfl := (Prod.mk.inj heq).2
      exact isPageData_of_readRenderContext hentries

/-- What makes a call of the command that renders break down: a context or the value of a
placeholder is nested too deep, or a message or a warning cannot be encoded. -/
inductive BreaksRender (tree : FileTree) (setting : Setting) (arguments : Arguments) :
    Crash → Prop
  | context {descent : Descent}
      (deep : (readRenderInput FileTree.system setting.runtime arguments tree).1 =
        .error (.tooDeep descent)) :
      BreaksRender tree setting arguments (.failure (.tooDeep descent))
  | message {error : InputError} {fault : Text.Utf8.Unencodable}
      (failed : (readRenderInput FileTree.system setting.runtime arguments tree).1 = .error error)
      (half : ¬error.message.IsWhole) : BreaksRender tree setting arguments (.unencodable fault)
  | value {template : Text} {context : Entries} {descent : Descent}
      (found : (readRenderInput FileTree.system setting.runtime arguments tree).1 =
        .ok (template, context))
      (deep : (Engine.render (.text template) (.map context)
        { dialect := { runtime := setting.runtime } }).1 =
          .error (.unprintable (.tooDeep descent))) :
      BreaksRender tree setting arguments (.failure (.unprintable (.tooDeep descent)))
  | warning {template : Text} {context : Entries} {rendering : Rendering} {warning : Warning}
      {fault : Text.Utf8.Unencodable}
      (found : (readRenderInput FileTree.system setting.runtime arguments tree).1 =
        .ok (template, context))
      (rendered : (Engine.render (.text template) (.map context)
        { dialect := { runtime := setting.runtime } }).1 = .ok rendering)
      (shown : warning ∈ rendering.warnings) (half : ¬warning.message.IsWhole) :
      BreaksRender tree setting arguments (.unencodable fault)

theorem isWhole_longNumber (digits : Nat) : (Failure.longNumber digits).message.IsWhole :=
  (Text.isWhole_ofNat digits).between _ _

theorem isWhole_codeEscape (c : CodePoint) : (Text.codeEscape c).IsWhole := by
  have hescape (letter : Char) (width : Nat) :
      Text.IsWhole ('\\' :: letter :: Text.hexDigits width c.toNat) :=
    Text.isWhole_cons.mpr ⟨rfl, Text.isWhole_cons.mpr ⟨rfl, Text.isWhole_hexDigits _ _⟩⟩
  rw [Text.codeEscape]
  split
  · exact hescape 'x' 2
  · split
    · exact hescape 'u' 4
    · exact hescape 'U' 8

theorem isWhole_unencodable (fault : Text.Utf8.Unencodable) : fault.message.IsWhole := by
  rw [Text.Utf8.Unencodable.message]
  split <;> simp only [Text.isWhole_append, Text.isWhole_map, Text.isWhole_ofNat,
    isWhole_codeEscape, and_self]

theorem ends_render (tree : FileTree) (setting : Setting) (verbose : Bool)
    (arguments : Arguments) :
    (render (surroundings setting verbose) arguments).Ends tree (fun _ after => after = tree)
      (Explained setting.palette .render tree (BreaksRender tree setting arguments)) := by
  have habort (left : Transcript) (h : left.EndsInError setting.palette) :
      Explained setting.palette .render tree (BreaksRender tree setting arguments) .abort left
        tree := .abort (.refl tree) h
  have hgiveUp {message : Text} (h : message.IsWhole) :
      (Session.giveUp (surroundings setting verbose) errorHeading message :
        Session (StateM FileTree) Unit).Ends tree (fun _ after => after = tree)
        (Explained setting.palette .render tree (BreaksRender tree setting arguments)) :=
    Session.ends_giveUp templateHeading_mem habort fun hbroken => absurd h hbroken
  rw [render]
  refine Session.ends_read (onlyReads_readRenderInput _ _) ?_
  cases hinput : (readRenderInput (surroundings setting verbose).system
      (surroundings setting verbose).runtime arguments tree).1 with
  | error error =>
      dsimp only
      split
      · rename_i crash hcrash
        obtain ⟨descent, rfl, rfl⟩ := InputError.exists_of_crash? hcrash
        exact Session.ends_throw (Explained.crash (.refl tree) (.context hinput))
      · exact Session.ends_giveUp templateHeading_mem habort fun hhalf fault left =>
          .crash (.refl tree) (.message hinput hhalf) left
  | ok input =>
      obtain ⟨template, context⟩ := input
      have hdata := isPageData_of_readRenderInput hinput
      have hfails : FailsOnly Failure.StopsData (Engine.render (.text template) (.map context)
          { dialect := { runtime := setting.runtime } }).1 :=
        Engine.failsOnly_render_of_isPageData template
          (FilterTable.keepsData_builtin setting.runtime) rfl hdata
      dsimp only
      cases hrender : (Engine.render (.text template) (.map context)
          { dialect := { runtime := (surroundings setting verbose).runtime } }).1 with
      | error failure =>
          cases hfails.fails failure hrender with
          | longNumber digits => exact hgiveUp (isWhole_longNumber digits)
          | tooDeep descent =>
              exact Session.ends_throw (Explained.crash (.refl tree) (.value hinput hrender))
      | ok rendering =>
          refine (Session.passes_reportRendering _ _).bind fun _ => ?_
          split
          · exact hgiveUp (isWhole_unencodable _)
          · refine (Session.passes_put _).bind fun _ => ?_
            exact Session.ends_showWarnings rfl fun warning hshown hhalf fault left =>
              .crash (.refl tree) (.warning hinput hrender hshown hhalf) left

def templateOf (tree : FileTree) (arguments : Arguments) : Except InputError Text :=
  (readTemplateText FileTree.system arguments tree).1

def validationOf (setting : Setting) (arguments : Arguments) (template : Text) : Validation :=
  let strictness := ((arguments.value? "--level").bind Strictness.ofName?).getD .standard
  (Engine.validate { strictness } (some template) { dialect := { runtime := setting.runtime } }).1

/-- The texts in a report on a template that are not its own. -/
def reportedTexts (validation : Validation) : List Text :=
  findingMessages validation.errors ++ findingMessages validation.warnings ++
    validation.variableNames

/-- What makes a call of the command that checks templates break down on a file tree. -/
inductive BreaksValidate (tree : FileTree) (setting : Setting) (arguments : Arguments) :
    Crash → Prop
  | encoding {fault : Text.Utf8.Malformed}
      (malformed : templateOf tree arguments = .error (.encoding fault)) :
      BreaksValidate tree setting arguments (.encoding fault)
  | message {error : InputError} {fault : Text.Utf8.Unencodable}
      (failed : templateOf tree arguments = .error error) (half : ¬error.message.IsWhole) :
      BreaksValidate tree setting arguments (.unencodable fault)
  | words {template text : Text} {fault : Text.Utf8.Unencodable}
      (found : templateOf tree arguments = .ok template)
      (inWords : arguments.value? "--format" ≠ some "json")
      (shown : text ∈ reportedTexts (validationOf setting arguments template))
      (half : ¬text.IsWhole) : BreaksValidate tree setting arguments (.unencodable fault)
  /-- The names of the variables, which are shown as markup, hold a closing tag. -/
  | markup {template : Text} (found : templateOf tree arguments = .ok template)
      (inWords : arguments.value? "--format" ≠ some "json")
      (closing : [.char '[', .char '/'] <:+: Text.join ", "
        (validationOf setting arguments template).variableNames) :
      BreaksValidate tree setting arguments .markup
  | digits {template : Text} {measures : Measures} {error : PrintError}
      (found : templateOf tree arguments = .ok template)
      (inJson : arguments.value? "--format" = some "json")
      (measured : (validationOf setting arguments template).measures = some measures)
      (long : ∃ n ∈ [measures.length, measures.lines, measures.placeholders,
        measures.variableCount], integerDigitLimit < (Text.ofNat n).length) :
      BreaksValidate tree setting arguments (.failure (.unprintable error))

theorem ends_readTemplate (tree : FileTree) (setting : Setting) (verbose : Bool)
    (arguments : Arguments) :
    (readTemplate (surroundings setting verbose) arguments).Ends tree
      (fun template after => after = tree ∧ templateOf tree arguments = .ok template)
      (Explained setting.palette .validate tree (BreaksValidate tree setting arguments)) := by
  rw [readTemplate]
  refine Session.ends_read (onlyReads_readTemplateText arguments) ?_
  cases htemplate : (readTemplateText (surroundings setting verbose).system arguments tree).1 with
  | ok template => exact Session.ends_pure ⟨rfl, htemplate⟩
  | error error =>
      cases error with
      | encoding fault =>
          exact Session.ends_throw (Explained.crash (.refl tree) (.encoding htemplate))
      | _ =>
          exact Session.ends_giveUp readingHeading_mem
            (fun left htold => .abort (.refl tree) htold) fun hhalf fault left =>
            .crash (.refl tree) (.message htemplate hhalf) left

theorem isPageData_textList (texts : List Text) : (textList texts).IsPageData := by
  refine .list fun item hitem => ?_
  obtain ⟨text, -, rfl⟩ := List.mem_map.mp hitem
  exact .text text

theorem isPageData_measuresValue {measures : Option Measures}
    (h : ∀ found, measures = some found → ∀ n ∈ [found.length, found.lines, found.placeholders,
      found.variableCount], (Text.ofNat n).length ≤ integerDigitLimit) :
    (measuresValue measures).IsPageData := by
  cases measures with
  | none => exact .map (by simp) (by simpa using Value.IsPageData.bool true)
  | some found =>
      have hshort (n : Nat) (hn : n ∈ [found.length, found.lines, found.placeholders,
          found.variableCount]) : (Value.int n).IsPageData := .int (h found rfl n hn)
      refine .map (by simp) ?_
      simp only [List.forall_mem_cons]
      exact ⟨hshort _ (by simp), hshort _ (by simp), hshort _ (by simp), hshort _ (by simp),
        isPageData_textList _, by simp⟩

theorem isPageData_validationValue {validation : Validation}
    (h : (measuresValue validation.measures).IsPageData) :
    (validationValue validation).IsPageData := by
  refine .map (by simp) ?_
  simp only [List.forall_mem_cons]
  exact ⟨.bool _, isPageData_textList _, isPageData_textList _, isPageData_textList _, h, by simp⟩

theorem ends_showLines {tree : FileTree} {lines : List Text} {p : Unit → FileTree → Prop}
    {r : Stop → Transcript → FileTree → Prop} (hp : p () tree)
    (hhalf : ∀ line ∈ lines, ¬line.IsWhole →
      ∀ fault left, r (.crash (.unencodable fault)) left tree) :
    (showLines lines : Session (StateM FileTree) Unit).Ends tree p r := by
  induction lines with
  | nil => exact Session.ends_pure hp
  | cons line rest ih =>
      obtain ⟨hline, hrest⟩ := List.forall_mem_cons.mp hhalf
      refine Session.Ends.bind (p := fun _ after => after = tree)
        (Session.ends_write rfl fun hbroken => hline fun hwhole => hbroken ?_) ?_
      · exact Screen.isWhole_shown hwhole
      · rintro _ tree rfl
        exact ih hrest

theorem ends_showFindings {tree : FileTree} {setting : Setting} {verbose : Bool} {heading : Text}
    {findings : List Finding} {r : Stop → Transcript → FileTree → Prop}
    (hheading : Markup.Shows setting.palette [] heading) (hwhole : heading.IsWhole)
    (hhalf : ∀ text ∈ findingMessages findings, ¬text.IsWhole →
      ∀ fault left, r (.crash (.unencodable fault)) left tree) :
    (showFindings (surroundings setting verbose) heading findings :
      Session (StateM FileTree) Unit).Ends tree (fun _ after => after = tree) r := by
  rw [showFindings]
  split
  · refine (Session.passes_print hheading hwhole).bind fun _ => ends_showLines rfl ?_
    intro line hline hbroken
    obtain ⟨text, htext, rfl⟩ := List.mem_map.mp hline
    exact hhalf text htext fun hwhole =>
      hbroken (Text.isWhole_append.mpr ⟨Text.isWhole_map _, hwhole⟩)
  · exact Session.ends_pure rfl

theorem shows_count (palette : Markup.Palette) (n : Nat) :
    Markup.Shows palette [] (("[dim]Placeholders:[/dim] " : Text) ++ Text.ofNat n) := by
  have hdigits : Markup.Shows palette [] (Text.ofNat n ++ []) := by
    refine Markup.Shows.append (Markup.isPlain_iff.mpr fun c hc => ?_) (Markup.shows_nil [])
    have hdigit := Text.isDigit_of_mem_ofNat hc
    constructor
    · rintro rfl
      cases hdigit
    · rintro rfl
      cases hdigit
  rw [List.append_nil] at hdigits
  exact Markup.shows_line [] "dim" "Placeholders:" " " (by decide) (by decide) (by decide) hdigits

theorem ends_showValidation {tree : FileTree} {setting : Setting} {verbose : Bool}
    {validation : Validation} {r : Stop → Transcript → FileTree → Prop}
    (hhalf : ∀ text ∈ reportedTexts validation, ¬text.IsWhole →
      ∀ fault left, r (.crash (.unencodable fault)) left tree)
    (hcrash : [.char '[', .char '/'] <:+: Text.join ", " validation.variableNames →
      ∀ left, r (.crash .markup) left tree) :
    (showValidation (surroundings setting verbose) validation :
      Session (StateM FileTree) Unit).Ends tree
      (fun _ after => after = tree) r := by
  have hnil : Markup.Shows setting.palette [] [] := Markup.shows_nil []
  have houtcome : Markup.Shows setting.palette []
    (if validation.isValid then "✅ [green]Template is valid[/green]"
      else "❌ [red]Template validation failed[/red]") := by
    rw [← List.append_nil (ite _ _ _)]
    split
    · exact Markup.shows_line "✅ " "green" "Template is valid" [] (by decide) (by decide)
        (by decide) hnil
    · exact Markup.shows_line "❌ " "red" "Template validation failed" [] (by decide) (by decide)
        (by decide) hnil
  have herrors : Markup.Shows setting.palette [] "\n[red]Errors:[/red]" := by
    rw [← List.append_nil (List.map CodePoint.char _)]
    exact Markup.shows_line "\n" "red" "Errors:" [] (by decide) (by decide) (by decide) hnil
  have hwarnings : Markup.Shows setting.palette [] "\n[yellow]Warnings:[/yellow]" := by
    rw [← List.append_nil (List.map CodePoint.char _)]
    exact Markup.shows_line "\n" "yellow" "Warnings:" [] (by decide) (by decide) (by decide) hnil
  have hcount := shows_count setting.palette ((validation.measures.map (·.placeholders)).getD 0)
  have hprint : (Session.print (surroundings setting verbose)
    (("\n[dim]Template variables:[/dim] " : Text) ++
      Text.join ", " validation.variableNames) : Session (StateM FileTree) Unit).Ends tree
      (fun _ after => after = tree) r := by
    have hnames : ¬Text.IsWhole (("\n[dim]Template variables:[/dim] " : Text) ++
        Text.join ", " validation.variableNames) →
        ∃ text ∈ validation.variableNames, ¬text.IsWhole := by
      intro hbroken
      by_contra hall
      push Not at hall
      exact hbroken (Text.isWhole_append.mpr
        ⟨Text.isWhole_map _, Text.isWhole_join (Text.isWhole_map _) hall⟩)
    refine Session.ends_print rfl (fun hbroken => ?_) fun hnone => hcrash ?_
    · obtain ⟨text, htext, hbroken⟩ := hnames hbroken
      exact hhalf text (List.mem_append_right _ htext) hbroken
    by_contra hclosing
    have hnames : Markup.Shows setting.palette []
        (("\n[dim]Template variables:[/dim] " : Text) ++
          Text.join ", " validation.variableNames) :=
      Markup.shows_line "\n" "dim" "Template variables:" " " rfl (by decide) (by decide)
        (Markup.shows_of_no_closing [] hclosing)
    obtain ⟨text, htext⟩ := hnames.exists_visible?
    cases hnone.symm.trans htext
  have houtcomeWhole : Text.IsWhole (if validation.isValid then "✅ [green]Template is valid[/green]"
      else "❌ [red]Template validation failed[/red]") := by
    split <;> exact Text.isWhole_map _
  rw [showValidation]
  refine (Session.passes_print houtcome houtcomeWhole).bind fun _ => ?_
  refine (ends_showFindings herrors (Text.isWhole_map _) fun text htext => ?_).bind ?_
  · exact hhalf text (List.mem_append_left _ (List.mem_append_left _ htext))
  rintro _ tree rfl
  refine (ends_showFindings hwarnings (Text.isWhole_map _) fun text htext => ?_).bind ?_
  · exact hhalf text (List.mem_append_left _ (List.mem_append_right _ htext))
  rintro _ tree rfl
  refine hprint.bind ?_
  rintro _ tree rfl
  have hcountWhole : Text.IsWhole (("[dim]Placeholders:[/dim] " : Text) ++
      Text.ofNat ((validation.measures.map (·.placeholders)).getD 0)) :=
    Text.isWhole_append.mpr ⟨Text.isWhole_map _, Text.isWhole_ofNat _⟩
  exact (Session.passes_print hcount hcountWhole).ends fun _ => rfl

theorem nesting_textList (texts : List Text) : (textList texts).nesting = 1 := by
  rw [textList, Value.nesting]
  induction texts with
  | nil => rfl
  | cons text rest ih => simpa [Value.itemsNesting, Value.nesting] using ih

theorem nesting_measuresValue_le (measures : Option Measures) :
    (measuresValue measures).nesting ≤ 2 := by
  cases measures with
  | none => exact Nat.le_succ 1
  | some measures =>
      simp [measuresValue, Value.nesting, Value.entriesNesting, nesting_textList]

theorem nesting_validationValue_le (validation : Validation) :
    (validationValue validation).nesting ≤ 3 := by
  have hmeasures := nesting_measuresValue_le validation.measures
  simp only [validationValue, Value.nesting, Value.entriesNesting, nesting_textList]
  omega

theorem exists_print_validationValue (runtime : Runtime) {validation : Validation}
    (h : ∀ measures, validation.measures = some measures →
    ∀ n ∈ [measures.length, measures.lines, measures.placeholders, measures.variableCount],
      (Text.ofNat n).length ≤ integerDigitLimit) :
    ∃ text, Json.print reportLayout runtime.room (validationValue validation) = .ok text := by
  have hdata := isPageData_validationValue (isPageData_measuresValue h)
  have hroom : (validationValue validation).nesting ≤ runtime.room :=
    (nesting_validationValue_le validation).trans ((by decide : 3 ≤ 64).trans runtime.enough)
  exact (Json.takes_write hdata reportLayout runtime.room 0).exists_ok hroom

theorem ends_validate (tree : FileTree) (setting : Setting) (verbose : Bool)
    (arguments : Arguments) :
    (validate (surroundings setting verbose) arguments).Ends tree (fun _ after => after = tree)
      (Explained setting.palette .validate tree (BreaksValidate tree setting arguments)) := by
  rw [validate]
  refine (ends_readTemplate tree setting verbose arguments).bind ?_
  rintro template tree ⟨rfl, hfound⟩
  have hinvalid : ((if !(validationOf setting arguments template).isValid then throw (.status 1)
      else pure () : Session (StateM FileTree) Unit)).Ends tree (fun _ after => after = tree)
      (Explained setting.palette .validate tree (BreaksValidate tree setting arguments)) := by
    split
    · exact Session.ends_throw fun left => ⟨.refl tree, .inl (.invalid rfl)⟩
    · exact Session.ends_pure rfl
  dsimp only
  split
  · rename_i hjson
    cases hprint : Json.print reportLayout (surroundings setting verbose).runtime.room
        (validationValue (validationOf setting arguments template)) with
    | ok text =>
        change Json.print reportLayout (surroundings setting verbose).runtime.room (validationValue
          (Engine.validate _ (some template)
            { dialect := { runtime := (surroundings setting verbose).runtime } }).1) = _ at hprint
        rw [hprint]
        have hwhole : (text ++ [CodePoint.char '\n']).IsWhole :=
          Text.isWhole_append.mpr ⟨Json.isWhole_write rfl hprint, by decide⟩
        exact (Session.passes_write hwhole).bind fun _ => hinvalid
    | error error =>
        have hbreaks : BreaksValidate tree setting arguments (.failure (.unprintable error)) := by
          by_contra hshort
          obtain ⟨text, htext⟩ := exists_print_validationValue setting.runtime
            fun measures hmeasured n hn => by
            by_contra hlong
            exact hshort (.digits hfound hjson hmeasured ⟨n, hn, Nat.not_le.mp hlong⟩)
          cases hprint.symm.trans htext
        change Json.print reportLayout (surroundings setting verbose).runtime.room (validationValue
          (Engine.validate _ (some template)
            { dialect := { runtime := (surroundings setting verbose).runtime } }).1) = _ at hprint
        rw [hprint]
        exact Session.ends_throw_bind (Explained.crash (.refl tree) hbreaks)
  · rename_i htext
    refine Session.Ends.bind (p := fun _ after => after = tree) (ends_showValidation ?_ ?_) ?_
    · exact fun reported hreported hhalf fault left =>
        .crash (.refl tree) (.words hfound htext hreported hhalf) left
    · exact fun hclosing => Explained.crash (.refl tree) (.markup hfound htext hclosing)
    · rintro _ tree rfl
      exact hinvalid

theorem ends_validate_of_malformed {tree : FileTree} (setting : Setting) (verbose : Bool)
    {arguments : Arguments} {fault : Text.Utf8.Malformed}
    (h : templateOf tree arguments = .error (.encoding fault)) :
    (validate (surroundings setting verbose) arguments).Ends tree (fun _ _ => False)
      fun stop _ after => stop = .crash (.encoding fault) ∧ after = tree := by
  rw [validate, readTemplate]
  refine Session.Ends.bind (p := fun _ _ => False) ?_ fun _ _ hnever => hnever.elim
  refine Session.ends_read (onlyReads_readTemplateText arguments) ?_
  have hfound : (readTemplateText (surroundings setting verbose).system arguments tree).1 =
      .error (.encoding fault) := h
  rw [hfound]
  exact Session.ends_throw fun _ => ⟨rfl, rfl⟩

end Clippings.Command
