import Clippings.Note.Clip
import Clippings.Proofs.Note.Building
import Clippings.Proofs.Template.Failing

namespace Clippings

namespace Failure

def Reported (failure : Failure) : Prop := failure.isReported = true

/-- What ends a clip: what is reported, a value that is nested too deep to be shown, or what a place
of variables raises. -/
inductive StopsClip (places : List VariablePlace) : Failure → Prop
  | reported {failure : Failure} (h : failure.Reported) : StopsClip places failure
  | tooDeep (descent : Descent) : StopsClip places (.unprintable (.tooDeep descent))
  | place {place : VariablePlace} {failure : Failure} (member : place ∈ places)
      (raises : place.Raises failure) : StopsClip places failure

theorem stopsClip_unprintable (places : List VariablePlace) (e : PrintError) :
    (unprintable e).StopsClip places := by
  cases e with
  | tooManyDigits => exact .reported rfl
  | badKey kind => exact .reported rfl
  | tooDeep descent => exact .tooDeep descent

theorem StopsRendering.stopsClip {places : List VariablePlace} {failure : Failure}
    (h : failure.StopsRendering places) : failure.StopsClip places := by
  cases h with
  | place member raises => exact .place member raises
  | unprintable e => exact stopsClip_unprintable places e

end Failure

theorem Entries.failsOnly_insertPairs (pairs : List (Value × Nat)) (entries : Entries) :
    FailsOnly Failure.Reported (insertPairs pairs entries) := by
  fun_induction insertPairs pairs entries with
  | case1 entries => exact .ok trivial
  | case2 => exact .error rfl
  | case3 => exact .error rfl
  | case4 entries pair index rest key value hpair hkey ih => exact ih
  | case5 => exact .error rfl

theorem Entries.failsOnly_insertFrom (entries : Entries) (value : Value) :
    FailsOnly Failure.Reported (entries.insertFrom value) := by
  rw [insertFrom.eq_def]
  split
  · exact .ok trivial
  · split
    · exact .error rfl
    · exact failsOnly_insertPairs _ _

theorem failsOnly_contextFor (now : Calendar.Moment) (content extra : Value) :
    FailsOnly Failure.Reported (contextFor now content extra) := by
  refine (Entries.failsOnly_insertFrom [] content).bind fun page _ => ?_
  show FailsOnly _ (if extra.isTruthy then (page.withDate now).insertFrom extra else _)
  split
  · exact Entries.failsOnly_insertFrom _ extra
  · exact .ok trivial

namespace Dialect

theorem failsOnly_renderProperties {p : Failure → Prop} {dialect : Dialect} {context : Value}
    (h : ∀ text, FailsOnly p (dialect.render text context)) (properties : List PropertyTemplate) :
    FailsOnly p (dialect.renderProperties context properties) := by
  induction properties with
  | nil => exact .ok trivial
  | cons property rest ih =>
      exact (h property.value).bind fun rendering _ => ih.bind fun others _ => .ok trivial

theorem failsOnly_buildNote {p : Failure → Prop} {dialect : Dialect} {context : Value}
    (h : ∀ text, FailsOnly p (dialect.render text context)) (template : NoteTemplate) :
    FailsOnly p (dialect.buildNote template context) := by
  refine (h template.nameFormat).bind fun name _ => ?_
  refine (h template.path).bind fun folder _ => ?_
  refine (failsOnly_renderProperties h template.properties).bind fun others _ => ?_
  exact (h template.content).bind fun body _ => .ok trivial

end Dialect

theorem Engine.failsOnly_buildNote (template : NoteTemplate) (context : Entries) (engine : Engine) :
    FailsOnly (Failure.StopsRendering engine.dialect.places)
      (engine.buildNote template (.map context)).1 := by
  rw [(computes_buildNote template (.map context) rfl).outcome_eq]
  exact Dialect.failsOnly_buildNote (fun text => Dialect.failsOnly_renderText
    (engine.dialect.failsOnly_renderExpression context) text) template

theorem Engine.failsOnly_buildNote_of_isPageData (template : NoteTemplate) {context : Entries}
    {engine : Engine} (hfilters : engine.dialect.filters.KeepsData)
    (hplaces : engine.dialect.places = VariablePlace.builtin)
    (hcontext : (Value.map context).IsPageData) :
    FailsOnly Failure.StopsData (engine.buildNote template (.map context)).1 := by
  rw [(computes_buildNote template (.map context) rfl).outcome_eq]
  exact Dialect.failsOnly_buildNote (fun text => Dialect.failsOnly_renderText
    (Dialect.failsOnly_renderExpression_of_isPageData hfilters hplaces hcontext) text) template

theorem failsOnly_plainEntry (places : List VariablePlace) (runtime : Runtime) (key : Text)
    (context : Entries) :
    FailsOnly (Failure.StopsClip places) (plainEntry runtime key context) := by
  rw [plainEntry]
  split
  · split
    · exact .mapError (Failure.stopsClip_unprintable places)
    · exact .ok trivial
  · exact .ok trivial

namespace Engine

theorem failsOnly_andThen {α β : Type} {p : Failure → Prop} {step : Except Failure α × Engine}
    {next : α → Engine → Except Failure β × Engine} (hstep : FailsOnly p step.1)
    (hnext : ∀ a, FailsOnly p (next a step.2).1) : FailsOnly p (andThen step next).1 := by
  obtain ⟨result, engine⟩ := step
  cases result with
  | error failure => exact .error (hstep.fails failure rfl)
  | ok a => exact hnext a

theorem failsOnly_render_value (template : Value) (context : Entries) (engine : Engine) :
    FailsOnly (Failure.StopsClip engine.dialect.places)
      (engine.render template (.map context)).1 := by
  cases template with
  | text s => exact (engine.failsOnly_render s context).mono (fun _ h => h.stopsClip) fun _ h => h
  | _ => exact .error (.reported rfl)

theorem failsOnly_clipIn (form : ClipForm) (context : Entries) (engine : Engine) :
    FailsOnly (Failure.StopsClip engine.dialect.places) (engine.clipIn form context).1 := by
  refine failsOnly_andThen (failsOnly_plainEntry _ _ "title" context) fun title => ?_
  cases form with
  | note template =>
      have hbuild := (engine.failsOnly_buildNote template context).mono (fun _ h => h.stopsClip)
        fun _ h => h
      refine failsOnly_andThen hbuild fun build => ?_
      exact failsOnly_andThen (.mapError (Failure.stopsClip_unprintable _))
        fun content => .ok trivial
  | text template =>
      exact failsOnly_andThen (engine.failsOnly_render_value template context)
        fun rendering => .ok trivial
  | page =>
      exact failsOnly_andThen (failsOnly_plainEntry _ _ "markdown" context)
        fun content => .ok trivial

theorem failsOnly_clip (now : Calendar.Moment) (content : Value) (form : ClipForm) (extra : Value)
    (engine : Engine) :
    FailsOnly (Failure.StopsClip engine.dialect.places)
      (engine.clip now content form extra).1 :=
  failsOnly_andThen
    ((failsOnly_contextFor now content extra).mono (fun _ h => .reported h) fun _ h => h)
    fun context => engine.failsOnly_clipIn form context

variable {now : Calendar.Moment} {content : ClipContent} {form : ClipForm} {extra : Value}
  {engine : Engine}

theorem reportClip_fst :
    (engine.reportClip now content form extra).1 =
      match (engine.clip now content.value form extra).1 with
      | .ok clip => .ok (clip.report, [])
      | .error failure =>
          if failure.isReported then .ok (failure.report, [failure.clipReport])
          else .error failure := by
  rw [reportClip]
  rcases engine.clip now content.value form extra with ⟨failure | clip, after⟩
  · dsimp only
    split <;> rfl
  · rfl

theorem exists_of_reportClip_eq_ok {report : ClipReport} {log : List Text}
    (h : (engine.reportClip now content form extra).1 = .ok (report, log)) :
    (∃ clip : Clip, report = clip.report ∧ log = []) ∨
      ∃ failure : Failure, report = failure.report ∧ log = [failure.clipReport] := by
  rw [reportClip_fst] at h
  split at h
  · next clip _ =>
    obtain ⟨rfl, rfl⟩ := Prod.mk.inj (Except.ok.inj h)
    exact .inl ⟨clip, rfl, rfl⟩
  · next failure _ =>
    split at h
    · obtain ⟨rfl, rfl⟩ := Prod.mk.inj (Except.ok.inj h)
      exact .inr ⟨failure, rfl, rfl⟩
    · cases h

theorem stopsClip_of_reportClip_eq_error {failure : Failure}
    (h : (engine.reportClip now content form extra).1 = .error failure) :
    failure.isReported = false ∧ failure.StopsClip engine.dialect.places := by
  rw [reportClip_fst] at h
  split at h
  · cases h
  · next other hclip =>
    split at h
    · cases h
    · next hreported =>
      obtain rfl := Except.error.inj h
      exact ⟨Bool.eq_false_iff.mpr hreported, (failsOnly_clip ..).fails other hclip⟩

/-- Whatever page, template and variables a clip is made from and whatever the filters do, it has a
report unless a value is nested too deep to be shown or a place of variables raises something that
is not reported; the usual places raise nothing of that kind. A report tells an error exactly if
there is no clip, and then it holds nothing else, and one line with the error is logged. -/
theorem reportClip_cases (now : Calendar.Moment) (content : ClipContent) (form : ClipForm)
    (extra : Value) (engine : Engine) :
    (∀ report log, (engine.reportClip now content form extra).1 = .ok (report, log) →
      (report.success = false ↔ report.error ≠ none) ∧
        (report.success = true → log = []) ∧
        (report.success = false →
          report.content = [] ∧ report.fileName = [] ∧ report.path = none ∧
            report.metadata = [] ∧ report.warnings = [] ∧
            ∃ message, report.error = some message ∧
              log = [("Clip failed: " : Text) ++ message])) ∧
      (∀ failure, (engine.reportClip now content form extra).1 = .error failure →
        (∃ descent, failure = .unprintable (.tooDeep descent)) ∨
          failure.isReported = false ∧ ∃ place ∈ engine.dialect.places, place.Raises failure) ∧
      (engine.dialect.places = VariablePlace.builtin →
        ∀ failure, (engine.reportClip now content form extra).1 = .error failure →
          ∃ descent, failure = .unprintable (.tooDeep descent)) := by
  have hstops : ∀ failure, (engine.reportClip now content form extra).1 = .error failure →
      (∃ descent, failure = .unprintable (.tooDeep descent)) ∨
        failure.isReported = false ∧ ∃ place ∈ engine.dialect.places, place.Raises failure := by
    intro failure hfailure
    obtain ⟨hreported, hstops⟩ := stopsClip_of_reportClip_eq_error hfailure
    cases hstops with
    | reported h => exact Bool.noConfusion (hreported.symm.trans h)
    | tooDeep descent => exact .inl ⟨descent, rfl⟩
    | place member raises => exact .inr ⟨hreported, _, member, raises⟩
  refine ⟨?_, hstops, ?_⟩
  · intro report log hreport
    rcases exists_of_reportClip_eq_ok hreport with ⟨clip, rfl, rfl⟩ | ⟨failure, rfl, rfl⟩
    · refine ⟨by simp [Clip.report], fun _ => rfl, fun h => ?_⟩
      simp [Clip.report] at h
    · refine ⟨by simp [Failure.report], fun h => ?_, fun _ => ?_⟩
      · simp [Failure.report] at h
      · exact ⟨rfl, rfl, rfl, rfl, rfl, failure.message, rfl, rfl⟩
  · intro hplaces failure hfailure
    rcases hstops failure hfailure with hdeep | ⟨hreported, place, hplace, hraises⟩
    · exact hdeep
    · rw [hplaces] at hplace
      obtain ⟨digits, rfl⟩ := VariablePlace.isLongNumber_of_raises hplace hraises
      cases hreported

/-- A filter reads what is too deep to be shown, and then there is no report. -/
theorem reportClip_nestedJson :
    ¬ ∃ report log, (({} : Engine).reportClip { date := ⟨2024, 5, 1⟩ }
      (.data (.map [(.text "title", .text "T"), (.text "content", .text nestedJson)]))
      (.text (.text "\x7b\x7bcontent|parse_json\x7d\x7d")) .null).1 = .ok (report, log) := by
  rintro ⟨report, log, hreport⟩
  have hfails : (({} : Engine).reportClip { date := ⟨2024, 5, 1⟩ }
      (.data (.map [(.text "title", .text "T"), (.text "content", .text nestedJson)]))
      (.text (.text "\x7b\x7bcontent|parse_json\x7d\x7d")) .null).1.isOk = false := by
    decide +kernel
  rw [hreport] at hfails
  cases hfails

end Engine

end Clippings
