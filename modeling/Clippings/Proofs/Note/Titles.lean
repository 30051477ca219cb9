import Clippings.Note.Clip
import Clippings.Proofs.Note.Building
import Clippings.Proofs.Note.Naming
import Clippings.Proofs.Value.Entries
import Clippings.Proofs.Variable.Resolution

namespace Clippings

theorem Entries.exists_of_insertPairs_cons {pair : Value} {index : Nat}
    {rest : List (Value × Nat)} {entries result : Entries}
    (h : insertPairs ((pair, index) :: rest) entries = .ok result) :
    ∃ key value, pair.elements? = some [key, value] ∧
      insertPairs rest (entries.insert key value) = .ok result := by
  simp only [insertPairs] at h
  split at h
  · cases h
  · next key value hpair =>
    split at h
    · cases h
    · exact ⟨key, value, hpair, h⟩
  · cases h

theorem Entries.getText?_insertPairs_congr {first second a b : Entries} {name : Text}
    (h : first.getText? name = second.getText? name) {pairs : List (Value × Nat)}
    (ha : insertPairs pairs first = .ok a) (hb : insertPairs pairs second = .ok b) :
    a.getText? name = b.getText? name := by
  induction pairs generalizing first second with
  | nil =>
      obtain rfl := Except.ok.inj ha
      obtain rfl := Except.ok.inj hb
      exact h
  | cons pair rest ih =>
      obtain ⟨key, value, hpair, ha⟩ := exists_of_insertPairs_cons ha
      obtain ⟨key', value', hpair', hb⟩ := exists_of_insertPairs_cons hb
      simp only [hpair, Option.some.injEq, List.cons.injEq, and_true] at hpair'
      obtain ⟨rfl, rfl⟩ := hpair'
      exact ih (getText?_insert_congr h key value) ha hb

theorem Entries.getText?_insertFrom_congr {first second a b : Entries} {name : Text}
    (h : first.getText? name = second.getText? name) {value : Value}
    (ha : first.insertFrom value = .ok a) (hb : second.insertFrom value = .ok b) :
    a.getText? name = b.getText? name := by
  cases value with
  | map new =>
      obtain rfl := Except.ok.inj ha
      obtain rfl := Except.ok.inj hb
      exact getText?_insertAll_congr h new
  | list items | tuple items | text s => exact getText?_insertPairs_congr h ha hb
  | _ => cases ha

theorem Entries.getText?_withDate {name : Text} (hname : name ≠ "date") (now : Calendar.Moment)
    (entries : Entries) : (entries.withDate now).getText? name = entries.getText? name := by
  rw [withDate]
  split
  · rfl
  · exact getText?_insert_of_ne (fun heq => hname (Value.text.inj heq).symm) _ _

theorem getText?_contextFor {now later : Calendar.Moment} {content extra : Value} {a b : Entries}
    (ha : contextFor now content extra = .ok a) (hb : contextFor later content extra = .ok b)
    {name : Text} (hname : name ≠ "date") : a.getText? name = b.getText? name := by
  obtain ⟨page, hpage, ha⟩ := Except.exists_of_bind_eq_ok ha
  obtain ⟨other, hother, hb⟩ := Except.exists_of_bind_eq_ok hb
  obtain rfl := Except.ok.inj (hpage.symm.trans hother)
  have hdated : (page.withDate now).getText? name = (page.withDate later).getText? name := by
    rw [Entries.getText?_withDate hname, Entries.getText?_withDate hname]
  simp only at ha hb
  split at ha
  · next htruthy =>
    rw [if_pos htruthy] at hb
    exact Entries.getText?_insertFrom_congr hdated ha hb
  · next htruthy =>
    rw [if_neg htruthy] at hb
    obtain rfl := Except.ok.inj ha
    obtain rfl := Except.ok.inj hb
    exact hdated

section Title

variable {context : Entries} {title : Text}
  (htitle : orEmpty (context.getText? "title") = .text title)
include htitle

theorem plainEntry_title (runtime : Runtime) : plainEntry runtime "title" context = .ok title := by
  rw [plainEntry]
  cases hvalue : context.getText? "title" with
  | none =>
      rw [hvalue] at htitle
      obtain rfl := Value.text.inj htitle
      rfl
  | some value =>
      rw [hvalue] at htitle
      cases value with
      | null =>
          obtain rfl := Value.text.inj htitle
          rfl
      | text s =>
          obtain rfl := Value.text.inj htitle
          cases s <;> rfl
      | _ => cases htitle

theorem Dialect.render_default_nameFormat (runtime : Runtime) :
    ({ runtime } : Dialect).render NoteTemplate.default.nameFormat (.map context) =
      .ok { output := Text.safeName title } := by
  have hvalue : ({ runtime } : Dialect).evaluate (Expression.parse "title|safe_name")
      (.map context) = .ok (.text (Text.safeName title), []) := by
    show (followPath [.key "title"] (.map context) >>= _) = _
    rw [followPath_key, htitle]
    rfl
  exact renderText_of_evaluate rfl hvalue rfl

end Title

namespace Engine

theorem exists_of_andThen_eq_ok {α β : Type} {step : Except Failure α × Engine}
    {next : α → Engine → Except Failure β × Engine} {b : β} (h : (andThen step next).1 = .ok b) :
    ∃ a, step.1 = .ok a ∧ (next a step.2).1 = .ok b := by
  obtain ⟨result, engine⟩ := step
  cases result with
  | error failure => cases h
  | ok a => exact ⟨a, rfl, h⟩

theorem fileName_of_clipIn {engine : Engine} {context : Entries} {title : Text}
    (htitle : orEmpty (context.getText? "title") = .text title) {form : ClipForm}
    (hform : ∀ template, form = .note template →
      template = .default ∧ engine.dialect = { runtime := engine.dialect.runtime })
    {clip : Clip} (h : (engine.clipIn form context).1 = .ok clip) :
    clip.fileName = Note.nameFor title := by
  obtain ⟨entry, hentry, h⟩ := exists_of_andThen_eq_ok h
  obtain rfl : entry = title := Except.ok.inj (hentry.symm.trans (plainEntry_title htitle _))
  cases form with
  | note template =>
      obtain ⟨rfl, hengine⟩ := hform template rfl
      obtain ⟨build, hbuild, h⟩ := exists_of_andThen_eq_ok h
      obtain ⟨content, -, h⟩ := exists_of_andThen_eq_ok h
      obtain rfl := Except.ok.inj h
      rw [(computes_buildNote _ _ hengine).outcome_eq] at hbuild
      obtain ⟨name, -, hname, -, hfile, -⟩ := Dialect.exists_of_buildNote_eq_ok hbuild
      obtain rfl := Except.ok.inj (hname.symm.trans (Dialect.render_default_nameFormat htitle _))
      exact hfile.trans (Note.nameFor_safeName _ _)
  | text template =>
      obtain ⟨rendering, -, h⟩ := exists_of_andThen_eq_ok h
      obtain rfl := Except.ok.inj h
      rfl
  | page =>
      obtain ⟨content, -, h⟩ := exists_of_andThen_eq_ok h
      obtain rfl := Except.ok.inj h
      rfl

def MakesClip (engine : Engine) (now : Calendar.Moment) (content : ClipContent) (form : ClipForm)
    (extra : Value) (report : ClipReport) : Prop :=
  ∃ log, (engine.reportClip now content form extra).1 = .ok (report, log) ∧ report.success = true

theorem MakesClip.exists_clip {engine : Engine} {now : Calendar.Moment} {content : ClipContent}
    {form : ClipForm} {extra : Value} {report : ClipReport}
    (h : engine.MakesClip now content form extra report) :
    ∃ context clip, contextFor now content.value extra = .ok context ∧
      (engine.clipIn form context).1 = .ok clip ∧ report.fileName = clip.fileName := by
  obtain ⟨log, hreport, hsuccess⟩ := h
  have hclip : ∃ clip, (engine.clip now content.value form extra).1 = .ok clip ∧
      report = clip.report := by
    rw [reportClip] at hreport
    split at hreport
    · next clip after heq =>
      obtain ⟨rfl, -⟩ := Prod.mk.inj (Except.ok.inj hreport)
      exact ⟨clip, by rw [heq], rfl⟩
    · next failure after heq =>
      split at hreport
      · obtain ⟨rfl, -⟩ := Prod.mk.inj (Except.ok.inj hreport)
        cases hsuccess
      · cases hreport
  obtain ⟨clip, hclip, rfl⟩ := hclip
  obtain ⟨context, hcontext, hclipIn⟩ := exists_of_andThen_eq_ok hclip
  exact ⟨context, clip, hcontext, hclipIn, rfl⟩

theorem exists_makesClip {engine : Engine} {now : Calendar.Moment} {content : ClipContent}
    {form : ClipForm} {extra : Value}
    (h : ((engine.reportClip now content form extra).1.toOption.map fun made => made.1.success) =
      some true) : ∃ report, engine.MakesClip now content form extra report := by
  obtain ⟨⟨report, log⟩, hreport, hsuccess⟩ := Option.map_eq_some_iff.mp h
  exact ⟨report, log, Except.toOption_eq_some_iff.mp hreport, hsuccess⟩

/-- The name of a file for a title is the one for its safe name. So the clips of a page, whose title
is a text or missing, have the same name of a file whether they are made by the template for pages
without one of their own, by rendering a text, or without a template. -/
theorem fileName_of_clips :
    (∀ title ending : Text, Note.nameFor (Text.safeName title) ending = Note.nameFor title ending) ∧
      ∀ {content : ClipContent} {extra : Value} {now : Calendar.Moment} {context : Entries}
        {title : Text}, contextFor now content.value extra = .ok context →
        orEmpty (context.getText? "title") = .text title →
        ∀ {first second third : Engine} {before between after : Calendar.Moment}
          {note rendered plain : ClipReport} (template : Text),
          first.dialect = { runtime := first.dialect.runtime } →
          first.MakesClip before content (.note .default) extra note →
          second.MakesClip between content (.text (.text template)) extra rendered →
          third.MakesClip after content .page extra plain →
          note.fileName = plain.fileName ∧ rendered.fileName = plain.fileName ∧
            plain.fileName = Note.nameFor title := by
  refine ⟨Note.nameFor_safeName, ?_⟩
  intro content extra now context title hcontext htitle first second third before between after
    note rendered plain template hfirst hnote hrendered hplain
  have hname : ∀ {engine : Engine} {later : Calendar.Moment} {form : ClipForm}
      {report : ClipReport},
      (∀ template, form = .note template →
        template = .default ∧ engine.dialect = { runtime := engine.dialect.runtime }) →
      engine.MakesClip later content form extra report → report.fileName = Note.nameFor title := by
    intro engine later form report hform h
    obtain ⟨other, clip, hother, hclip, hfile⟩ := h.exists_clip
    rw [← getText?_contextFor hother hcontext (by decide)] at htitle
    rw [hfile, fileName_of_clipIn htitle hform hclip]
  have hplainName := hname (by rintro _ ⟨⟩) hplain
  refine ⟨?_, ?_, hplainName⟩
  · rw [hplainName]
    refine hname ?_ hnote
    rintro _ ⟨⟩
    exact ⟨rfl, hfirst⟩
  · rw [hplainName]
    exact hname (by rintro _ ⟨⟩) hrendered

def numberedPage : ClipContent := .data (.map [(.text "title", .int 1)])

def userTitle : Value := .map [(.text "title", .text "A/B:\n C ")]

theorem fileName_of_clips_user_title :
    (∃ context, contextFor { date := ⟨2024, 6, 1⟩ } numberedPage.value userTitle = .ok context ∧
      orEmpty (context.getText? "title") = .text "A/B:\n C ") ∧
      ∃ note rendered plain,
        ({} : Engine).MakesClip { date := ⟨2024, 6, 1⟩ } numberedPage (.note .default) userTitle
          note ∧
        ({} : Engine).MakesClip { date := ⟨2024, 6, 2⟩ } numberedPage
          (.text (.text "\x7b\x7btitle\x7d\x7d")) userTitle rendered ∧
        ({} : Engine).MakesClip { date := ⟨2024, 6, 3⟩ } numberedPage .page userTitle plain ∧
        note.fileName = plain.fileName ∧ rendered.fileName = plain.fileName ∧
        plain.fileName = "AB C.md" := by
  obtain ⟨context, hcontext, htitle⟩ : ∃ context,
      contextFor { date := ⟨2024, 6, 1⟩ } numberedPage.value userTitle = .ok context ∧
        orEmpty (context.getText? "title") = .text "A/B:\n C " := ⟨_, rfl, rfl⟩
  obtain ⟨note, hnote⟩ : ∃ report, ({} : Engine).MakesClip { date := ⟨2024, 6, 1⟩ } numberedPage
      (.note .default) userTitle report := exists_makesClip (by decide +kernel)
  obtain ⟨rendered, hrendered⟩ : ∃ report, ({} : Engine).MakesClip { date := ⟨2024, 6, 2⟩ }
      numberedPage (.text (.text "\x7b\x7btitle\x7d\x7d")) userTitle report :=
    exists_makesClip (by decide +kernel)
  obtain ⟨plain, hplain⟩ : ∃ report, ({} : Engine).MakesClip { date := ⟨2024, 6, 3⟩ }
      numberedPage .page userTitle report := exists_makesClip (by decide +kernel)
  refine ⟨⟨context, hcontext, htitle⟩, note, rendered, plain, hnote, hrendered, hplain, ?_⟩
  exact fileName_of_clips.2 hcontext htitle _ rfl hnote hrendered hplain

end Engine

end Clippings
