import Clippings.Library.Loading
import Clippings.Proofs.Outcome

namespace Clippings.NoteTemplate

/-- Data describes templates: it is a mapping that is a template, or one that holds a list of
them. -/
inductive Describes : Value → List NoteTemplate → Prop
  | one {entries : Entries} {template : NoteTemplate}
      (single : entries.getText? "templates" = none)
      (valid : check (.map entries) = .valid template) : Describes (.map entries) [template]
  | many {entries : Entries} {items : List Value} {templates : List NoteTemplate}
      (list : entries.getText? "templates" = some (.list items))
      (valid : List.Forall₂ (fun item template => check item = .valid template) items templates) :
      Describes (.map entries) templates

def TextDescribes (runtime : Runtime) (text : Text) (templates : List NoteTemplate) : Prop :=
  ∃ document, Yaml.Document.ofText runtime.room text = .ok document ∧
    Describes document.value templates

def ContentDescribes (runtime : Runtime) (content : Bytes) (templates : List NoteTemplate) : Prop :=
  ∃ text, Text.Utf8.decode content = .ok text ∧
    TextDescribes runtime (Text.unifyLineEndings text) templates

variable {runtime : Runtime}

theorem checkAll_eq_ok_iff {source : Option FilePath} {index : Nat} {items : List Value}
    {templates : List NoteTemplate} :
    checkAll source index items = .ok templates ↔
      List.Forall₂ (fun item template => check item = .valid template) items templates := by
  induction items generalizing index templates with
  | nil =>
      rw [checkAll, List.forall₂_nil_left_iff]
      exact ⟨fun h => (Except.ok.inj h).symm, fun h => by rw [h]⟩
  | cons item rest ih =>
      rw [checkAll]
      constructor
      · intro h
        split at h
        · cases h
        · next template hvalid =>
          obtain ⟨others, hothers, h⟩ := Except.exists_of_bind_eq_ok h
          obtain rfl := Except.ok.inj h
          exact .cons hvalid (ih.mp hothers)
      · intro h
        cases h with
        | cons hvalid hothers =>
            rw [hvalid]
            dsimp only
            rw [ih.mpr hothers]
            rfl

theorem describes_iff {source : Option FilePath} {document : Yaml.Document}
    {templates : List NoteTemplate} :
    (dataOf source document >>= checkAll source 0) = .ok templates ↔
      Describes document.value templates := by
  constructor
  · intro h
    obtain ⟨items, hitems, h⟩ := Except.exists_of_bind_eq_ok h
    have hvalid := checkAll_eq_ok_iff.mp h
    rw [dataOf] at hitems
    split at hitems
    · next entries hentries =>
      split at hitems
      · next hnone =>
        obtain rfl := Except.ok.inj hitems
        cases hvalid with
        | cons hvalid hothers =>
            cases hothers
            rw [hentries] at hvalid ⊢
            exact .one hnone hvalid
      · next items hlist =>
        obtain rfl := Except.ok.inj hitems
        rw [hentries]
        exact .many hlist hvalid
      · cases hitems
    · cases hitems
  · obtain ⟨value, kindName⟩ := document
    intro h
    cases h with
    | @one entries template hnone hvalid =>
        have hdata : dataOf source ⟨.map entries, kindName⟩ = .ok [.map entries] := by
          simp only [dataOf, hnone]
        rw [hdata]
        exact checkAll_eq_ok_iff.mpr (.cons hvalid .nil)
    | @many entries items templates hlist hvalid =>
        have hdata : dataOf source ⟨.map entries, kindName⟩ = .ok items := by
          simp only [dataOf, hlist]
        rw [hdata]
        exact checkAll_eq_ok_iff.mpr hvalid

theorem allOfText_eq_ok_iff {source : Option FilePath} {text : Text}
    {templates : List NoteTemplate} :
    allOfText runtime source text = .ok templates ↔ TextDescribes runtime text templates := by
  rw [allOfText, readDocument, TextDescribes]
  cases Yaml.Document.ofText runtime.room text with
  | ok document =>
      simp only [Except.ok.injEq, exists_eq_left']
      exact describes_iff
  | error error =>
      simp only [reduceCtorEq, false_and, exists_false, iff_false]
      cases error <;> exact fun h => nomatch h

theorem allOfBytes_eq_ok_iff {path : FilePath} {content : Bytes} {templates : List NoteTemplate} :
    allOfBytes runtime path content = .ok templates ↔
      ContentDescribes runtime content templates := by
  rw [allOfBytes, ContentDescribes]
  cases Text.Utf8.decode content with
  | ok text =>
      simp only [Except.ok.injEq, exists_eq_left']
      exact allOfText_eq_ok_iff
  | error fault =>
      simp only [reduceCtorEq, false_and, exists_false, iff_false]
      exact fun h => nomatch h

theorem single_eq_ok_iff {source : Option FilePath} {templates : List NoteTemplate}
    {template : NoteTemplate} :
    single source templates = .ok template ↔ templates = [template] := by
  match templates with
  | [] => simp [single]
  | [first] => simp [single]
  | first :: second :: rest => simp [single]

theorem ofText_eq_ok_iff {text : Text} {template : NoteTemplate} :
    ofText runtime text = .ok template ↔ TextDescribes runtime text [template] := by
  rw [ofText, ← @allOfText_eq_ok_iff runtime none]
  cases allOfText runtime none text with
  | ok templates =>
      rw [Except.ok.injEq]
      exact single_eq_ok_iff
  | error refusal => constructor <;> exact fun h => nomatch h

variable {source : Option FilePath}

theorem failsOnly_dataOf (document : Yaml.Document) :
    FailsOnly (fun refusal => refusal.isSkipped = true) (dataOf source document) := by
  rw [dataOf]
  split
  · split
    · exact .ok trivial
    · exact .ok trivial
    · exact .error rfl
  · exact .error rfl

theorem failsOnly_checkAll (index : Nat) (items : List Value) :
    FailsOnly (fun refusal => refusal.isSkipped = true) (checkAll source index items) := by
  induction items generalizing index with
  | nil => exact .ok trivial
  | cons item rest ih =>
      rw [checkAll]
      split
      · exact .error rfl
      · exact (ih (index + 1)).bind fun _ _ => .ok trivial

theorem failsOnly_allOfText {text : Text}
    (h : ∀ fault, Yaml.Document.ofText runtime.room text = .error (.data fault) →
      Refusal.isPlainFault fault = true) :
    FailsOnly (fun refusal => refusal.isSkipped = true) (allOfText runtime source text) := by
  have hdocument : FailsOnly (fun refusal => refusal.isSkipped = true)
      (readDocument runtime source text) := by
    rw [readDocument]
    split
    · exact .ok trivial
    · exact .error rfl
    · next fault hfault => exact .error (h fault hfault)
  exact hdocument.bind fun document _ => (failsOnly_dataOf document).bind fun items _ =>
    failsOnly_checkAll 0 items

theorem failsOnly_allOfBytes {path : FilePath} {content : Bytes}
    (h : ∀ text fault, Text.Utf8.decode content = .ok text →
      Yaml.Document.ofText runtime.room (Text.unifyLineEndings text) = .error (.data fault) →
      Refusal.isPlainFault fault = true) :
    FailsOnly (fun refusal => refusal.isSkipped = true) (allOfBytes runtime path content) := by
  rw [allOfBytes]
  cases htext : Text.Utf8.decode content with
  | ok text => exact failsOnly_allOfText fun fault => h text fault htext
  | error fault => exact .error rfl

end Clippings.NoteTemplate
