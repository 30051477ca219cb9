import Clippings.Library.Loading
import Mathlib.Data.List.Nodup

namespace Clippings

def NoteTemplate.keyed (template : NoteTemplate) : Text × NoteTemplate := (template.id, template)

def NoteTemplate.ids (templates : List NoteTemplate) : List Text := templates.map (·.id)

namespace Library

open NoteTemplate (keyed ids)

theorem keyed_injective : Function.Injective keyed := fun _ _ h => congrArg Prod.snd h

theorem isSome_lookup_keyed {id : Text} {loaded : List NoteTemplate} :
    ((loaded.map keyed).lookup id).isSome = true ↔ id ∈ ids loaded := by
  rw [List.lookup_isSome_iff, ids, List.mem_map]
  simp [keyed, eq_comm (a := id)]

variable {fileName : Text} {templates loaded : List NoteTemplate}

theorem addAll_of_nodup (h : (ids (loaded ++ templates)).Nodup) :
    addAll fileName templates (loaded.map keyed) = .ok ((loaded ++ templates).map keyed) := by
  induction templates generalizing loaded with
  | nil => rw [addAll, List.append_nil]
  | cons template rest ih =>
      have hnew : template.id ∉ ids loaded := by
        intro hmem
        rw [ids, List.map_append] at h
        exact List.disjoint_of_nodup_append h hmem (by simp)
      have hloaded : loaded.map keyed ++ [(template.id, template)] =
          (loaded ++ [template]).map keyed := by simp [keyed]
      rw [addAll, if_neg (mt isSome_lookup_keyed.mp hnew), hloaded,
        ih (by rwa [List.append_assoc, List.singleton_append]), List.append_assoc,
        List.singleton_append]

theorem addAll_of_not_nodup (hloaded : (ids loaded).Nodup)
    (h : ¬ (ids (loaded ++ templates)).Nodup) :
    ∃ id, addAll fileName templates (loaded.map keyed) = .error (.duplicate id fileName) := by
  induction templates generalizing loaded with
  | nil => exact absurd hloaded (by simpa using h)
  | cons template rest ih =>
      rw [addAll]
      split
      · exact ⟨template.id, rfl⟩
      · next hlookup =>
        have hnew : template.id ∉ ids loaded := mt isSome_lookup_keyed.mpr hlookup
        have hmore : (ids (loaded ++ [template])).Nodup := by
          rw [ids, List.map_append, List.map_singleton, ← List.concat_eq_append]
          exact hloaded.concat hnew
        have hkeyed : loaded.map keyed ++ [(template.id, template)] =
            (loaded ++ [template]).map keyed := by simp [keyed]
        rw [hkeyed]
        exact ih hmore (by rwa [List.append_assoc, List.singleton_append])

def added : Except Refusal (List NoteTemplate) → List NoteTemplate
  | .ok templates => templates
  | .error _ => []

def allAdded (files : List (Text × Except Refusal (List NoteTemplate))) : List NoteTemplate :=
  files.flatMap fun file => added file.2

def skippedFiles (files : List (Text × Except Refusal (List NoteTemplate))) :
    List (Text × Refusal) :=
  files.filterMap fun file =>
    match file.2 with
    | .ok _ => none
    | .error refusal => some (file.1, refusal)

def OnlySkipped (files : List (Text × Except Refusal (List NoteTemplate))) : Prop :=
  ∀ file ∈ files, ∀ refusal, file.2 = .error refusal → refusal.isSkipped = true

variable {files : List (Text × Except Refusal (List NoteTemplate))}

theorem skippedFiles_eq_nil_iff :
    skippedFiles files = [] ↔ ∀ file ∈ files, ∀ refusal, file.2 ≠ .error refusal := by
  rw [skippedFiles, List.filterMap_eq_nil_iff]
  refine forall₂_congr fun file _ => ?_
  cases file.2 <;> simp

theorem addFiles_of_nodup (hskipped : OnlySkipped files) (skipped : List (Text × Refusal))
    (h : (ids (loaded ++ allAdded files)).Nodup) :
    addFiles { templates := loaded.map keyed, skipped } files =
      .ok { templates := (loaded ++ allAdded files).map keyed
            skipped := skipped ++ skippedFiles files } := by
  induction files generalizing loaded skipped with
  | nil => simp [addFiles, allAdded, skippedFiles]
  | cons file rest ih =>
      obtain ⟨fileName, found⟩ := file
      obtain ⟨hfile, hrest⟩ := List.forall_mem_cons.mp hskipped
      cases found with
      | ok templates =>
          have happend : loaded ++ allAdded ((fileName, .ok templates) :: rest) =
              (loaded ++ templates) ++ allAdded rest := by simp [allAdded, added]
          rw [happend] at h ⊢
          have hfirst : (ids (loaded ++ templates)).Nodup := by
            rw [ids, List.map_append] at h
            exact h.of_append_left
          rw [addFiles, addFile, addAll_of_nodup hfirst]
          exact ih hrest skipped h
      | error refusal =>
          rw [addFiles, addFile, if_pos (hfile refusal rfl)]
          have hnext := ih hrest (skipped ++ [(fileName, refusal)]) h
          rw [List.append_assoc] at hnext
          exact hnext

theorem addFiles_of_not_nodup (hskipped : OnlySkipped files) (skipped : List (Text × Refusal))
    (hloaded : (ids loaded).Nodup) (h : ¬ (ids (loaded ++ allAdded files)).Nodup) :
    ∃ id fileName, addFiles { templates := loaded.map keyed, skipped } files =
      .error (.duplicate id fileName) := by
  induction files generalizing loaded skipped with
  | nil => exact absurd hloaded (by simpa [allAdded] using h)
  | cons file rest ih =>
      obtain ⟨fileName, found⟩ := file
      obtain ⟨hfile, hrest⟩ := List.forall_mem_cons.mp hskipped
      cases found with
      | ok templates =>
          rw [addFiles, addFile]
          by_cases hfirst : (ids (loaded ++ templates)).Nodup
          · rw [addAll_of_nodup hfirst]
            refine ih hrest skipped hfirst ?_
            rwa [List.append_assoc]
          · obtain ⟨id, hid⟩ := addAll_of_not_nodup hloaded hfirst
            rw [hid]
            exact ⟨id, fileName, rfl⟩
      | error refusal =>
          rw [addFiles, addFile, if_pos (hfile refusal rfl)]
          exact ih hrest (skipped ++ [(fileName, refusal)]) hloaded h

theorem ofFiles_of_nodup (hskipped : OnlySkipped files) (h : (ids (allAdded files)).Nodup) :
    ofFiles files =
      if allAdded files = [] ∧ skippedFiles files ≠ [] then
        .error (.nothingUsable (skippedFiles files))
      else .ok { templates := (allAdded files).map keyed, skipped := skippedFiles files } := by
  have hadd : addFiles {} files =
      .ok { templates := (allAdded files).map keyed, skipped := skippedFiles files } :=
    @addFiles_of_nodup [] files hskipped [] h
  rw [ofFiles, hadd]
  split
  · next hempty => simp [hempty, bind, Except.bind, throw, throwThe, MonadExceptOf.throw]
  · next hempty =>
    rw [not_and_or, not_not] at hempty
    rcases hempty with hsome | hnone
    · simp [hsome, bind, Except.bind, pure, Except.pure]
    · simp [hnone, bind, Except.bind, pure, Except.pure]

theorem ofFiles_of_not_nodup (hskipped : OnlySkipped files)
    (h : ¬ (ids (allAdded files)).Nodup) :
    ∃ id fileName, ofFiles files = .error (.duplicate id fileName) := by
  obtain ⟨id, fileName, hadd⟩ := @addFiles_of_not_nodup [] files hskipped [] .nil h
  have hstart : addFiles {} files = .error (.duplicate id fileName) := hadd
  exact ⟨id, fileName, by rw [ofFiles, hstart]; rfl⟩

theorem ofFiles_single_iff {found : Except Refusal (List NoteTemplate)} {template : NoteTemplate} :
    (∃ library, ofFiles [(fileName, found)] = .ok library ∧
      library.templates = [(template.id, template)]) ↔ found = .ok [template] := by
  constructor
  · rintro ⟨library, hlibrary, htemplates⟩
    cases found with
    | ok templates =>
        have hskipped : OnlySkipped [(fileName, .ok templates)] := by simp [OnlySkipped]
        have hadded : allAdded [(fileName, Except.ok templates)] = templates := by
          simp [allAdded, added]
        by_cases hnodup : (ids templates).Nodup
        · rw [ofFiles_of_nodup hskipped (by rwa [hadded]), hadded] at hlibrary
          split at hlibrary
          · cases hlibrary
          · obtain rfl := Except.ok.inj hlibrary
            have hmap : templates.map keyed = [template].map keyed := htemplates
            rw [List.map_injective_iff.mpr keyed_injective hmap]
        · obtain ⟨id, name, herror⟩ := ofFiles_of_not_nodup hskipped (by rwa [hadded])
          cases herror.symm.trans hlibrary
    | error refusal =>
        by_cases hskip : refusal.isSkipped = true
        · have hskipped : OnlySkipped [(fileName, .error refusal)] := by
            simpa [OnlySkipped] using hskip
          rw [ofFiles_of_nodup hskipped .nil] at hlibrary
          cases hlibrary
        · change addFile {} fileName (.error refusal) >>= _ >>= _ = _ at hlibrary
          rw [addFile, if_neg hskip] at hlibrary
          cases hlibrary
  · rintro rfl
    refine ⟨{ templates := [(template.id, template)] }, ?_, rfl⟩
    exact ofFiles_of_nodup (by simp [OnlySkipped]) (List.nodup_singleton _)

end Library

end Clippings
