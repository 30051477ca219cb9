import Clippings.Note.Naming
import Clippings.Proofs.Text.Cutting
import Clippings.Proofs.Text.Spacing

namespace Clippings.Note

structure IsSegment (segment : Text) : Prop where
  ne_nil : segment ≠ []
  ne_point : segment ≠ "."
  ne_points : segment ≠ ".."
  slash : .char '/' ∉ segment
  backslash : .char '\\' ∉ segment

def forward (text : Text) : Text := text.map fun c => if isSlash c then '/' else c

theorem segments_eq (folder : Text) :
    segments folder =
      ((Text.splitOn '/' (forward folder)).map Text.strip).filter keepsSegment := rfl

theorem backslash_not_mem_forward (text : Text) : .char '\\' ∉ forward text := by
  intro hmem
  obtain ⟨c, -, hc⟩ := List.mem_map.mp hmem
  split at hc
  · simp at hc
  · next hslash =>
    subst hc
    simp [isSlash] at hslash

theorem forward_eq_self {text : Text} (h : .char '\\' ∉ text) : forward text = text := by
  have hid : ∀ c ∈ text, (if isSlash c then .char '/' else c) = c := by
    intro c hc
    have hne : c ≠ '\\' := ne_of_mem_of_not_mem hc h
    by_cases hslash : c = '/'
    · simp [hslash, isSlash]
    · simp [isSlash, hslash, hne]
  rw [forward, List.map_congr_left hid, List.map_id']

theorem keepsSegment_iff {segment : Text} :
    keepsSegment segment = true ↔ segment ≠ [] ∧ segment ≠ "." ∧ segment ≠ ".." := by
  simp [keepsSegment, and_assoc]

theorem isSegment_of_mem {folder segment : Text} (h : segment ∈ segments folder) :
    IsSegment segment := by
  rw [segments_eq, List.mem_filter, keepsSegment_iff, List.mem_map] at h
  obtain ⟨⟨piece, hpiece, rfl⟩, hne, hpoint, hpoints⟩ := h
  refine ⟨hne, hpoint, hpoints, ?_, ?_⟩
  · intro hc
    exact Text.not_mem_of_mem_splitOn hpiece (Text.mem_of_mem_strip hc)
  · intro hc
    have hmem := (Text.isInfix_of_mem_splitOn hpiece).subset (Text.mem_of_mem_strip hc)
    exact backslash_not_mem_forward folder hmem

theorem strip_of_mem_segments {folder segment : Text} (h : segment ∈ segments folder) :
    Text.strip segment = segment := by
  rw [segments_eq, List.mem_filter, List.mem_map] at h
  obtain ⟨⟨piece, -, rfl⟩, -⟩ := h
  exact Text.strip_strip piece

theorem segments_append_cons (outer inner : Text) :
    segments (outer ++ .char '/' :: inner) = segments outer ++ segments inner := by
  have hforward : forward (outer ++ .char '/' :: inner) =
    forward outer ++ .char '/' :: forward inner := by
    simp [forward, isSlash]
  rw [segments_eq, hforward, Text.splitOn_append_cons, List.map_append, List.filter_append]
  rfl

theorem not_mem_join {segments : List Text} {c : CodePoint} (hc : c ≠ '/')
    (h : ∀ segment ∈ segments, c ∉ segment) : c ∉ Text.join [.char '/'] segments := by
  intro hmem
  rcases Text.mem_join hmem with hslash | ⟨segment, hsegment, hcs⟩
  · exact hc (by simpa using hslash)
  · exact h segment hsegment hcs

theorem segments_cleanFolder (folder : Text) : segments (cleanFolder folder) = segments folder := by
  have hbackslash : .char '\\' ∉ cleanFolder folder :=
    not_mem_join (by decide) (fun _ hsegment => (isSegment_of_mem hsegment).backslash)
  rw [segments_eq, forward_eq_self hbackslash, cleanFolder]
  rcases eq_or_ne (segments folder) [] with hnil | hne
  · rw [hnil]
    decide
  · rw [Text.splitOn_join hne (fun _ hsegment => (isSegment_of_mem hsegment).slash),
      List.map_congr_left (fun _ hsegment => strip_of_mem_segments hsegment), List.map_id',
      List.filter_eq_self]
    intro segment hsegment
    have hkept := isSegment_of_mem hsegment
    exact keepsSegment_iff.mpr ⟨hkept.ne_nil, hkept.ne_point, hkept.ne_points⟩

theorem cleanFolder_cleanFolder (folder : Text) :
    cleanFolder (cleanFolder folder) = cleanFolder folder :=
  congrArg (Text.join [.char '/']) (segments_cleanFolder folder)

theorem cleanFolder_eq_nil_iff {folder : Text} :
    cleanFolder folder = [] ↔ segments folder = [] := by
  constructor
  · intro hclean
    rw [← segments_cleanFolder, hclean]
    decide
  · intro hsegments
    rw [cleanFolder, hsegments]
    rfl

theorem cleanFolder_append_cons (outer inner : Text) :
    cleanFolder (outer ++ .char '/' :: inner) =
      Text.join [.char '/'] ([cleanFolder outer, cleanFolder inner].filter (!·.isEmpty)) := by
  rw [cleanFolder, segments_append_cons]
  by_cases houter : segments outer = []
  · have hnone : cleanFolder outer = [] := cleanFolder_eq_nil_iff.mpr houter
    by_cases hinner : segments inner = []
    · have hnothing : cleanFolder inner = [] := cleanFolder_eq_nil_iff.mpr hinner
      simp [houter, hinner, hnone, hnothing, Text.join]
    · have hsome : cleanFolder inner ≠ [] := mt cleanFolder_eq_nil_iff.mp hinner
      have hkept : [cleanFolder outer, cleanFolder inner].filter (!·.isEmpty) =
          [cleanFolder inner] := by simp [hnone, hsome]
      rw [houter, hkept]
      rfl
  · have hsome : cleanFolder outer ≠ [] := mt cleanFolder_eq_nil_iff.mp houter
    by_cases hinner : segments inner = []
    · have hnothing : cleanFolder inner = [] := cleanFolder_eq_nil_iff.mpr hinner
      have hkept : [cleanFolder outer, cleanFolder inner].filter (!·.isEmpty) =
          [cleanFolder outer] := by simp [hsome, hnothing]
      rw [hinner, List.append_nil, hkept]
      rfl
    · have hboth : cleanFolder inner ≠ [] := mt cleanFolder_eq_nil_iff.mp hinner
      have hkept : [cleanFolder outer, cleanFolder inner].filter (!·.isEmpty) =
          [cleanFolder outer, cleanFolder inner] := by simp [hsome, hboth]
      rw [Text.join_append houter hinner, hkept]
      simp [Text.join, cleanFolder]

theorem isReserved_of_mem_stem {title : Text} {c : CodePoint} (h : c ∈ stem title) :
    Text.isReserved c = false := by
  rw [stem] at h
  split at h
  · have hplain : ("Untitled" : Text).all (fun c => !Text.isReserved c) = true := by decide
    simpa using List.all_eq_true.mp hplain c h
  · exact Text.isReserved_of_mem_safeName (List.mem_of_mem_take (Text.mem_of_mem_strip h))

theorem stem_ne_nil (title : Text) : stem title ≠ [] := by
  rw [stem]
  split
  · decide
  · next hne => exact hne

theorem isReserved_of_mem_nameFor {title : Text} {c : CodePoint} (h : c ∈ nameFor title) :
    Text.isReserved c = false := by
  have hmd : (".md" : Text).all (fun c => !Text.isReserved c) = true := by decide
  rcases List.mem_append.mp h with hstem | hending
  · exact isReserved_of_mem_stem hstem
  · simpa using List.all_eq_true.mp hmd c hending

theorem isSegment_nameFor (title : Text) : IsSegment (nameFor title) := by
  have hlength : 3 < (nameFor title).length := by
    have hstem := List.length_pos_iff.mpr (stem_ne_nil title)
    rw [nameFor, List.length_append]
    change 3 < (stem title).length + 3
    omega
  refine ⟨?_, ?_, ?_, ?_, ?_⟩
  · intro h
    exact absurd (h ▸ hlength) (by decide)
  · intro h
    exact absurd (h ▸ hlength) (by decide)
  · intro h
    exact absurd (h ▸ hlength) (by decide)
  · intro h
    exact absurd (isReserved_of_mem_nameFor h) (by decide)
  · intro h
    exact absurd (isReserved_of_mem_nameFor h) (by decide)

theorem splitOn_pathIn {folder file : Text} (hfile : IsSegment file) :
    Text.splitOn '/' (pathIn (cleanFolder folder) file) = segments folder ++ [file] := by
  rw [pathIn]
  split
  · next hempty =>
    have hnone : segments folder = [] := cleanFolder_eq_nil_iff.mp (by simpa using hempty)
    rw [hnone, Text.splitOn_eq_singleton hfile.slash]
    rfl
  · next hsome =>
    have hne : segments folder ≠ [] := by
      intro hnil
      exact hsome (by simp [cleanFolder_eq_nil_iff.mpr hnil])
    rw [Text.splitOn_append_cons, Text.splitOn_eq_singleton hfile.slash, cleanFolder,
      Text.splitOn_join hne (fun _ hsegment => (isSegment_of_mem hsegment).slash)]

theorem isSegment_of_mem_splitOn_pathIn {folder file segment : Text} (hfile : IsSegment file)
    (h : segment ∈ Text.splitOn '/' (pathIn (cleanFolder folder) file)) : IsSegment segment := by
  rw [splitOn_pathIn hfile, List.mem_append, List.mem_singleton] at h
  rcases h with hfolder | rfl
  · exact isSegment_of_mem hfolder
  · exact hfile

theorem backslash_not_mem_pathIn {folder file : Text} (hfile : IsSegment file) :
    .char '\\' ∉ pathIn (cleanFolder folder) file := by
  rw [← Text.join_splitOn '/' (pathIn (cleanFolder folder) file)]
  exact not_mem_join (by decide)
    (fun _ hsegment => (isSegment_of_mem_splitOn_pathIn hfile hsegment).backslash)

end Clippings.Note
