import Clippings.Note.Basic
import Clippings.Proofs.Note.Insertion
import Clippings.Proofs.Value.PageData
import Clippings.Proofs.Yaml.Lines
/-!
Reading the block of properties back from a written note. The block of a note always can be written,
no line inside it closes it, and so what is added at the top of the note goes right below it.
-/

namespace Clippings

/-- The values that properties of a note have: lists hold texts only, and integers have no more
digits than may be written. -/
inductive Value.IsPropertyValue : Value → Prop
  | null : IsPropertyValue .null
  | bool (b : Bool) : IsPropertyValue (.bool b)
  | int {n : Int} (digits : (Text.ofNat n.natAbs).length ≤ integerDigitLimit) :
      IsPropertyValue (.int n)
  | float (x : Binary64) : IsPropertyValue (.float x)
  | text (s : Text) : IsPropertyValue (.text s)
  | texts (items : List Text) : IsPropertyValue (.list (items.map .text))

namespace PropertyKind

theorem isPropertyValue_coerceNumber (rendered : Text) :
    (coerceNumber rendered).IsPropertyValue := by
  unfold coerceNumber
  split
  · exact .null
  · next trimmed _ =>
    split
    · exact .text _
    · next x hx =>
      split
      · next n hn =>
        unfold Binary64.toInt? at hn
        split at hn
        · have hrepresentable := Binary64.isRepresentable_of_read? hx
          exact .int (length_ofNat_le_of_lt_two_pow
            (Binary64.natAbs_truncate_lt hrepresentable hn))
        · cases hn
      · exact .float x

theorem isPropertyValue_coerce (kind : PropertyKind) (rendered : Text) :
    (kind.coerce rendered).IsPropertyValue := by
  cases kind with
  | text => exact .text rendered
  | number => exact isPropertyValue_coerceNumber rendered
  | checkbox => exact .bool _
  | date => exact .text rendered
  | datetime => exact .text rendered
  | tags => exact .texts _
  | aliases => exact .texts _

end PropertyKind

namespace Yaml

theorem writesUnmarked_of_isPropertyValue {value : Value} (h : value.IsPropertyValue) (indent : Nat)
    {spot : Spot} (hspot : spot ≠ .root) : WritesUnmarked indent spot value := by
  cases h with
  | null => exact ⟨_, by rw [writeNode], isUnmarked_writeScalarAt indent spot (by decide) _⟩
  | bool b => exact ⟨_, by rw [writeNode], isUnmarked_writeScalarAt indent spot (by decide) _⟩
  | int digits =>
      obtain ⟨text, htext⟩ := exists_printInt digits
      refine ⟨writeScalarAt indent spot .int text, ?_,
        isUnmarked_writeScalarAt indent spot (by decide) text⟩
      rw [writeNode, htext]
      rfl
  | float x => exact ⟨_, by rw [writeNode], isUnmarked_writeScalarAt indent spot (by decide) _⟩
  | text s => exact writesUnmarked_text indent spot s
  | texts items =>
      cases items with
      | nil =>
          refine ⟨_, by rw [List.map_nil, writeNode], ?_⟩
          cases spot <;> exact Text.isUnmarked_of_not_mem (by simp [Spot.blank])
      | cons item rest =>
          have hlead : IsLead (spot.listIndent indent) (spot.lead (spot.listIndent indent)) := by
            cases spot with
            | root => exact absurd rfl hspot
            | behindKey column => exact .inr rfl
            | behindMark => exact .inl (by simp [Spot.lead])
          obtain ⟨text, htext, hunmarked⟩ := exists_writeItems hlead (item :: rest)
          refine ⟨text, ?_, hunmarked⟩
          rw [List.map_cons, writeNode, ← List.map_cons, htext]
          simp

theorem exists_write {properties : Entries} (hne : properties ≠ [])
    (hkeys : ∀ property ∈ properties, ∃ key, property.1 = .text key)
    (hvalues : ∀ property ∈ properties, property.2.IsPropertyValue) :
    ∃ lines : Text, write (.map properties) = .ok (lines ++ [.char '\n']) ∧ lines.IsUnmarked := by
  have hlead : IsLead 0 [] := .inl (by simp)
  obtain ⟨lines, hlines, hunmarked⟩ := exists_writeEntries hlead hkeys
    (fun property hmem spot hspot =>
      writesUnmarked_of_isPropertyValue (hvalues property hmem) 0 hspot)
  refine ⟨lines, ?_, hunmarked⟩
  cases properties with
  | nil => exact absurd rfl hne
  | cons property rest =>
      rw [write, writeNode, Spot.lead, Spot.mapIndent, hlines]
      · rfl
      · simp

end Yaml

namespace Note

theorem closing?_of_startsUnmarked {s : Text} (h : s.StartsUnmarked) (rest : Text) :
    closing? (s ++ rest) = none := by
  rw [Option.eq_none_iff_forall_ne_some]
  intro length hclosing
  obtain ⟨blanks, ending, more, -, -, htext, -⟩ := closing?_eq_some_iff.mp hclosing
  exact h rest ⟨blanks ++ (ending ++ more), htext.symm⟩

theorem laterClosing?_of_isUnmarked {lines : Text} (h : lines.IsUnmarked) (rest : Text) :
    laterClosing? (lines ++ rest) = (laterClosing? rest).map (lines.length + ·) := by
  induction lines with
  | nil => simp
  | cons c lines ih =>
      have hlines : Text.IsUnmarked lines := by
        rintro before after rfl
        exact h (c :: before) after rfl
      have hfirst : (if c = '\n' then closing? (lines ++ rest) else none) = none := by
        split
        · next hc => exact closing?_of_startsUnmarked (h [] lines (hc ▸ rfl)) rest
        · rfl
      rw [List.cons_append, laterClosing?, hfirst, ih hlines]
      simp only [Option.map_map, List.length_cons]
      congr 1
      funext length
      simp only [Function.comp_apply]
      omega

def block (lines : Text) : Text :=
  [.char '-', .char '-', .char '-', .char '\n'] ++ lines ++
    [.char '\n', .char '-', .char '-', .char '-', .char '\n']

theorem frontmatter_eq_block {properties : Entries} (hne : properties ≠ []) {lines : Text}
    (hlines : Yaml.write (.map properties) = .ok (lines ++ [.char '\n'])) :
    frontmatter (.map properties) = .ok (block lines) := by
  have htruthy : (Value.map properties).isTruthy = true := by
    cases properties with
    | nil => exact absurd rfl hne
    | cons property rest => rfl
  rw [frontmatter, if_pos htruthy, hlines]
  simp [block, bind, Except.bind, pure, Except.pure]

theorem closeLine_block (lines : Text) : closeLine (block lines) = block lines := by
  apply closeLine_eq_self
  rw [block, List.getLast?_append_of_ne_nil _ (by simp)]
  rfl

theorem block?_block {lines : Text} (h : lines.IsUnmarked) (rest : Text) :
    block? (block lines ++ rest) = some (block lines).length := by
  have hclosing : closing? (.char '-' :: .char '-' :: .char '-' :: .char '\n' :: rest) =
    some 4 := rfl
  have hlater : laterClosing? (.char '\n' :: .char '-' :: .char '-' :: .char '-' :: .char '\n' ::
    rest) = some 5 := by
    rw [laterClosing?, if_pos rfl, hclosing]
  have hfeed : IsLineEnding [.char '\n'] := .inl rfl
  have hopened := block?_of_opening hfeed
    (lines ++ .char '\n' :: .char '-' :: .char '-' :: .char '-' :: .char '\n' :: rest)
  rw [laterClosing?_of_isUnmarked h, hlater] at hopened
  have hlength : (block lines).length = 4 + (lines.length + 5) := by
    simp [block]
    omega
  rw [hlength]
  simpa [block] using hopened

/-- The block of a note that was written is found again: what is added at the top of the note stands
between the block and the body. -/
theorem insert_markdown {note : Note} (hne : note.properties ≠ [])
    (hkeys : ∀ property ∈ note.properties, ∃ key, property.1 = .text key)
    (hvalues : ∀ property ∈ note.properties, property.2.IsPropertyValue) :
    ∃ block, frontmatter (.map note.properties) = .ok block ∧
      note.markdown = .ok (block ++ note.body) ∧
      ∀ body, insert true (block ++ note.body) body = block ++ body ++ .char '\n' :: note.body := by
  obtain ⟨lines, hlines, hunmarked⟩ := Yaml.exists_write hne hkeys hvalues
  have hblock := frontmatter_eq_block hne hlines
  refine ⟨block lines, hblock, ?_, ?_⟩
  · rw [markdown, hblock]
    rfl
  · intro body
    rw [insert_top_below (closeLine_block lines) (block?_block hunmarked), List.append_assoc]

theorem insert_markdown_hyphens :
    let properties : Entries :=
      [(.text "---", .list (["---", "a\n---\nb"].map .text)), (.text "n", .int 3)]
    properties ≠ [] ∧ (∀ property ∈ properties, ∃ key, property.1 = .text key) ∧
      (∀ property ∈ properties, property.2.IsPropertyValue) ∧
      frontmatter (.map properties) =
        .ok "---\n'---':\n- '---'\n- 'a\n\n  ---\n\n  b'\nn: 3\n---\n" ∧
      insert true "---\n'---':\n- '---'\n- 'a\n\n  ---\n\n  b'\nn: 3\n---\n---\n" "new" =
        "---\n'---':\n- '---'\n- 'a\n\n  ---\n\n  b'\nn: 3\n---\nnew\n---\n" := by
  intro properties
  have hkeys : ∀ property ∈ properties, ∃ key, property.1 = .text key := by simp [properties]
  have hvalues : ∀ property ∈ properties, property.2.IsPropertyValue := by
    intro property hmem
    rcases List.mem_pair.mp hmem with rfl | rfl
    · exact .texts ["---", "a\n---\nb"]
    · exact .int (by decide)
  let note : Note := { fileName := "n.md", path := "n.md", properties, body := "---\n" }
  have hne : note.properties ≠ [] := List.cons_ne_nil _ _
  obtain ⟨block, hblock, -, hinsert⟩ := insert_markdown hne hkeys hvalues
  obtain rfl := Except.ok.inj hblock
  exact ⟨hne, hkeys, hvalues, rfl, hinsert "new"⟩

end Note

end Clippings
