import Clippings.Proofs.Note.Building
import Clippings.Proofs.Number.Digits
import Clippings.Proofs.Number.Nearest
import Clippings.Proofs.Variable.Resolution
/-!
Properties that are numbers. An integer gets into a note through its digits and a floating-point
number. The note has the integer if the format has it, and else the nearest one or an infinity.
-/

namespace Clippings

theorem Value.displayed_int {n : Int} (h : (Text.ofNat n.natAbs).length ≤ integerDigitLimit)
    (runtime : Runtime) :
    (Value.int n).displayed runtime = .ok (Text.signedDigits (n < 0) n.natAbs) := by
  rw [displayed, display, printInt, if_neg (Nat.not_lt.mpr h), Text.signedDigits]
  simp only [decide_eq_true_eq]
  rfl

namespace PropertyKind

/-- What becomes of an integer in a note: the nearest integer that the format has, or an infinity if
it is greater than all of them. -/
inductive Becomes (n : Int) (value : Value) : Prop
  | nearest (k : Int) (hvalue : value = .int k) (hnearest : Binary64.IsNearest n k)
  | beyond (hvalue : value = .float (.infinite (n < 0)))
      (hbeyond : ∀ other, Binary64.IsWhole other → other.natAbs < n.natAbs)

theorem Becomes.eq_int_iff {n : Int} {value : Value} (h : Becomes n value) :
    value = .int n ↔ Binary64.IsWhole n := by
  rcases h with ⟨k, rfl, hnearest⟩ | ⟨rfl, hbeyond⟩
  · constructor
    · rintro ⟨⟩
      exact hnearest.whole
    · intro hwhole
      rw [hnearest.eq_of_isWhole hwhole]
  · constructor
    · rintro ⟨⟩
    · intro hwhole
      exact absurd (hbeyond n hwhole) (lt_irrefl _)

theorem becomes_coerce (n : Int) :
    Becomes n (number.coerce (Text.signedDigits (n < 0) n.natAbs)) := by
  by_cases hn : n = 0
  · -- The reader of numbers is told about positive numbers only, so zero is a case of its own.
    subst hn
    exact .nearest 0 rfl (Binary64.isWhole_of_natAbs_le (by decide)).isNearest
  · have hread := Binary64.read?_signedDigits (n < 0) (Int.natAbs_pos.mpr hn)
    have hstrip : Text.strip (Text.signedDigits (n < 0) n.natAbs) =
        Text.signedDigits (n < 0) n.natAbs :=
      Text.strip_of_integerChars fun c hc => Text.isIntegerChar_of_mem_signedDigits hc
    rw [coerce, coerceNumber, hstrip]
    split
    · next hempty =>
      rw [hempty] at hread
      cases hread
    · simp only [hread]
      rcases Binary64.rounds_ofDecimal hn with ⟨k, hvalue, hnearest⟩ | ⟨hvalue, hbeyond⟩
      · rw [hvalue]
        exact .nearest k rfl hnearest
      · rw [hvalue]
        exact .beyond rfl hbeyond

end PropertyKind

def Note.insertProperty (place : Nat) (name : Text) (value : Value) (note : Note) : Note :=
  { note with properties := note.properties.insertIdx place (.text name, value) }

namespace Dialect

theorem renderProperties_append_cons {dialect : Dialect} {context : Value} {rendering : Rendering}
    (property : PropertyTemplate) (h : dialect.render property.value context = .ok rendering)
    (before after : List PropertyTemplate) :
    dialect.renderProperties context (before ++ property :: after) =
      (dialect.renderProperties context (before ++ after)).map fun rendered =>
        (rendered.1.insertIdx before.length
            (.text property.name, property.kind.coerce rendering.output),
          rendered.2.insertIdx before.length rendering.warnings) := by
  induction before with
  | nil =>
      rw [List.nil_append, List.nil_append, renderProperties, h]
      cases dialect.renderProperties context after <;> rfl
  | cons first before ih =>
      rw [List.cons_append, List.cons_append, renderProperties, renderProperties, ih]
      cases dialect.render first.value context with
      | error failure => rfl
      | ok front => cases dialect.renderProperties context (before ++ after) <;> rfl

theorem keys_of_renderProperties {dialect : Dialect} {context : Value}
    {properties : List PropertyTemplate} {entries : Entries} {remarks : List (List Warning)}
    (h : dialect.renderProperties context properties = .ok (entries, remarks)) :
    entries.map (·.1) = properties.map (.text ·.name) := by
  induction properties generalizing entries remarks with
  | nil =>
      obtain ⟨rfl, -⟩ := Prod.mk.inj (Except.ok.inj h)
      rfl
  | cons property rest ih =>
      obtain ⟨rendering, -, h⟩ := Except.exists_of_bind_eq_ok h
      obtain ⟨⟨others, otherRemarks⟩, hothers, h⟩ := Except.exists_of_bind_eq_ok h
      obtain ⟨rfl, -⟩ := Prod.mk.inj (Except.ok.inj h)
      rw [List.map_cons, List.map_cons, ih hothers]

theorem ofList_of_renderProperties {dialect : Dialect} {context : Value}
    {properties : List PropertyTemplate} (hnames : (properties.map (·.name)).Nodup)
    {entries : Entries} {remarks : List (List Warning)}
    (h : dialect.renderProperties context properties = .ok (entries, remarks)) :
    Entries.ofList entries = entries := by
  have hkeys := keys_of_renderProperties h
  refine Entries.ofList_of_nodup (fun entry hentry => ?_) ?_
  · have hkey := List.mem_map_of_mem (f := (·.1)) hentry
    rw [hkeys] at hkey
    obtain ⟨property, -, hname⟩ := List.mem_map.mp hkey
    exact ⟨property.name, hname.symm⟩
  · have htexts := hnames.map (f := Value.text) fun _ _ => Value.text.inj
    rw [List.map_map] at htexts
    rwa [hkeys]

theorem buildNote_append_cons {dialect : Dialect} {context : Value} {rendering : Rendering}
    (property : PropertyTemplate) (h : dialect.render property.value context = .ok rendering)
    (template : NoteTemplate) {before after : List PropertyTemplate}
    (hnames : ((before ++ property :: after).map (·.name)).Nodup) :
    (dialect.buildNote { template with properties := before ++ property :: after } context).map
        NoteBuild.note =
      (dialect.buildNote { template with properties := before ++ after } context).map fun build =>
        build.note.insertProperty before.length property.name
          (property.kind.coerce rendering.output) := by
  have hothers : ((before ++ after).map (·.name)).Nodup :=
    hnames.sublist (((List.sublist_cons_self property after).append_left before).map _)
  have hmore := renderProperties_append_cons property h before after
  simp only [buildNote, hmore]
  cases dialect.render template.nameFormat context with
  | error failure => rfl
  | ok name =>
  cases dialect.render template.path context with
  | error failure => rfl
  | ok folder =>
  cases hrendered : dialect.renderProperties context (before ++ after) with
  | error failure => rfl
  | ok rendered =>
  cases dialect.render template.content context with
  | error failure => rfl
  | ok body =>
      rw [hrendered] at hmore
      have hkept := ofList_of_renderProperties hnames hmore
      have hkeptOthers := ofList_of_renderProperties hothers hrendered
      simp only [Except.map, bind, Except.bind, pure, Except.pure, Note.insertProperty, hkept,
        hkeptOthers]

theorem render_x {dialect : Dialect} (hplaces : dialect.places = VariablePlace.builtin)
    {context : Entries} {value : Value} {text : Text} (hx : context.getText? "x" = some value)
    (htext : value.displayed dialect.runtime = .ok text) :
    dialect.render "\x7b\x7bx\x7d\x7d" (.map context) = .ok { output := text } := by
  -- Null is found as the empty text, which has the same text as null.
  have hdisplayed : (orEmpty (some value)).displayed dialect.runtime = .ok text := by
    cases value <;> exact htext
  have hvalue : dialect.evaluate (Expression.parse "x") (.map context) =
      .ok (orEmpty (some value), []) := by
    show (resolveIn dialect.places "x" (.map context) >>= _) = _
    rw [hplaces]
    show (followPath [.key "x"] (.map context) >>= _) = _
    rw [followPath_key, hx]
    rfl
  exact renderText_of_evaluate rfl hvalue hdisplayed

end Dialect

/-- An integer that a page holds is written with all its digits, and a property that is a number is
made from them: it is the nearest integer that the format of floating-point numbers has, or an
infinity if it is greater than all of those. So the note has the integer itself exactly if the
format has it, as it has every integer up to `2 ^ 53`. The note is otherwise made as without the
property. -/
theorem Engine.buildNote_number {n : Int}
    (hdigits : (Text.ofNat n.natAbs).length ≤ integerDigitLimit) {context : Entries}
    (hx : context.getText? "x" = some (.int n)) {engine : Engine}
    (hplaces : engine.dialect.places = VariablePlace.builtin) :
    ∃ text, (Value.int n).displayed engine.dialect.runtime = .ok text ∧
      (∀ (template : NoteTemplate) (before after : List PropertyTemplate) (name : Text),
        (name :: (before ++ after).map (·.name)).Nodup →
        (engine.buildNote
            { template with
              properties := before ++
                { name, value := "\x7b\x7bx\x7d\x7d", kind := .number } :: after }
            (.map context)).1.map NoteBuild.note =
          (engine.buildNote { template with properties := before ++ after }
            (.map context)).1.map fun build =>
              build.note.insertProperty before.length name (PropertyKind.number.coerce text)) ∧
      (PropertyKind.number.coerce text = .int n ↔ Binary64.IsWhole n) ∧
      (n.natAbs ≤ 2 ^ 53 → PropertyKind.number.coerce text = .int n) ∧
      PropertyKind.Becomes n (PropertyKind.number.coerce text) := by
  have hbecomes := PropertyKind.becomes_coerce n
  have htext := Value.displayed_int hdigits engine.dialect.runtime
  refine ⟨_, htext, ?_, hbecomes.eq_int_iff, ?_, hbecomes⟩
  · intro template before after name hnames
    rw [(computes_buildNote _ _ rfl).outcome_eq, (computes_buildNote _ _ rfl).outcome_eq]
    refine Dialect.buildNote_append_cons ⟨name, _, .number⟩ (Dialect.render_x hplaces hx htext)
      template ?_
    rw [List.map_append] at hnames
    rw [List.map_append, List.map_cons]
    exact List.nodup_middle.mpr hnames
  · intro hsmall
    exact hbecomes.eq_int_iff.mpr (Binary64.isWhole_of_natAbs_le hsmall)

theorem Engine.buildNote_number_large :
    (Text.ofNat (10000000000000000000000 : Int).natAbs).length ≤ integerDigitLimit ∧
      Entries.getText? "x" [(.text "x", .int 10000000000000000000000)] =
        some (.int 10000000000000000000000) ∧
      ({} : Engine).dialect.places = VariablePlace.builtin ∧
      Binary64.IsWhole 10000000000000000000000 ∧
      (({} : Engine).buildNote
          { id := "t", name := "t", nameFormat := "N", content := [],
            properties := [{ name := "n", value := "\x7b\x7bx\x7d\x7d", kind := .number }] }
          (.map [(.text "x", .int 10000000000000000000000)])).1.map NoteBuild.note =
        .ok { fileName := "N.md", path := "N.md",
              properties := [(.text "n", .int 10000000000000000000000)] } := by
  have hdigits : (Text.ofNat (10000000000000000000000 : Int).natAbs).length ≤
    integerDigitLimit := by
    decide
  have hx : Entries.getText? "x" [(.text "x", .int 10000000000000000000000)] =
      some (.int 10000000000000000000000) := rfl
  have hplaces : ({} : Engine).dialect.places = VariablePlace.builtin := rfl
  have hwhole : Binary64.IsWhole 10000000000000000000000 :=
    ⟨2384185791015625, 22, by decide, by decide, by decide⟩
  obtain ⟨text, -, hbuild, hkept, -⟩ := Engine.buildNote_number hdigits hx hplaces
  refine ⟨hdigits, hx, hplaces, hwhole, ?_⟩
  refine (hbuild { id := "t", name := "t", nameFormat := "N", content := [] } [] [] "n"
    (List.nodup_singleton _)).trans ?_
  rw [hkept.mpr hwhole]
  rfl

/-- The least positive integer that is not in the format: the note has the one before it. -/
theorem Engine.buildNote_number_rounded :
    (({} : Engine).buildNote
        { id := "t", name := "t", nameFormat := "N", content := [],
          properties := [{ name := "n", value := "\x7b\x7bx\x7d\x7d", kind := .number }] }
        (.map [(.text "x", .int 9007199254740993)])).1.map (·.note.properties) =
      .ok [(.text "n", .int 9007199254740992)] ∧
    (Value.int 9007199254740993).displayed {} = .ok "9007199254740993" ∧
    PropertyKind.number.coerce "9007199254740993" ≠ .int 9007199254740993 := by
  refine ⟨rfl, rfl, ?_⟩
  rintro ⟨⟩

end Clippings
