import Clippings.Text.CodePoint
/-!
Texts as sequences of code points, and the few ways of cutting and joining them that the whole
library shares. Cutting at a separator and joining with it again gives back the text
(`join_splitOn`, `join_splitAt`).
-/

namespace Clippings

/-- A text is the list of its code points, so lengths and positions count code points. -/
abbrev Text := List CodePoint

instance : Coe String Text := ⟨fun s => s.toList.map .char⟩

namespace Text

/-- The characters of a text; the replacement character stands for halves of pairs. -/
def string (text : Text) : String :=
  .ofList (text.map fun
    | .char c => c
    | .half _ => '\uFFFD')

def join (sep : Text) : List Text → Text
  | [] => []
  | [piece] => piece
  | piece :: next :: rest => piece ++ sep ++ join sep (next :: rest)

def extendHead (c : CodePoint) : List Text → List Text
  | [] => [[c]]
  | piece :: rest => (c :: piece) :: rest

/-- The pieces between the occurrences of a character; there is always at least one. -/
def splitOn (sep : CodePoint) : Text → List Text
  | [] => [[]]
  | c :: rest => if c = sep then [] :: splitOn sep rest else extendHead c (splitOn sep rest)

/--
The pieces between the leftmost disjoint occurrences of a separator text. The number counts the
characters of an occurrence that are still to be passed over.
-/
def splitAtFrom (sep : Text) : Nat → Text → List Text
  | _, [] => [[]]
  | skip + 1, _ :: rest => splitAtFrom sep skip rest
  | 0, c :: rest =>
    if sep.isPrefixOf (c :: rest) then [] :: splitAtFrom sep (sep.length - 1) rest
    else extendHead c (splitAtFrom sep 0 rest)

/-- The pieces between the leftmost disjoint occurrences of a non-empty separator text. -/
def splitAt (sep text : Text) : List Text := splitAtFrom sep 0 text

/-- The number of leftmost disjoint occurrences of a non-empty text. -/
def occurrences (part text : Text) : Nat := (splitAt part text).length - 1

/-- Replaces the leftmost disjoint occurrences of a non-empty text. -/
def replace (part new text : Text) : Text := join new (splitAt part text)

def trimBy (drop : CodePoint → Bool) (text : Text) : Text :=
  ((text.dropWhile drop).reverse.dropWhile drop).reverse

def trimEndBy (drop : CodePoint → Bool) (text : Text) : Text :=
  (text.reverse.dropWhile drop).reverse

def startsWith (text start : Text) : Bool := start.isPrefixOf text

def endsWith (text tail : Text) : Bool := tail.isSuffixOf text

def padLeft (width : Nat) (fill : CodePoint) (text : Text) : Text :=
  List.replicate (width - text.length) fill ++ text

/-- The part before the first occurrence of a character, and the part after it if it occurs. -/
def cut (sep : CodePoint) : Text → Text × Option Text
  | [] => ([], none)
  | c :: rest =>
    if c = sep then ([], some rest)
    else
      let (before, after) := cut sep rest
      (c :: before, after)

/-- The line and the column of a position, both counted from one. -/
def lineAndColumn (text : Text) (position : Nat) : Nat × Nat :=
  let before := text.take position
  (before.count (.char '\n') + 1, (before.reverse.takeWhile (· ≠ .char '\n')).length + 1)

def le : Text → Text → Bool
  | [], _ => true
  | _ :: _, [] => false
  | a :: as, b :: bs => if a = b then le as bs else a ≤ b

def sortedSet (texts : List Text) : List Text :=
  (texts.mergeSort le).foldr
    (fun text kept => match kept with
      | [] => [text]
      | next :: _ => if text = next then kept else text :: kept) []

/-- Whether a text can be encoded: it holds no halves of pairs. -/
def IsWhole (text : Text) : Prop := ∀ c ∈ text, c.isHalf = false

instance (text : Text) : Decidable text.IsWhole :=
  inferInstanceAs (Decidable (∀ c ∈ text, c.isHalf = false))

theorem isWhole_nil : IsWhole [] := List.forall_mem_nil _

theorem isWhole_cons {c : CodePoint} {text : Text} :
    IsWhole (c :: text) ↔ c.isHalf = false ∧ text.IsWhole :=
  List.forall_mem_cons

theorem isWhole_append {first second : Text} :
    IsWhole (first ++ second) ↔ first.IsWhole ∧ second.IsWhole :=
  List.forall_mem_append

theorem isWhole_replicate (n : Nat) {c : CodePoint} (h : c.isHalf = false) :
    IsWhole (List.replicate n c) := fun _ hd => List.eq_of_mem_replicate hd ▸ h

theorem IsWhole.of_subset {text other : Text} (h : text.IsWhole) (hsubset : other ⊆ text) :
    other.IsWhole := fun c hc => h c (hsubset hc)

theorem isWhole_flatMap {α : Type} {write : α → Text} {items : List α}
    (h : ∀ item ∈ items, (write item).IsWhole) : IsWhole (items.flatMap write) := by
  intro c hc
  obtain ⟨item, hitem, hmem⟩ := List.mem_flatMap.mp hc
  exact h item hitem c hmem

theorem isWhole_map (chars : List Char) : IsWhole (chars.map .char) := by
  intro c hc
  obtain ⟨d, -, rfl⟩ := List.mem_map.mp hc
  rfl

theorem IsWhole.between {text : Text} (h : text.IsWhole) (before after : List Char) :
    IsWhole (before.map .char ++ text ++ after.map .char) := by
  rw [isWhole_append, isWhole_append]
  exact ⟨⟨isWhole_map before, h⟩, isWhole_map after⟩

theorem splitOn_ne_nil (sep : CodePoint) (text : Text) : splitOn sep text ≠ [] := by
  induction text with
  | nil => simp [splitOn]
  | cons c rest ih =>
    rw [splitOn]
    split
    · simp
    · cases h : splitOn sep rest with
      | nil => exact absurd h ih
      | cons piece others => simp [extendHead]

theorem join_extendHead (sep : Text) (c : CodePoint) (pieces : List Text) (h : pieces ≠ []) :
    join sep (extendHead c pieces) = c :: join sep pieces := by
  match pieces, h with
  | [piece], _ => rfl
  | piece :: next :: rest, _ => rfl

theorem join_nil_cons (sep : Text) (pieces : List Text) (h : pieces ≠ []) :
    join sep ([] :: pieces) = sep ++ join sep pieces := by
  match pieces, h with
  | piece :: rest, _ => rfl

theorem join_splitOn (sep : CodePoint) (text : Text) : join [sep] (splitOn sep text) = text := by
  induction text with
  | nil => rfl
  | cons c rest ih =>
    rw [splitOn]
    split
    · next h => rw [join_nil_cons _ _ (splitOn_ne_nil sep rest), ih, h]; rfl
    · rw [join_extendHead _ _ _ (splitOn_ne_nil sep rest), ih]

theorem splitAtFrom_ne_nil (sep : Text) (skip : Nat) (text : Text) :
    splitAtFrom sep skip text ≠ [] := by
  fun_induction splitAtFrom sep skip text with
  | case1 => simp
  | case2 skip c rest ih => exact ih
  | case3 => simp
  | case4 c rest h ih =>
    cases h : splitAtFrom sep 0 rest with
    | nil => exact absurd h ih
    | cons piece others => simp [extendHead]

theorem join_splitAtFrom (sep : Text) (skip : Nat) (text : Text) (h : sep ≠ []) :
    join sep (splitAtFrom sep skip text) = text.drop skip := by
  fun_induction splitAtFrom sep skip text with
  | case1 => simp [join]
  | case2 skip c rest ih => simpa using ih
  | case3 c rest hp ih =>
    rw [join_nil_cons _ _ (splitAtFrom_ne_nil _ _ _), ih]
    obtain ⟨tail, ht⟩ := List.isPrefixOf_iff_prefix.mp hp
    match sep, h with
    | d :: sep, _ =>
      obtain ⟨rfl, rfl⟩ : d = c ∧ sep ++ tail = rest := by simpa using ht
      simp
  | case4 c rest hp ih =>
    rw [join_extendHead _ _ _ (splitAtFrom_ne_nil _ _ _), ih]
    rfl

theorem join_splitAt (sep text : Text) (h : sep ≠ []) : join sep (splitAt sep text) = text :=
  join_splitAtFrom sep 0 text h

end Text

end Clippings
