import Clippings.Proofs.Text.Lowering
import Clippings.Text.Identifier
import Mathlib.Data.List.SplitBy
/-!
Snake case and kebab case. Both go through the same blocks of a text: words, which are spelled alike
up to the sign at a hump, and runs of separators, of which each keeps its own sign and merges the
others. So they differ in the lengths of runs only.
-/

namespace Clippings.Text

def alike (c d : CodePoint) : Bool := separatesWords c == separatesWords d

def wordBlocks (text : Text) : List Text := text.splitBy alike

def separatorRuns (text : Text) : List Text := (wordBlocks text).filter (·.all separatesWords)

inductive TakeTurns : Bool → List Text → Prop
  | nil (kind : Bool) : TakeTurns kind []
  | cons {kind : Bool} {block : Text} {blocks : List Text} (ne : block ≠ [])
      (same : ∀ c ∈ block, separatesWords c = kind) (rest : TakeTurns (!kind) blocks) :
      TakeTurns kind (block :: blocks)

theorem separatesWords_of_isChain {block : Text} {kind : Bool}
    (h : block.IsChain fun c d => alike c d = true)
    (hhead : ∀ c ∈ block.head?, separatesWords c = kind) :
    ∀ c ∈ block, separatesWords c = kind := by
  induction block with
  | nil => simp
  | cons c rest ih =>
      obtain ⟨hnext, hrest⟩ := List.isChain_cons.mp h
      have hc : separatesWords c = kind := hhead c rfl
      refine List.forall_mem_cons.mpr ⟨hc, ih hrest fun d hd => ?_⟩
      rw [← hc]
      exact (beq_iff_eq.mp (hnext d hd)).symm

theorem takeTurns_of_isChain {blocks : List Text} {kind : Bool} (hne : [] ∉ blocks)
    (hsame : ∀ block ∈ blocks, block.IsChain fun c d => alike c d = true)
    (hdiffer : blocks.IsChain fun block next => ∃ hblock hnext,
      alike (block.getLast hblock) (next.head hnext) = false)
    (hhead : ∀ block ∈ blocks.head?, ∀ c ∈ block.head?, separatesWords c = kind) :
    TakeTurns kind blocks := by
  induction blocks generalizing kind with
  | nil => exact .nil kind
  | cons block rest ih =>
      obtain ⟨hblockNe, hrestNe⟩ : block ≠ [] ∧ [] ∉ rest := by
        simpa [eq_comm] using hne
      obtain ⟨hblock, hrest⟩ := List.forall_mem_cons.mp hsame
      obtain ⟨hnext, hdiffers⟩ := List.isChain_cons.mp hdiffer
      have hkind := separatesWords_of_isChain hblock (hhead block rfl)
      refine .cons hblockNe hkind (ih hrestNe hrest hdiffers ?_)
      intro next hmem c hc
      obtain ⟨hlast, hfirst, hboundary⟩ := hnext next hmem
      obtain rfl : next.head hfirst = c :=
        Option.some.inj ((List.head?_eq_some_head hfirst).symm.trans hc)
      rw [alike, hkind _ (List.getLast_mem hlast)] at hboundary
      cases kind <;> simpa using hboundary

theorem takeTurns_wordBlocks (text : Text) : ∃ kind, TakeTurns kind (wordBlocks text) := by
  refine ⟨((wordBlocks text).head?.bind List.head?).any separatesWords,
    takeTurns_of_isChain (List.nil_notMem_splitBy alike text)
      (fun block hblock => List.isChain_of_mem_splitBy hblock)
      (List.isChain_getLast_head_splitBy alike text) ?_⟩
  intro block hblock c hc
  rw [Option.mem_def.mp hblock]
  simp [Option.mem_def.mp hc]

theorem flatten_wordBlocks (text : Text) : (wordBlocks text).flatten = text :=
  List.flatten_splitBy _ text

def isOther (own c : CodePoint) : Bool := separatesWords c && c ≠ own

/-- The signs that a run of separators leaves in a spelling: each own sign, and one for others that
follow one another. -/
def signs (own : CodePoint) : Text → Nat
  | [] => 0
  | [_] => 1
  | c :: d :: rest => (if c ≠ own && d ≠ own then 0 else 1) + signs own (d :: rest)

theorem signs_pos {own : CodePoint} {run : Text} (h : run ≠ []) : 0 < signs own run := by
  fun_induction signs own run with
  | case1 => exact absurd rfl h
  | case2 => exact Nat.one_pos
  | case3 c d rest ih => exact Nat.add_pos_right _ (ih (by simp))

variable {own : CodePoint}

theorem isOther_own (own : CodePoint) : isOther own own = false := by simp [isOther]

theorem mergeRuns_of_head? {separates : CodePoint → Bool} {rest : Text}
    (h : ∀ c ∈ rest.head?, separates c = false) (sign : CodePoint) (inRun : Bool) :
    mergeRuns separates sign inRun rest = mergeRuns separates sign false rest := by
  cases rest with
  | nil => rfl
  | cons c rest =>
      have hc : separates c = false := h c rfl
      simp [mergeRuns, hc]

theorem mergeRuns_own (inRun : Bool) (rest : Text) :
    mergeRuns (isOther own) own inRun (own :: rest) =
      own :: mergeRuns (isOther own) own false rest := by
  simp [mergeRuns, isOther_own]

theorem mergeRuns_other {c : CodePoint} (h : isOther own c = true) (rest : Text) :
    mergeRuns (isOther own) own false (c :: rest) =
      own :: mergeRuns (isOther own) own true (c :: rest) := by
  simp [mergeRuns, h]

theorem eq_own_or_isOther (own : CodePoint) {c : CodePoint} (h : separatesWords c = true) :
    c = own ∨ c ≠ own ∧ isOther own c = true := by
  by_cases hc : c = own
  · exact .inl hc
  · exact .inr ⟨hc, by simp [isOther, h, hc]⟩

theorem mergeRuns_run {run rest : Text} (hne : run ≠ [])
    (hrun : ∀ c ∈ run, separatesWords c = true) (hrest : ∀ c ∈ rest.head?, isOther own c = false) :
    mergeRuns (isOther own) own false (run ++ rest) =
      List.replicate (signs own run) own ++ mergeRuns (isOther own) own false rest := by
  fun_induction signs own run with
  | case1 => exact absurd rfl hne
  | case2 c =>
      rcases eq_own_or_isOther own (hrun c (by simp)) with rfl | ⟨-, hother⟩
      · exact mergeRuns_own false rest
      · rw [List.singleton_append, mergeRuns_other hother, mergeRuns, if_pos hother, if_pos rfl,
          mergeRuns_of_head? hrest]
        rfl
  | case3 c d others ih =>
      obtain ⟨hc, hothers⟩ := List.forall_mem_cons.mp hrun
      have hnext := ih (by simp) hothers
      rcases eq_own_or_isOther own hc with rfl | ⟨hne, hother⟩
      · rw [List.cons_append, mergeRuns_own, hnext]
        simp [Nat.add_comm 1, List.replicate_succ]
      · rw [List.cons_append, mergeRuns_other hother, mergeRuns, if_pos hother, if_pos rfl]
        rcases eq_own_or_isOther own (hothers d (by simp)) with rfl | ⟨hne', hother'⟩
        · rw [List.cons_append, mergeRuns_own] at hnext ⊢
          rw [hnext]
          simp [Nat.add_comm 1, List.replicate_succ]
        · rw [List.cons_append, mergeRuns_other hother'] at hnext
          rw [List.cons_append, hnext]
          simp [hne, hne']

theorem mergeRuns_word {separates : CodePoint → Bool} {word : Text} (hne : word ≠ [])
    (h : ∀ c ∈ word, separates c = false) (sign : CodePoint) (inRun : Bool) (rest : Text) :
    mergeRuns separates sign inRun (word ++ rest) =
      word ++ mergeRuns separates sign false rest := by
  induction word generalizing inRun with
  | nil => exact absurd rfl hne
  | cons c word ih =>
      obtain ⟨hc, hword⟩ := List.forall_mem_cons.mp h
      have hstep : mergeRuns separates sign inRun (c :: (word ++ rest)) =
          c :: mergeRuns separates sign false (word ++ rest) := by
        simp [mergeRuns, hc]
      rw [List.cons_append, hstep, List.cons_append]
      cases word with
      | nil => rfl
      | cons d word => rw [ih (by simp) hword]

theorem mergeRuns_replicate {sign : CodePoint} {n : Nat} (h : 0 < n) (inRun : Bool) (rest : Text) :
    mergeRuns (· = sign) sign inRun (List.replicate n sign ++ rest) =
      (if inRun then [] else [sign]) ++ mergeRuns (· = sign) sign true rest := by
  obtain ⟨n, rfl⟩ := Nat.exists_eq_succ_of_ne_zero h.ne'
  have hmore (n : Nat) : mergeRuns (· = sign) sign true (List.replicate n sign ++ rest) =
      mergeRuns (· = sign) sign true rest := by
    induction n with
    | zero => rfl
    | succ n ih => simpa [List.replicate_succ, mergeRuns] using ih
  rw [List.replicate_succ, List.cons_append, mergeRuns, hmore]
  cases inRun <;> simp

theorem mergeRuns_append_congr {separates : CodePoint → Bool} {sign : CodePoint} {rest other : Text}
    (h : ∀ inRun, mergeRuns separates sign inRun rest = mergeRuns separates sign inRun other)
    (text : Text) (inRun : Bool) :
    mergeRuns separates sign inRun (text ++ rest) =
      mergeRuns separates sign inRun (text ++ other) := by
  induction text generalizing inRun with
  | nil => exact h inRun
  | cons c text ih => rw [List.cons_append, List.cons_append, mergeRuns, mergeRuns, ih, ih]

theorem replicate_append_eq_iff {sign : CodePoint} {n m : Nat} {rest other : Text}
    (hrest : ∀ c ∈ rest.head?, c ≠ sign) (hother : ∀ c ∈ other.head?, c ≠ sign) :
    List.replicate n sign ++ rest = List.replicate m sign ++ other ↔ n = m ∧ rest = other := by
  induction n generalizing m with
  | zero =>
      cases m with
      | zero => simp
      | succ m =>
          refine ⟨?_, by simp⟩
          rintro rfl
          exact absurd rfl (hrest sign rfl)
  | succ n ih =>
      cases m with
      | zero =>
          refine ⟨?_, by simp⟩
          rintro rfl
          exact absurd rfl (hother sign rfl)
      | succ m => simp [List.replicate_succ, ih]

theorem splitHumps_append {text rest : Text}
    (h : ∀ c ∈ text.getLast?, ∀ d ∈ rest.head?, (isPlainLower c && isPlainUpper d) = false)
    (sign : CodePoint) :
    splitHumps sign (text ++ rest) = splitHumps sign text ++ splitHumps sign rest := by
  fun_induction splitHumps sign text with
  | case1 c d others hhump ih =>
      rw [List.cons_append, List.cons_append, splitHumps, if_pos hhump, ← List.cons_append,
        ih (by simpa using h)]
      rfl
  | case2 c d others hhump ih =>
      rw [List.cons_append, List.cons_append, splitHumps, if_neg hhump, ← List.cons_append,
        ih (by simpa using h)]
      rfl
  | case3 text hshort =>
      rcases text with _ | ⟨c, _ | ⟨d, others⟩⟩
      · rfl
      · cases rest with
        | nil => rfl
        | cons d others =>
            have hflat : ¬(isPlainLower c && isPlainUpper d) = true := by simp [h c rfl d rfl]
            rw [List.singleton_append, splitHumps, if_neg hflat]
            rfl
      · exact absurd rfl (hshort c d others)

theorem mem_splitHumps {sign c : CodePoint} {text : Text} (h : c ∈ splitHumps sign text) :
    c ∈ text ∨ c = sign := by
  fun_induction splitHumps sign text with
  | case1 d e others hhump ih =>
      simp only [List.mem_cons] at h ih ⊢
      tauto
  | case2 d e others hhump ih =>
      simp only [List.mem_cons] at h ih ⊢
      tauto
  | case3 text hshort => exact .inl h

theorem head?_splitHumps (sign : CodePoint) (text : Text) :
    (splitHumps sign text).head? = text.head? := by
  fun_cases splitHumps sign text <;> rfl

theorem separatesWords_bounds {c : CodePoint} (h : separatesWords c = true) :
    c.toNat ≤ 0x2D ∨ c.toNat = 0x5F ∨ 0x85 ≤ c.toNat := by
  simp only [separatesWords, Bool.or_eq_true, decide_eq_true_eq] at h
  rcases h with (rfl | rfl) | hblank
  · exact .inl (by decide)
  · exact .inr (.inl rfl)
  · obtain ⟨range, hrange, hfirst, hlast⟩ := mem_of_inRanges hblank
    have hblanks : ∀ range ∈ blankRanges, range.2 ≤ 0x2D ∨ 0x85 ≤ range.1 := by decide
    have := hblanks range hrange
    omega

theorem not_isPlain {c : CodePoint} (h : separatesWords c = true) :
    isPlainLower c = false ∧ isPlainUpper c = false := by
  have hbounds := separatesWords_bounds h
  constructor
  · by_contra hletter
    simp only [isPlainLower, Bool.not_eq_false, Bool.and_eq_true, decide_eq_true_eq] at hletter
    have hfirst : 0x61 ≤ c.toNat := hletter.1
    have hlast : c.toNat ≤ 0x7A := hletter.2
    omega
  · by_contra hletter
    simp only [isPlainUpper, Bool.not_eq_false, Bool.and_eq_true, decide_eq_true_eq] at hletter
    have hfirst : 0x41 ≤ c.toNat := hletter.1
    have hlast : c.toNat ≤ 0x5A := hletter.2
    omega

theorem splitHumps_run {run : Text} (h : ∀ c ∈ run, separatesWords c = true) (sign : CodePoint) :
    splitHumps sign run = run := by
  fun_induction splitHumps sign run with
  | case1 c d others hhump ih =>
      rw [(not_isPlain (h c (by simp))).1] at hhump
      cases hhump
  | case2 c d others hhump ih => rw [ih (List.forall_mem_cons.mp h).2]
  | case3 => rfl

theorem hyphenate_splitHumps {word : Text} (h : .char '_' ∉ word) :
    hyphenate (splitHumps '_' word) = splitHumps '-' word := by
  have hcons {c : CodePoint} (hc : c ≠ '_') (rest : Text) :
      hyphenate (c :: rest) = c :: hyphenate rest := by
    rw [hyphenate, List.map_cons, if_neg hc, ← hyphenate]
  fun_induction splitHumps '_' word with
  | case1 c d others hhump ih =>
      rw [hcons (by rintro rfl; simp at h), splitHumps, if_pos hhump,
        ← ih fun hmem => h (List.mem_cons_of_mem c hmem)]
      rfl
  | case2 c d others hhump ih =>
      rw [hcons (by rintro rfl; simp at h), splitHumps, if_neg hhump,
        ← ih fun hmem => h (List.mem_cons_of_mem c hmem)]
  | case3 text hshort =>
      rw [hyphenate_eq_self h]
      rcases text with _ | ⟨c, _ | ⟨d, others⟩⟩
      · rfl
      · rfl
      · exact absurd rfl (hshort c d others)

/-- What a block of a text becomes, if each run of separators leaves a number of signs. -/
def spelled (own : CodePoint) (count : Text → Nat) (block : Text) : Text :=
  if block.all separatesWords then List.replicate (count block) own else splitHumps own block

theorem spelled_run {block : Text} (h : ∀ c ∈ block, separatesWords c = true) (own : CodePoint)
    (count : Text → Nat) : spelled own count block = List.replicate (count block) own :=
  if_pos (List.all_eq_true.mpr h)

theorem spelled_word {block : Text} (hne : block ≠ []) (h : ∀ c ∈ block, separatesWords c = false)
    (own : CodePoint) (count : Text → Nat) : spelled own count block = splitHumps own block := by
  refine if_neg fun hall => ?_
  have hhead := List.head_mem hne
  rw [List.all_eq_true] at hall
  exact absurd (hall _ hhead) (by simp [h _ hhead])

namespace TakeTurns

variable {kind : Bool} {blocks : List Text}

theorem head?_flatten (h : TakeTurns kind blocks) :
    ∀ c ∈ blocks.flatten.head?, separatesWords c = kind := by
  cases h with
  | nil => simp
  | cons ne same rest =>
      intro c hc
      rw [List.flatten_cons, List.head?_append_of_ne_nil _ ne] at hc
      exact same c (List.mem_of_mem_head? hc)

theorem ne_nil (h : TakeTurns kind blocks) : ∀ block ∈ blocks, block ≠ [] := by
  induction h with
  | nil => simp
  | cons ne same rest ih => exact List.forall_mem_cons.mpr ⟨ne, ih⟩

theorem mergeRuns_flatten (h : TakeTurns kind blocks) (own : CodePoint) :
    mergeRuns (isOther own) own false (splitHumps own blocks.flatten) =
      blocks.flatMap (spelled own (signs own)) := by
  induction h with
  | nil => rfl
  | @cons kind block blocks ne same rest ih =>
      have hhead := rest.head?_flatten
      rw [List.flatten_cons, List.flatMap_cons, ← ih]
      cases kind with
      | true =>
          rw [splitHumps_append, splitHumps_run same, mergeRuns_run ne same,
            spelled_run same]
          · intro c hc
            rw [head?_splitHumps] at hc
            simp [isOther, hhead c hc]
          · intro c hc d _
            simp [(not_isPlain (same c (List.mem_of_mem_getLast? hc))).1]
      | false =>
          have hword : ∀ c ∈ splitHumps own block, isOther own c = false := by
            intro c hc
            rcases mem_splitHumps hc with hc | rfl
            · simp [isOther, same c hc]
            · exact isOther_own c
          have hne : splitHumps own block ≠ [] := by
            rw [ne_eq, ← List.head?_eq_none_iff, head?_splitHumps, List.head?_eq_none_iff]
            exact ne
          rw [splitHumps_append, mergeRuns_word hne hword, spelled_word ne same]
          intro c _ d hd
          simp [(not_isPlain (hhead d hd)).2]

theorem hyphenate_flatMap_spelled (h : TakeTurns kind blocks) (count : Text → Nat) :
    hyphenate (blocks.flatMap (spelled '_' count)) = blocks.flatMap (spelled '-' count) := by
  induction h with
  | nil => rfl
  | @cons kind block blocks ne same rest ih =>
      rw [List.flatMap_cons, List.flatMap_cons, hyphenate_append, ih]
      cases kind with
      | true =>
          rw [spelled_run same, spelled_run same, hyphenate, List.map_replicate]
          rfl
      | false =>
          have hfree : .char '_' ∉ block := fun hmem => absurd (same (.char '_') hmem) (by decide)
          rw [spelled_word ne same, spelled_word ne same, hyphenate_splitHumps hfree]

variable {count other : Text → Nat}

theorem exists_cons_of_run (h : TakeTurns true blocks) (hcount : ∀ block ∈ blocks, 0 < count block)
    (hne : blocks ≠ []) : ∃ rest, blocks.flatMap (spelled '-' count) = .char '-' :: rest := by
  cases h with
  | nil => exact absurd rfl hne
  | @cons _ block blocks ne same rest =>
      obtain ⟨n, hn⟩ := Nat.exists_eq_succ_of_ne_zero (hcount block (by simp)).ne'
      rw [List.flatMap_cons, spelled_run same, hn, List.replicate_succ]
      exact ⟨_, rfl⟩

theorem lower_flatMap_spelled (h : TakeTurns kind blocks)
    (hcount : ∀ block ∈ blocks, 0 < count block) :
    lower (blocks.flatMap (spelled '-' count)) =
      blocks.flatMap fun block => lower (spelled '-' count block) := by
  induction h with
  | nil => rfl
  | @cons kind block blocks ne same rest ih =>
      obtain ⟨-, hrest⟩ := List.forall_mem_cons.mp hcount
      rw [List.flatMap_cons, List.flatMap_cons, ← ih hrest]
      cases kind with
      | true =>
          rw [spelled_run same, endsWord_hyphen.lower_replicate_append,
            endsWord_hyphen.lower_replicate]
      | false =>
          rcases eq_or_ne blocks [] with rfl | hblocks
          · simp [lower, lowerAfter]
          · obtain ⟨tail, htail⟩ := exists_cons_of_run rest hrest hblocks
            rw [htail, endsWord_hyphen.lower_append, endsWord_hyphen.lower_cons]

theorem head?_flatMap_lower (h : TakeTurns false blocks) :
    ∀ c ∈ (blocks.flatMap fun block => lower (spelled '-' count block)).head?, c ≠ '-' := by
  cases h with
  | nil => simp
  | @cons _ block blocks ne same rest =>
      rintro c hc rfl
      have hne : splitHumps '-' block ≠ [] := by
        rw [ne_eq, ← List.head?_eq_none_iff, head?_splitHumps, List.head?_eq_none_iff]
        exact ne
      rw [List.flatMap_cons, spelled_word ne same,
        List.head?_append_of_ne_nil _ (lower_ne_nil hne)] at hc
      rcases head?_lower hc with hhead | hletter
      · rw [head?_splitHumps] at hhead
        exact absurd (same '-' (List.mem_of_mem_head? hhead)) (by decide)
      · exact absurd hletter (by decide)

theorem flatMap_lower_eq_iff (h : TakeTurns kind blocks) :
    (blocks.flatMap fun block => lower (spelled '-' count block)) =
        (blocks.flatMap fun block => lower (spelled '-' other block)) ↔
      ∀ run ∈ blocks.filter (·.all separatesWords), count run = other run := by
  induction h with
  | nil => simp
  | @cons kind block blocks ne same rest ih =>
      rw [List.flatMap_cons, List.flatMap_cons]
      cases kind with
      | true =>
          rw [spelled_run same, spelled_run same, endsWord_hyphen.lower_replicate,
            endsWord_hyphen.lower_replicate,
            replicate_append_eq_iff rest.head?_flatMap_lower rest.head?_flatMap_lower, ih,
            List.filter_cons, if_pos (List.all_eq_true.mpr same), List.forall_mem_cons]
      | false =>
          have hword : ¬block.all separatesWords = true := by
            have hfirst := List.head_mem ne
            exact fun hall => by simpa [same _ hfirst] using List.all_eq_true.mp hall _ hfirst
          rw [spelled_word ne same, spelled_word ne same, List.append_right_inj, ih,
            List.filter_cons, if_neg hword]

theorem mergeRuns_flatMap_lower (h : TakeTurns kind blocks)
    (hcount : ∀ block ∈ blocks, 0 < count block) (hother : ∀ block ∈ blocks, 0 < other block)
    (inRun : Bool) :
    mergeRuns (· = '-') '-' inRun (blocks.flatMap fun block => lower (spelled '-' count block)) =
      mergeRuns (· = '-') '-' inRun
        (blocks.flatMap fun block => lower (spelled '-' other block)) := by
  induction h generalizing inRun with
  | nil => rfl
  | @cons kind block blocks ne same rest ih =>
      obtain ⟨hcount, hcounts⟩ := List.forall_mem_cons.mp hcount
      obtain ⟨hother, hothers⟩ := List.forall_mem_cons.mp hother
      have hrest := ih hcounts hothers
      rw [List.flatMap_cons, List.flatMap_cons]
      cases kind with
      | true =>
          rw [spelled_run same, spelled_run same, endsWord_hyphen.lower_replicate,
            endsWord_hyphen.lower_replicate, mergeRuns_replicate hcount,
            mergeRuns_replicate hother, hrest]
      | false =>
          rw [spelled_word ne same, spelled_word ne same]
          exact mergeRuns_append_congr hrest _ inRun

end TakeTurns

theorem isOther_underscore :
    isOther (.char '_') = fun c => decide (c = .char '-') || isBlank c := by
  funext c
  by_cases hc : c = '_'
  · subst hc
    decide
  · simp [isOther, separatesWords, hc]

theorem isOther_hyphen : isOther (.char '-') = fun c => decide (c = .char '_') || isBlank c := by
  funext c
  by_cases hc : c = '-'
  · subst hc
    decide
  · simp [isOther, separatesWords, hc]

theorem snakeCase_eq (text : Text) :
    snakeCase text = lower (mergeRuns (isOther '_') '_' false (splitHumps '_' text)) := by
  rw [snakeCase, isOther_underscore]

theorem kebabCase_eq (text : Text) :
    kebabCase text = lower (mergeRuns (isOther '-') '-' false (splitHumps '-' text)) := by
  rw [kebabCase, isOther_hyphen]

theorem kebabCase_eq_flatMap (text : Text) :
    kebabCase text =
      (wordBlocks text).flatMap fun block => lower (spelled '-' (signs '-') block) := by
  obtain ⟨kind, hturns⟩ := takeTurns_wordBlocks text
  have hmerged := hturns.mergeRuns_flatten '-'
  rw [flatten_wordBlocks] at hmerged
  rw [kebabCase_eq, hmerged]
  exact hturns.lower_flatMap_spelled fun block hblock => signs_pos (hturns.ne_nil block hblock)

theorem hyphenate_snakeCase (text : Text) :
    hyphenate (snakeCase text) =
      (wordBlocks text).flatMap fun block => lower (spelled '-' (signs '_') block) := by
  obtain ⟨kind, hturns⟩ := takeTurns_wordBlocks text
  have hmerged := hturns.mergeRuns_flatten '_'
  rw [flatten_wordBlocks] at hmerged
  rw [snakeCase_eq, ← lower_hyphenate, hmerged, hturns.hyphenate_flatMap_spelled]
  exact hturns.lower_flatMap_spelled fun block hblock => signs_pos (hturns.ne_nil block hblock)

theorem mergeRuns_kebabCase (text : Text) :
    mergeRuns (· = '-') '-' false (kebabCase text) =
      mergeRuns (· = '-') '-' false (hyphenate (snakeCase text)) := by
  obtain ⟨kind, hturns⟩ := takeTurns_wordBlocks text
  rw [kebabCase_eq_flatMap, hyphenate_snakeCase]
  exact hturns.mergeRuns_flatMap_lower (fun block hblock => signs_pos (hturns.ne_nil block hblock))
    (fun block hblock => signs_pos (hturns.ne_nil block hblock)) false

theorem kebabCase_eq_hyphenate_iff (text : Text) :
    kebabCase text = hyphenate (snakeCase text) ↔
      ∀ run ∈ separatorRuns text, signs '-' run = signs '_' run := by
  obtain ⟨kind, hturns⟩ := takeTurns_wordBlocks text
  rw [kebabCase_eq_flatMap, hyphenate_snakeCase]
  exact hturns.flatMap_lower_eq_iff

end Clippings.Text
