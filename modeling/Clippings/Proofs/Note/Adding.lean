import Clippings.Note.Insertion
import Clippings.Proofs.Library.Files
import Mathlib.Data.List.DropRight

namespace Clippings

theorem Text.notMem_unifyLineEndings (text : Text) : .char '\r' ∉ unifyLineEndings text := by
  fun_induction unifyLineEndings text with
  | case1 => simp
  | case2 => simp
  | case3 rest ih => simpa using ih
  | case4 c rest hnext ih => simpa using ih
  | case5 c rest hlast hpair hother ih =>
      refine List.not_mem_cons_of_ne_of_not_mem ?_ ih
      rintro rfl
      cases rest with
      | nil => exact hlast rfl rfl
      | cons d rest => exact hother d rest rfl rfl

theorem Text.exists_eq_trimEndBy (c : CodePoint) (text : Text) :
    ∃ n, text = trimEndBy (· = c) text ++ List.replicate n c ∧
      (trimEndBy (· = c) text).getLast? ≠ some c := by
  have htrim : trimEndBy (· = c) text = text.rdropWhile (· = c) := rfl
  have hend : text.rtakeWhile (· = c) = List.replicate (text.rtakeWhile (· = c)).length c :=
    List.eq_replicate_of_mem fun d hd => by simpa using List.mem_rtakeWhile_imp hd
  refine ⟨(text.rtakeWhile (· = c)).length, ?_, fun hlast => ?_⟩
  · rw [htrim, ← hend, List.rdropWhile_append_rtakeWhile]
  · rw [htrim] at hlast
    have hne : text.rdropWhile (· = c) ≠ [] := by
      intro hnil
      simp [hnil] at hlast
    have hkept := List.rdropWhile_last_not _ _ hne
    rw [List.getLast?_eq_some_getLast hne] at hlast
    exact hkept (by simp [Option.some.inj hlast])

namespace Note

/-- A text that is another one with a body added. At the bottom, the line feeds at the end of the
other text give way to one; at the top, the body goes into one place with a line feed behind it and
maybe one before it. -/
inductive Adds (existing body : Text) : Bool → Text → Prop
  | bottom {kept : Text} {n : Nat} (ended : existing = kept ++ List.replicate n (.char '\n'))
      (last : kept.getLast? ≠ some (.char '\n')) :
        Adds existing body false (kept ++ .char '\n' :: body)
  | top {head rest gap : Text} (split : existing = head ++ rest)
      (between : gap = [] ∨ gap = [.char '\n']) :
      Adds existing body true (head ++ gap ++ body ++ .char '\n' :: rest)

theorem adds_insert (atTop : Bool) (existing body : Text) :
    Adds existing body atTop (insert atTop existing body) := by
  cases atTop with
  | true =>
      have hclose (head : Text) : ∃ gap, closeLine head = head ++ gap ∧
          (gap = [] ∨ gap = [.char '\n']) := by
        rw [closeLine]
        split
        · exact ⟨[], (List.append_nil head).symm, .inl rfl⟩
        · exact ⟨[.char '\n'], rfl, .inr rfl⟩
      obtain ⟨gap, hgap, hbetween⟩ := hclose (existing.take ((block? existing).getD 0))
      rw [insert, if_pos rfl, insertAtTop, hgap]
      exact .top (List.take_append_drop _ existing).symm hbetween
  | false =>
      obtain ⟨n, hended, hlast⟩ := Text.exists_eq_trimEndBy (.char '\n') existing
      exact .bottom hended hlast

theorem Adds.count_eq {existing body text : Text} {atTop : Bool} (h : Adds existing body atTop text)
    {c : CodePoint} (hc : c ≠ '\n') : text.count c = existing.count c + body.count c := by
  cases h with
  | bottom ended last => simp [ended, List.count_replicate, hc.symm]
  | top split between =>
      rcases between with rfl | rfl
      · simp [split, hc.symm]
        omega
      · simp [split, hc.symm]
        omega

theorem adds_insert_unifyLineEndings_iff (atTop : Bool) (existing body : Text) :
    Adds existing body atTop (insert atTop existing.unifyLineEndings body) ↔
      .char '\r' ∉ existing := by
  constructor
  · intro h
    have hkept := h.count_eq (c := '\r') (by decide)
    have hunified := (adds_insert atTop existing.unifyLineEndings body).count_eq (c := '\r')
      (by decide)
    rw [List.count_eq_zero_of_not_mem (Text.notMem_unifyLineEndings existing)] at hunified
    exact List.count_eq_zero.mp (by omega)
  · intro h
    rw [Text.unifyLineEndings_eq_self h]
    exact adds_insert atTop existing body

end Note

end Clippings
