import Clippings.Text.Blank
import Mathlib.Data.List.DropRight

namespace Clippings.Text

theorem trimBy_eq_rdropWhile (drop : CodePoint → Bool) (text : Text) :
    trimBy drop text = (text.dropWhile drop).rdropWhile drop := rfl

theorem trimBy_isInfix (drop : CodePoint → Bool) (text : Text) : trimBy drop text <:+: text := by
  rw [trimBy_eq_rdropWhile]
  exact (List.rdropWhile_prefix drop _).isInfix.trans (List.dropWhile_suffix drop).isInfix

theorem trimBy_eq_self_of_ends {drop : CodePoint → Bool} {text : Text}
    (hhead : ∀ c, text.head? = some c → drop c = false)
    (hlast : ∀ c, text.getLast? = some c → drop c = false) : trimBy drop text = text := by
  have hfront : text.dropWhile drop = text := by
    cases text with
    | nil => rfl
    | cons c rest => simp [hhead c rfl]
  rw [trimBy_eq_rdropWhile, hfront, List.rdropWhile_eq_self_iff]
  intro hne
  simp [hlast _ (List.getLast?_eq_some_getLast hne)]

theorem drop_of_head?_trimBy {drop : CodePoint → Bool} {text : Text} {c : CodePoint}
    (hc : (trimBy drop text).head? = some c) : drop c = false := by
  obtain ⟨tail, htail⟩ := List.rdropWhile_prefix drop (text.dropWhile drop)
  have hfront : (text.dropWhile drop).head? = some c := by
    rw [← htail, ← trimBy_eq_rdropWhile, List.head?_append, hc]
    rfl
  have hkept := List.head?_dropWhile_not drop text
  simpa [hfront] using hkept

theorem drop_of_getLast?_trimBy {drop : CodePoint → Bool} {text : Text} {c : CodePoint}
    (hc : (trimBy drop text).getLast? = some c) : drop c = false := by
  have hne : trimBy drop text ≠ [] := by
    rintro hnil
    simp [hnil] at hc
  have hkept := List.rdropWhile_last_not drop (text.dropWhile drop) hne
  simp only [← trimBy_eq_rdropWhile] at hkept
  rw [List.getLast?_eq_some_getLast hne] at hc
  simpa [← Option.some.inj hc] using hkept

theorem trimBy_trimBy (drop : CodePoint → Bool) (text : Text) :
    trimBy drop (trimBy drop text) = trimBy drop text :=
  trimBy_eq_self_of_ends (fun _ hc => drop_of_head?_trimBy hc)
    (fun _ hc => drop_of_getLast?_trimBy hc)

theorem strip_isInfix (text : Text) : strip text <:+: text := trimBy_isInfix isBlank text

theorem length_strip_le (text : Text) : (strip text).length ≤ text.length :=
  (strip_isInfix text).length_le

theorem mem_of_mem_strip {text : Text} {c : CodePoint} (hc : c ∈ strip text) : c ∈ text :=
  (strip_isInfix text).subset hc

theorem strip_strip (text : Text) : strip (strip text) = strip text := trimBy_trimBy isBlank text

theorem exists_eq_strip (text : Text) :
    ∃ lead tail, text = lead ++ (strip text ++ tail) ∧
      (∀ c ∈ lead, isBlank c = true) ∧ ∀ c ∈ tail, isBlank c = true := by
  refine ⟨text.takeWhile isBlank, (text.dropWhile isBlank).rtakeWhile isBlank, ?_,
    fun c hc => List.mem_takeWhile_imp hc, fun c hc => List.mem_rtakeWhile_imp hc⟩
  rw [strip, trimBy_eq_rdropWhile, List.rdropWhile_append_rtakeWhile,
    List.takeWhile_append_dropWhile]

theorem strip_append_of_isBlank {lead : Text} (h : ∀ c ∈ lead, isBlank c = true) (text : Text) :
    strip (lead ++ text) = strip text := by
  rw [strip, strip, trimBy_eq_rdropWhile, trimBy_eq_rdropWhile, List.dropWhile_append_of_pos h]

theorem strip_eq_self_of_ends {text : Text}
    (hhead : ∀ c, text.head? = some c → isBlank c = false)
    (hlast : ∀ c, text.getLast? = some c → isBlank c = false) : strip text = text :=
  trimBy_eq_self_of_ends hhead hlast

theorem isBlank_head {text : Text} {c : CodePoint} (hstrip : strip text = text)
    (hc : text.head? = some c) : isBlank c = false :=
  drop_of_head?_trimBy (hstrip ▸ hc)

theorem isBlank_getLast {text : Text} {c : CodePoint} (hstrip : strip text = text)
    (hc : text.getLast? = some c) : isBlank c = false :=
  drop_of_getLast?_trimBy (hstrip ▸ hc)

end Clippings.Text
