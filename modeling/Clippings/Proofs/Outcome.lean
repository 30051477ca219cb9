import Mathlib.Data.List.Forall2

namespace Clippings.Except

theorem exists_of_bind_eq_ok {ε α β : Type} {x : Except ε α} {f : α → Except ε β} {b : β}
    (h : x >>= f = .ok b) : ∃ a, x = .ok a ∧ f a = .ok b := by
  cases x with
  | error e => cases h
  | ok a => exact ⟨a, rfl, h⟩

theorem exists_of_map_eq_ok {ε α β : Type} {x : Except ε α} {f : α → β} {b : β}
    (h : x.map f = .ok b) : ∃ a, x = .ok a ∧ f a = b := by
  cases x with
  | error e => cases h
  | ok a => exact ⟨a, rfl, Except.ok.inj h⟩

theorem toOption_eq_some_iff {ε α : Type} {x : Except ε α} {a : α} :
    x.toOption = some a ↔ x = .ok a := by
  cases x <;> simp [Except.toOption]

theorem of_refused_eq_ok {ε α : Type} {refused : Prop} [Decidable refused] {e : ε}
    {next : PUnit → Except ε α} {a : α}
    (h : (if refused then (throw e : Except ε PUnit) >>= next else next ⟨⟩) = .ok a) :
    next ⟨⟩ = .ok a := by
  split at h
  · cases h
  · exact h

theorem exists_of_mem_mapM {ε α β : Type} {f : α → Except ε β} {items : List α} {results : List β}
    (h : items.mapM f = .ok results) {b : β} (hb : b ∈ results) : ∃ a ∈ items, f a = .ok b := by
  induction items generalizing results with
  | nil =>
      obtain rfl : [] = results := Except.ok.inj h
      simp at hb
  | cons item rest ih =>
      rw [List.mapM_cons] at h
      obtain ⟨first, hfirst, h⟩ := exists_of_bind_eq_ok h
      obtain ⟨others, hothers, h⟩ := exists_of_bind_eq_ok h
      obtain rfl : first :: others = results := Except.ok.inj h
      rcases List.mem_cons.mp hb with rfl | hmem
      · exact ⟨item, by simp, hfirst⟩
      · obtain ⟨a, ha, hresult⟩ := ih hothers hmem
        exact ⟨a, by simp [ha], hresult⟩

end Clippings.Except

namespace Clippings

structure Settles {ε α : Type} (p : ε → Prop) (q : α → Prop) (x : Except ε α) : Prop where
  fails : ∀ e, x = .error e → p e
  gives : ∀ a, x = .ok a → q a

abbrev FailsOnly {ε α : Type} (p : ε → Prop) (x : Except ε α) : Prop := Settles p (fun _ => True) x

namespace Settles

variable {ε α β : Type} {p : ε → Prop} {q : α → Prop} {r : β → Prop}

theorem ok {a : α} (h : q a) : Settles p q (.ok a : Except ε α) where
  fails := by rintro _ ⟨⟩
  gives := by
    rintro _ ⟨⟩
    exact h

theorem error {e : ε} (h : p e) : Settles p q (.error e : Except ε α) where
  fails := by
    rintro _ ⟨⟩
    exact h
  gives := by rintro _ ⟨⟩

theorem bind {x : Except ε α} {f : α → Except ε β} (hx : Settles p q x)
    (hf : ∀ a, q a → Settles p r (f a)) : Settles p r (x >>= f) := by
  cases x with
  | error e => exact .error (hx.fails e rfl)
  | ok a => exact hf a (hx.gives a rfl)

theorem mono {p' : ε → Prop} {q' : α → Prop} {x : Except ε α} (hx : Settles p q x)
    (hp : ∀ e, p e → p' e) (hq : ∀ a, q a → q' a) : Settles p' q' x where
  fails := fun e he => hp e (hx.fails e he)
  gives := fun a ha => hq a (hx.gives a ha)

theorem exists_ok {x : Except ε α} (h : Settles p q x) (hp : ∀ e, ¬ p e) :
    ∃ a, x = .ok a ∧ q a := by
  cases x with
  | error e => exact absurd (h.fails e rfl) (hp e)
  | ok a => exact ⟨a, rfl, h.gives a rfl⟩

theorem mapError {δ : Type} {x : Except δ α} {f : δ → ε} (h : ∀ e, p (f e)) :
    FailsOnly p (x.mapError f) := by
  cases x with
  | error e => exact .error (h e)
  | ok a => exact .ok trivial

end Settles

end Clippings

namespace Clippings.Option

theorem forall₂_of_mapM_eq_some {α β : Type} {f : α → Option β} {items : List α}
    {results : List β} (h : items.mapM f = some results) :
    List.Forall₂ (fun item result => f item = some result) items results := by
  induction items generalizing results with
  | nil =>
      obtain rfl : [] = results := Option.some.inj h
      exact .nil
  | cons item rest ih =>
      rw [List.mapM_cons] at h
      obtain ⟨first, hfirst, h⟩ := Option.bind_eq_some_iff.mp h
      obtain ⟨others, hothers, h⟩ := Option.bind_eq_some_iff.mp h
      obtain rfl : first :: others = results := Option.some.inj h
      exact .cons hfirst (ih hothers)

theorem exists_mapM_eq_some {α β : Type} {f : α → Option β} {items : List α}
    (h : ∀ item ∈ items, ∃ result, f item = some result) :
    ∃ results, items.mapM f = some results := by
  induction items with
  | nil => exact ⟨[], rfl⟩
  | cons item rest ih =>
      obtain ⟨⟨first, hfirst⟩, hrest⟩ := List.forall_mem_cons.mp h
      obtain ⟨others, hothers⟩ := ih hrest
      exact ⟨first :: others, by rw [List.mapM_cons, hfirst, hothers]; rfl⟩

end Clippings.Option
