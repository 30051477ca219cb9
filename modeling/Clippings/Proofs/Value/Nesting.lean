import Clippings.Value.Display
import Mathlib.Order.MinMax
/-!
How deep values are nested. A walk through a value needs room for its levels, and in less room it
breaks off; nothing else depends on the room.
-/

namespace Clippings

namespace Descent

variable {descent : Descent} {room : Nat}

theorem enter_of_le (h : descent.cost ≤ room) : descent.enter room = .ok (room - descent.cost) :=
  if_neg (Nat.not_lt.mpr h)

theorem enter_of_lt (h : room < descent.cost) : descent.enter room = .error descent := if_pos h

theorem enter_succ (h : descent.cost = 1) (room : Nat) :
    descent.enter (room + 1) = .ok room := by
  rw [enter_of_le (by omega), h]
  rfl

theorem room_of_le (h : descent.cost ≤ room) : descent.room room = .ok (room - descent.cost) := by
  rw [Descent.room, enter_of_le h]
  rfl

theorem room_of_lt (h : room < descent.cost) : descent.room room = .error (.tooDeep descent) := by
  rw [Descent.room, enter_of_lt h]
  rfl

end Descent

/-- A walk that needs some room: in as much room it comes to a result, and in less it breaks off. -/
inductive Takes {α : Type} (need room : Nat) : Except PrintError α → Prop
  | ok (enough : need ≤ room) (a : α) : Takes need room (.ok a)
  | tooDeep (short : room < need) (descent : Descent) : Takes need room (.error (.tooDeep descent))

namespace Takes

variable {α β : Type} {need more room : Nat} {walk : Except PrintError α}

theorem of_eq_ok {a : α} (h : walk = .ok a) : Takes 0 room walk := by
  rw [h]
  exact .ok (Nat.zero_le room) a

theorem exists_ok (h : Takes need room walk) (henough : need ≤ room) : ∃ a, walk = .ok a := by
  cases h with
  | ok _ a => exact ⟨a, rfl⟩
  | tooDeep short => exact absurd henough (Nat.not_le.mpr short)

theorem bind {next : α → Except PrintError β} (h : Takes need room walk)
    (hnext : ∀ a, Takes more room (next a)) : Takes (max need more) room (walk >>= next) := by
  cases h with
  | ok enough a =>
      have hrest := hnext a
      change Takes (max need more) room (next a)
      generalize next a = rest at hrest ⊢
      cases hrest with
      | ok enoughMore b => exact .ok (max_le enough enoughMore) b
      | tooDeep short descent => exact .tooDeep (lt_max_of_lt_right short) descent
  | tooDeep short descent => exact .tooDeep (lt_max_of_lt_left short) descent

theorem map (h : Takes need room walk) (change : α → β) :
    Takes need room (walk >>= fun a => pure (change a)) := by
  cases h with
  | ok enough a => exact .ok enough (change a)
  | tooDeep short descent => exact .tooDeep short descent

theorem enter (descent : Descent) {walk : Nat → Except PrintError α}
    (h : ∀ room, Takes need room (walk room)) (room : Nat) :
    Takes (need + descent.cost) room (descent.room room >>= walk) := by
  rcases Nat.lt_or_ge room descent.cost with hshort | henough
  · rw [Descent.room_of_lt hshort]
    exact .tooDeep (by omega) descent
  · rw [Descent.room_of_le henough]
    have hinside := h (room - descent.cost)
    change Takes (need + descent.cost) room (walk (room - descent.cost))
    generalize walk (room - descent.cost) = inside at hinside ⊢
    cases hinside with
    | ok enough a => exact .ok (by omega) a
    | tooDeep short descent => exact .tooDeep (by omega) descent

end Takes

namespace Value

mutual

def nesting : Value → Nat
  | list items => itemsNesting items + 1
  | tuple items => itemsNesting items + 1
  | map entries => entriesNesting entries + 1
  | _ => 0

def itemsNesting : List Value → Nat
  | [] => 0
  | item :: rest => max item.nesting (itemsNesting rest)

def entriesNesting : List (Value × Value) → Nat
  | [] => 0
  | (_, value) :: rest => max value.nesting (entriesNesting rest)

end

mutual

/-- How many calls are open inside of one another when a value is shown in a note. -/
def reach : Value → Nat
  | list items => itemsReach items + Descent.display.cost
  | tuple items => itemsReach items + Descent.display.cost
  | map entries => entriesNesting entries + 1
  | _ => 0

def itemsReach : List Value → Nat
  | [] => 0
  | item :: rest => max item.reach (itemsReach rest)

end

end Value

/-- A text in JSON of many lists in one another, with as many mappings inside. -/
def nestedJson : Text :=
  List.replicate 200 (.char '[') ++ (List.replicate 450 ("\x7b\"a\":" : Text)).flatten ++
    .char '1' :: List.replicate 450 (.char '\x7d') ++ List.replicate 200 (.char ']')

end Clippings
