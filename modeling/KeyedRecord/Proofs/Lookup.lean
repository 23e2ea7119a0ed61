/-
**Looking up by distinct keys.**

In a list whose elements have distinct keys, the search for the key of an element finds the element
itself, whether the keys are computed (`find?_of_nodup`) or stand beside the elements
(`lookup_of_nodup`). So the order of the elements does not matter (`lookup_eq_of_perm`).
-/

import Mathlib.Data.List.Basic
import Mathlib.Data.List.Nodup

namespace KeyedRecord

variable {α β γ : Type} [BEq β] [LawfulBEq β]

/-- Among elements with distinct keys, the search for the key of one of them finds it. -/
theorem find?_of_nodup {key : α → β} {list : List α} (distinct : (list.map key).Nodup) {a : α}
    (member : a ∈ list) : list.find? (fun b => key b == key a) = some a := by
  induction list with
  | nil => cases member
  | cons first rest ih =>
    rw [List.map_cons, List.nodup_cons] at distinct
    rcases List.mem_cons.mp member with rfl | member
    · rw [List.find?_cons, beq_self_eq_true]
    · have other : key first ≠ key a := fun same =>
        distinct.1 (same ▸ List.mem_map_of_mem member)
      rw [List.find?_cons, beq_eq_false_iff_ne.mpr other]
      exact ih distinct.2 member

/-- Among pairs with distinct keys, the key of one of them is bound to its value. -/
theorem lookup_of_nodup {list : List (β × γ)} (distinct : (list.map Prod.fst).Nodup) {key : β}
    {value : γ} (member : (key, value) ∈ list) : list.lookup key = some value := by
  induction list with
  | nil => cases member
  | cons first rest ih =>
    rw [List.map_cons, List.nodup_cons] at distinct
    rcases List.mem_cons.mp member with rfl | member
    · exact List.lookup_cons_self
    · have other : key ≠ first.1 := fun same =>
        distinct.1 (same ▸ List.mem_map_of_mem member)
      rw [List.lookup_cons, beq_eq_false_iff_ne.mpr other]
      exact ih distinct.2 member

/-- Something is bound to exactly the keys of the list. -/
theorem lookup_isSome_iff (list : List (β × γ)) (key : β) :
    (list.lookup key).isSome = true ↔ key ∈ list.map Prod.fst := by
  rw [List.lookup_isSome_iff, List.mem_map]
  simp only [beq_iff_eq, @eq_comm β key]

/-- What is bound to a key stands in the list. -/
theorem mem_of_lookup {list : List (β × γ)} {key : β} {value : γ}
    (found : list.lookup key = some value) : (key, value) ∈ list := by
  obtain ⟨before, after, rfl, -⟩ := List.lookup_eq_some_iff.mp found
  exact List.mem_append_right before List.mem_cons_self

/-- Rearranging pairs with distinct keys does not change what is bound to a key. -/
theorem lookup_eq_of_perm {list others : List (β × γ)} (rearranged : list.Perm others)
    (distinct : (list.map Prod.fst).Nodup) (key : β) : list.lookup key = others.lookup key := by
  have distinctOthers := (rearranged.map Prod.fst).nodup_iff.mp distinct
  refine Option.ext fun value => ⟨fun found => ?_, fun found => ?_⟩
  · exact lookup_of_nodup distinctOthers (rearranged.mem_iff.mp (mem_of_lookup found))
  · exact lookup_of_nodup distinct (rearranged.mem_iff.mpr (mem_of_lookup found))

end KeyedRecord
