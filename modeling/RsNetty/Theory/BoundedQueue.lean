import Mathlib.Data.List.Basic

/-!
# Bounded queues

A queue of limited capacity with the senders that wait for a place. A place that becomes free is
given to the sender that has waited longest, who uses it when he gets to it.
-/

structure BoundedQueue (α : Type) where
  capacity : Nat
  items : List α := []
  /-- What the senders that were given a place are about to put into the queue. -/
  granted : List α := []
  /-- What the senders without a place wait to put into the queue, longest first. -/
  waiting : List α := []

namespace BoundedQueue

variable {α : Type} {q q' : BoundedQueue α} {a b : α} {p : α → Bool}

/-- There is no free place. -/
def Full (q : BoundedQueue α) : Prop := q.capacity ≤ q.items.length + q.granted.length

instance : Decidable q.Full := inferInstanceAs (Decidable (_ ≤ _))

/-- Put something into the queue, or wait for a place. -/
def offer (a : α) (q : BoundedQueue α) : BoundedQueue α :=
  if q.Full then { q with waiting := q.waiting ++ [a] } else { q with items := q.items ++ [a] }

/-- The first item, if there is one; its place goes to the first that waits. -/
def receive (q : BoundedQueue α) : Option (α × BoundedQueue α) :=
  match q.items with
  | [] => none
  | a :: items =>
    match q.waiting with
    | [] => some (a, { q with items })
    | b :: waiting => some (a, { q with items, granted := q.granted ++ [b], waiting })

/-- A sender that was given a place uses it. -/
def commit (p : α → Bool) (q : BoundedQueue α) : Option (α × BoundedQueue α) :=
  match q.granted.find? p with
  | some a => some (a, { q with items := q.items ++ [a], granted := q.granted.eraseP p })
  | none => none

/-- A queue that nobody receives from any more. -/
def close (q : BoundedQueue α) : BoundedQueue α := { capacity := q.capacity }

theorem offer_of_full (h : q.Full) : q.offer a = { q with waiting := q.waiting ++ [a] } := if_pos h

theorem offer_of_not_full (h : ¬q.Full) : q.offer a = { q with items := q.items ++ [a] } := if_neg h

theorem mem_waiting_offer (h : b ∈ (q.offer a).waiting) : b ∈ q.waiting ∨ b = a := by
  unfold offer at h
  split at h
  · exact (List.mem_append.1 h).imp_right List.mem_singleton.1
  · exact .inl h

theorem mem_items_offer (h : b ∈ (q.offer a).items) : b ∈ q.items ∨ b = a := by
  unfold offer at h
  split at h
  · exact .inl h
  · exact (List.mem_append.1 h).imp_right List.mem_singleton.1

theorem waiting_subset_offer (a : α) (q : BoundedQueue α) : q.waiting ⊆ (q.offer a).waiting := by
  unfold offer
  split
  · exact List.subset_append_left _ _
  · exact List.Subset.refl _

theorem items_subset_offer (a : α) (q : BoundedQueue α) : q.items ⊆ (q.offer a).items := by
  unfold offer
  split
  · exact List.Subset.refl _
  · exact List.subset_append_left _ _

/-- Who receives takes the first item, and lets nobody in who did not wait before. -/
theorem receive_eq_some (h : q.receive = some (a, q')) :
    q.items = a :: q'.items ∧ q'.waiting ⊆ q.waiting := by
  unfold receive at h
  split at h
  next => cases h
  next a items hitems =>
    split at h
    next hwaiting =>
      cases h
      exact ⟨hitems, List.Subset.refl _⟩
    next b waiting hwaiting =>
      cases h
      exact ⟨hitems, hwaiting ▸ List.subset_cons_self b waiting⟩

theorem commit_eq_some (h : q.commit p = some (a, q')) :
    p a = true ∧ q'.items = q.items ++ [a] ∧ q'.waiting = q.waiting := by
  unfold commit at h
  split at h
  next hfind =>
    cases h
    exact ⟨List.find?_some hfind, rfl, rfl⟩
  next => cases h

end BoundedQueue
