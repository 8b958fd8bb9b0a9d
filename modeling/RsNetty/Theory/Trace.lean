import Mathlib.Data.List.Induction
import Mathlib.Data.List.Nodup

/-!
# Interleaved traces

A trace of several parties, each event of which may belong to one of them: the events of one party,
and what appending to the trace does to them. Of two parties alone, the trace is an interleaving of
their lists.
-/

namespace Trace

variable {E K B : Type} [DecidableEq K] {party : E → Option K} {k : K}

/-- The events that belong to the party. -/
def eventsOf (party : E → Option K) (k : K) (trace : List E) : List E :=
  trace.filter (party · = some k)

@[simp] theorem eventsOf_nil : eventsOf party k [] = [] := rfl

@[simp] theorem eventsOf_append (before after : List E) :
    eventsOf party k (before ++ after) = eventsOf party k before ++ eventsOf party k after :=
  List.filter_append ..

theorem eventsOf_eq_self {trace : List E} (h : ∀ e ∈ trace, party e = some k) :
    eventsOf party k trace = trace :=
  List.filter_eq_self.2 fun e he => decide_eq_true (h e he)

theorem eventsOf_eq_nil {trace : List E} (h : ∀ e ∈ trace, party e ≠ some k) :
    eventsOf party k trace = [] :=
  List.filter_eq_nil_iff.2 fun e he => by simpa using h e he

section
variable {items : List B} {owner : B → K} {events : B → List E}

theorem eventsOf_flatMap_eq_nil
    (hevents : ∀ item ∈ items, ∀ e ∈ events item, party e = some (owner item))
    (hk : k ∉ items.map owner) : eventsOf party k (items.flatMap events) = [] := by
  refine eventsOf_eq_nil fun e he h => ?_
  obtain ⟨item, hitem, he⟩ := List.mem_flatMap.1 he
  rw [hevents item hitem e he] at h
  exact hk (Option.some.inj h ▸ List.mem_map_of_mem hitem)

/-- Where each item of a list adds the events of one party, and no two of them of the same, a party
finds the events of its own item. -/
theorem eventsOf_flatMap
    (hevents : ∀ item ∈ items, ∀ e ∈ events item, party e = some (owner item))
    (hnodup : (items.map owner).Nodup) {item : B} (hitem : item ∈ items) :
    eventsOf party (owner item) (items.flatMap events) = events item := by
  induction items with
  | nil => cases hitem
  | cons head items ih =>
    obtain ⟨hhead, hnodup⟩ := List.nodup_cons.1 hnodup
    have htail := fun item hitem => hevents item (.tail _ hitem)
    rw [List.flatMap_cons, eventsOf_append]
    rcases List.mem_cons.1 hitem with rfl | hitem
    · rw [eventsOf_flatMap_eq_nil htail hhead, List.append_nil,
        eventsOf_eq_self (hevents item (.head _))]
    · have hne : owner head ≠ owner item := fun h => hhead (h ▸ List.mem_map_of_mem hitem)
      have hnil : eventsOf party (owner item) (events head) = [] :=
        eventsOf_eq_nil fun e he h =>
          hne (Option.some.inj ((hevents head (.head _) e he).symm.trans h))
      rw [hnil, List.nil_append]
      exact ih htail hnodup hitem

end

/-! ## Two parties -/

/-- The list is put together from the two others, each in its order. -/
inductive Interleaves {α : Type} : List α → List α → List α → Prop
  | nil : Interleaves [] [] []
  | left : Interleaves as bs cs → Interleaves (as ++ [a]) bs (cs ++ [a])
  | right : Interleaves as bs cs → Interleaves as (bs ++ [b]) (cs ++ [b])

namespace Interleaves
variable {α : Type} {as bs cs : List α}

theorem append_left (h : Interleaves as bs cs) (more : List α) :
    Interleaves (as ++ more) bs (cs ++ more) := by
  induction more using List.reverseRecOn with
  | nil => simpa using h
  | append_singleton more a ih =>
    rw [← List.append_assoc, ← List.append_assoc]
    exact ih.left

theorem append_right (h : Interleaves as bs cs) (more : List α) :
    Interleaves as (bs ++ more) (cs ++ more) := by
  induction more using List.reverseRecOn with
  | nil => simpa using h
  | append_singleton more a ih =>
    rw [← List.append_assoc, ← List.append_assoc]
    exact ih.right

theorem mem (h : Interleaves as bs cs) {a : α} (ha : a ∈ cs) : a ∈ as ∨ a ∈ bs := by
  induction h with
  | nil => cases ha
  | left _ ih =>
    rcases List.mem_append.1 ha with ha | ha
    · exact (ih ha).imp (List.mem_append_left _) id
    · exact .inl (List.mem_append_right _ ha)
  | right _ ih =>
    rcases List.mem_append.1 ha with ha | ha
    · exact (ih ha).imp id (List.mem_append_left _)
    · exact .inr (List.mem_append_right _ ha)

/-- Of a party that does nothing, nothing is seen. -/
theorem eq_of_nil_right (h : Interleaves as [] cs) : cs = as := by
  generalize hbs : [] = bs at h
  induction h with
  | nil => rfl
  | left _ ih => rw [ih hbs]
  | right => exact absurd hbs.symm (List.append_ne_nil_of_right_ne_nil _ (List.cons_ne_nil _ _))

theorem eq_of_nil_left (h : Interleaves [] bs cs) : cs = bs := by
  generalize has : [] = as at h
  induction h with
  | nil => rfl
  | left => exact absurd has.symm (List.append_ne_nil_of_right_ne_nil _ (List.cons_ne_nil _ _))
  | right _ ih => rw [ih has]

end Interleaves

end Trace
