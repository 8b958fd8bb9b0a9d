import Mathlib.Data.List.Basic

/-!
# Machines

A machine says which state an action leads to, where the action can be taken at all. What holds of
every run is proved by induction on its last action.
-/

/-- The state an action leads to, if the action can be taken. -/
abbrev Machine (S A : Type) := S → A → Option S

namespace Machine

variable {S A : Type} {m : Machine S A} {s t u : S}

/-- Take the actions one after the other. -/
def run (m : Machine S A) (s : S) (actions : List A) : Option S := actions.foldlM m s

@[simp] theorem run_nil : m.run s [] = some s := rfl

@[simp] theorem run_cons (a : A) (actions : List A) :
    m.run s (a :: actions) = (m s a).bind (m.run · actions) := rfl

theorem run_append (before after : List A) :
    m.run s (before ++ after) = (m.run s before).bind (m.run · after) :=
  List.foldlM_append

/-- The last action is taken where the run before it ends. -/
theorem run_concat_eq_some {actions : List A} {a : A} :
    m.run s (actions ++ [a]) = some t ↔ ∃ u, m.run s actions = some u ∧ m u a = some t := by
  simp [run_append, Option.bind_eq_some_iff]

/-- Of a run, every first part is a run. -/
theorem run_of_prefix {before actions : List A} (hbefore : before <+: actions)
    (h : m.run s actions = some t) : ∃ u, m.run s before = some u := by
  obtain ⟨after, rfl⟩ := hbefore
  rw [run_append, Option.bind_eq_some_iff] at h
  obtain ⟨u, hu, -⟩ := h
  exact ⟨u, hu⟩

/-- What holds at the start, and is kept by every action of the run, holds at its end. -/
theorem run_invariant (inv : S → Prop) (hinit : inv s) {actions : List A}
    (hstep : ∀ a ∈ actions, ∀ u v, inv u → m u a = some v → inv v)
    (h : m.run s actions = some t) : inv t := by
  induction actions generalizing s with
  | nil =>
    cases h
    exact hinit
  | cons a actions ih =>
    rw [run_cons, Option.bind_eq_some_iff] at h
    obtain ⟨u, hu, h⟩ := h
    exact ih (hstep a (.head _) s u hinit hu) (fun b hb => hstep b (.tail _ hb)) h

/-- Every step of the run is in the relation. -/
def Steps (m : Machine S A) (Q : S → A → S → Prop) (s : S) (actions : List A) : Prop :=
  ∀ before a after u v, actions = before ++ a :: after → m.run s before = some u → m u a = some v →
    Q u a v

variable {Q : S → A → S → Prop}

theorem steps_cons {a : A} {actions : List A} (h : m s a = some u) :
    m.Steps Q s (a :: actions) ↔ Q s a u ∧ m.Steps Q u actions := by
  constructor
  · refine fun hsteps => ⟨hsteps [] a actions s u rfl rfl h, ?_⟩
    rintro before b after v w rfl hv hw
    exact hsteps (a :: before) b after v w rfl (by rw [run_cons, h]; exact hv) hw
  · rintro ⟨hQ, hsteps⟩ before b after v w hactions hv hw
    cases before with
    | nil =>
      cases hactions
      cases hv
      cases h.symm.trans hw
      exact hQ
    | cons c before =>
      obtain ⟨rfl, rfl⟩ := List.cons.inj hactions
      rw [run_cons, h] at hv
      exact hsteps before b after v w rfl hv hw

/-- What holds at the start, and is kept by every step that the run may take, holds at its end. -/
theorem Steps.run_invariant {actions : List A} (hsteps : m.Steps Q s actions) (inv : S → Prop)
    (hinit : inv s) (hstep : ∀ a u v, inv u → Q u a v → m u a = some v → inv v)
    (h : m.run s actions = some t) : inv t := by
  induction actions generalizing s with
  | nil =>
    cases h
    exact hinit
  | cons a actions ih =>
    rw [run_cons, Option.bind_eq_some_iff] at h
    obtain ⟨u, hu, h⟩ := h
    obtain ⟨hQ, hsteps⟩ := (steps_cons hu).1 hsteps
    exact ih hsteps (hstep a s u hinit hQ hu) h

/-- Of a run, a first part takes steps of the run. -/
theorem Steps.of_append {before after : List A} (h : m.Steps Q s (before ++ after)) :
    m.Steps Q s before := by
  rintro before' a after' u v rfl
  exact h before' a (after' ++ after) u v (by simp)

end Machine
