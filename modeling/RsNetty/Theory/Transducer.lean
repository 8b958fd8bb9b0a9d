import Mathlib.Data.List.Induction
import Mathlib.Data.List.Infix

/-!
# Machines with output

A transducer takes inputs one after the other: each gives some outputs, and the state it goes on
from, unless it stops there. More inputs only add to its outputs (`outputs_mono`).
-/

/-- What an input gives, and the state the machine goes on from. -/
abbrev Transducer (S I O : Type) := S → I → List O × Option S

namespace Transducer

variable {S I O : Type} {m : Transducer S I O} {s t : S} {is is' : List I} {i : I} {out : List O}

/-- One more input, behind some outputs. -/
def next (m : Transducer S I O) : List O × Option S → I → List O × Option S
  | (out, none), _ => (out, none)
  | (out, some s), i => (out ++ (m s i).1, (m s i).2)

def run (m : Transducer S I O) (s : S) (is : List I) : List O × Option S :=
  is.foldl (next m) ([], some s)

def outputs (m : Transducer S I O) (s : S) (is : List I) : List O := (m.run s is).1

@[simp] theorem run_nil : m.run s [] = ([], some s) := rfl

theorem run_concat : m.run s (is ++ [i]) = next m (m.run s is) i := by
  rw [run, List.foldl_append]
  rfl

theorem run_concat_of_some (h : m.run s is = (out, some t)) :
    m.run s (is ++ [i]) = (out ++ (m t i).1, (m t i).2) := by
  rw [run_concat, h]
  rfl

theorem prefix_next (x : List O × Option S) (i : I) : x.1 <+: (next m x i).1 := by
  obtain ⟨out, s⟩ := x
  cases s with
  | none => exact List.prefix_rfl
  | some s => exact List.prefix_append _ _

theorem outputs_mono (h : is <+: is') : m.outputs s is <+: m.outputs s is' := by
  obtain ⟨more, rfl⟩ := h
  rw [outputs, outputs, run, run, List.foldl_append]
  generalize is.foldl (next m) ([], some s) = x
  induction more generalizing x with
  | nil => exact List.prefix_rfl
  | cons i more ih => exact (prefix_next x i).trans (ih _)

/-- A first part of the outputs ends with a part of what is given for one of the inputs, in the state
that those before it lead to. -/
theorem exists_of_prefix {part : List O} (h : part <+: m.outputs s is) :
    part = [] ∨ ∃ before i after t more, is = before ++ i :: after ∧
      m.run s before = (m.outputs s before, some t) ∧ part = m.outputs s before ++ more ∧
      more <+: (m t i).1 := by
  induction is using List.reverseRecOn with
  | nil => exact .inl (List.prefix_nil.1 h)
  | append_singleton is i ih =>
    by_cases hold : part <+: m.outputs s is
    · refine (ih hold).imp id ?_
      rintro ⟨before, j, after, t, more, rfl, hrest⟩
      exact ⟨before, j, after ++ [i], t, more, by simp, hrest⟩
    · cases hrun : m.run s is with
      | mk given next =>
        have hgiven : given = m.outputs s is := (congrArg (·.1) hrun).symm
        cases next with
        | none =>
          rw [outputs, run_concat, hrun] at h
          exact (hold (hgiven ▸ h)).elim
        | some t =>
          rw [outputs, run_concat_of_some hrun, hgiven] at h
          obtain ⟨more, rfl⟩ :=
            (List.prefix_or_prefix_of_prefix h (List.prefix_append _ _)).resolve_left hold
          exact .inr ⟨is, i, [], t, more, rfl, hgiven ▸ hrun, rfl,
            (List.prefix_append_right_inj _).1 h⟩

/-- Each output is given for one of the inputs, in the state that those before it lead to. -/
theorem exists_of_mem_outputs {o : O} (h : o ∈ m.outputs s is) :
    ∃ before i after t, is = before ++ i :: after ∧
      m.run s before = (m.outputs s before, some t) ∧ o ∈ (m t i).1 := by
  induction is using List.reverseRecOn with
  | nil => cases h
  | append_singleton is i ih =>
    by_cases hold : o ∈ m.outputs s is
    · obtain ⟨before, j, after, t, rfl, hrest⟩ := ih hold
      exact ⟨before, j, after ++ [i], t, by simp, hrest⟩
    · cases hrun : m.run s is with
      | mk given next =>
        have hgiven : given = m.outputs s is := (congrArg (·.1) hrun).symm
        cases next with
        | none =>
          rw [outputs, run_concat, hrun] at h
          exact (hold (hgiven ▸ h)).elim
        | some t =>
          rw [outputs, run_concat_of_some hrun, hgiven] at h
          exact ⟨is, i, [], t, rfl, hgiven ▸ hrun, (List.mem_append.1 h).resolve_left hold⟩

/-- The last input is taken where the inputs before it lead to. -/
theorem run_concat_eq_some (h : m.run s (is ++ [i]) = (out, some u)) :
    ∃ before t, m.run s is = (before, some t) ∧ (m t i).2 = some u ∧ out = before ++ (m t i).1 := by
  rw [run_concat] at h
  cases hrun : m.run s is with
  | mk before next =>
    rw [hrun] at h
    cases next with
    | none => cases h
    | some t =>
      obtain ⟨hout, hnext⟩ := Prod.mk.inj h
      exact ⟨before, t, rfl, hnext, hout.symm⟩

section
variable {S' I' O' : Type} {m' : Transducer S' I' O'}

/-- A machine whose steps are those of another one under other names. -/
theorem run_map {f : S → S'} {g : I → I'} {k : O → O'}
    (h : ∀ s, ∀ i ∈ is, m' (f s) (g i) = ((m s i).1.map k, (m s i).2.map f)) :
    m'.run (f s) (is.map g) = ((m.run s is).1.map k, (m.run s is).2.map f) := by
  induction is using List.reverseRecOn with
  | nil => rfl
  | append_singleton is i ih =>
    rw [List.map_append, List.map_singleton, run_concat, run_concat,
      ih fun s j hj => h s j (List.mem_append_left _ hj)]
    cases m.run s is with
    | mk out next =>
      cases next with
      | none => rfl
      | some t =>
        change (out.map k ++ (m' (f t) (g i)).1, (m' (f t) (g i)).2) = _
        rw [h t i (List.mem_append_right _ List.mem_cons_self), ← List.map_append]
        rfl

/-- What a machine gives does not matter for where it goes. -/
theorem run_snd_congr {m' : Transducer S I O'} (h : ∀ s i, (m' s i).2 = (m s i).2) :
    (m'.run s is).2 = (m.run s is).2 := by
  induction is using List.reverseRecOn with
  | nil => rfl
  | append_singleton is i ih =>
    rw [run_concat, run_concat]
    generalize m'.run s is = x at ih ⊢
    generalize m.run s is = y at ih ⊢
    obtain ⟨out', t⟩ := x
    obtain ⟨out, t'⟩ := y
    obtain rfl : t = t' := ih
    cases t with
    | none => rfl
    | some t => exact h t i

end

/-- A machine that gives nothing. -/
theorem outputs_nil (h : ∀ s i, (m s i).1 = []) : m.outputs s is = [] := by
  rw [outputs]
  induction is using List.reverseRecOn with
  | nil => rfl
  | append_singleton is i ih =>
    rw [run_concat]
    generalize m.run s is = x at ih ⊢
    obtain ⟨out, t⟩ := x
    cases t with
    | none => exact ih
    | some t => exact List.append_eq_nil_iff.2 ⟨ih, h t i⟩

end Transducer
