import Mathlib.Data.Fintype.Card
import Mathlib.Logic.Relation
import Mathlib.Order.WellFounded

/-!
# Waiting for each other

The relation of who waits for whom. A set of parties is stuck if each of them waits for one of the
set. Finitely many parties are never stuck exactly if nobody waits for himself through others, and it
is enough to watch the waits as they begin.
-/

namespace WaitFor
open Relation

variable {K : Type} {r r' : K → K → Prop} {a b k : K}

/-- Everyone in the set waits for someone in the set. -/
structure Stuck (r : K → K → Prop) (parties : Set K) : Prop where
  nonempty : parties.Nonempty
  waits : ∀ k ∈ parties, ∃ j ∈ parties, r k j

/-- Nobody waits for himself. -/
def Acyclic (r : K → K → Prop) : Prop := ∀ k, ¬TransGen r k k

/-- A cycle is stuck. -/
theorem stuck_of_cycle (h : TransGen r k k) :
    Stuck r {x | ReflTransGen r k x ∧ ReflTransGen r x k} where
  nonempty := ⟨k, .refl, .refl⟩
  waits x hx := by
    obtain ⟨hfrom, hto⟩ := hx
    have hcycle : TransGen r x k := by
      rcases reflTransGen_iff_eq_or_transGen.1 hto with rfl | hto
      · exact h
      · exact hto
    obtain ⟨y, hxy, hyk⟩ := TransGen.head'_iff.1 hcycle
    exact ⟨y, ⟨hfrom.tail hxy, hyk⟩, hxy⟩

theorem acyclic_iff_not_stuck [Finite K] : Acyclic r ↔ ∀ parties, ¬Stuck r parties := by
  constructor
  · rintro hacyclic parties ⟨hnonempty, hwaits⟩
    -- Among finitely many parties some wait for nobody, for want of a cycle.
    have : Std.Irrefl (Function.swap (TransGen r)) := ⟨hacyclic⟩
    have : IsTrans K (Function.swap (TransGen r)) := ⟨fun _ _ _ hxy hyz => hyz.trans hxy⟩
    have hwf := Finite.wellFounded_of_trans_of_irrefl (Function.swap (TransGen r))
    obtain ⟨k, hk, hmin⟩ := hwf.has_min parties hnonempty
    obtain ⟨j, hj, hkj⟩ := hwaits k hk
    exact hmin j hj (.single hkj)
  · exact fun h k hcycle => h _ (stuck_of_cycle hcycle)

/-- A wait that begins closes no cycle, unless who is waited for waits for him who begins. -/
theorem Acyclic.insert (h : Acyclic r) (hinsert : ∀ x y, r' x y → r x y ∨ x = a ∧ y = b)
    (hab : ¬ReflTransGen r b a) : Acyclic r' := by
  have hpath {x y : K} (hxy : TransGen r' x y) :
      TransGen r x y ∨ ReflTransGen r x a ∧ ReflTransGen r b y := by
    induction hxy with
    | single hxy =>
      rcases hinsert _ _ hxy with hxy | ⟨rfl, rfl⟩
      · exact .inl (.single hxy)
      · exact .inr ⟨.refl, .refl⟩
    | tail _ hyz ih =>
      rcases hinsert _ _ hyz, ih with ⟨hyz | ⟨rfl, rfl⟩, hxy | ⟨hxa, hby⟩⟩
      · exact .inl (hxy.tail hyz)
      · exact .inr ⟨hxa, hby.tail hyz⟩
      · exact .inr ⟨hxy.to_reflTransGen, .refl⟩
      · exact .inr ⟨hxa, .refl⟩
  intro k hcycle
  rcases hpath hcycle with hcycle | ⟨hka, hbk⟩
  · exact h k hcycle
  · exact hab (hbk.trans hka)

/-- A wait for who waits for him who begins closes a cycle, if nobody else stops waiting. -/
theorem not_acyclic_of_insert (hbegin : r' a b) (hkeep : ∀ x y, x ≠ a → r x y → r' x y)
    (hab : ReflTransGen r b a) : ¬Acyclic r' := by
  have hpath {x : K} (hxa : ReflTransGen r x a) : ReflTransGen r' x a := by
    induction hxa using ReflTransGen.head_induction_on with
    | refl => exact .refl
    | @head x y hxy _ ih =>
      by_cases hx : x = a
      · rw [hx]
      · exact .head (hkeep x y hx hxy) ih
  exact fun h => h a (.head' hbegin (hpath hab))

end WaitFor
