import Mathlib.Tactic.Ring

/-!
# Fallible programs over one mutable state

`EStateM ε σ α` is the meaning of a routine with one mutable argument `σ` that returns a value or
stops early: the state it leaves behind is kept in both cases. This file has the execution rules
(`bind_of_ok`, `bind_eq_ok`), and the routines whose state is an output buffer they only ever
extend (`AppendOnly`, `Emits`).
-/

theorem Except.ok_bind {ε α β : Type} (a : α) (f : α → Except ε β) : (Except.ok a >>= f) = f a :=
  rfl

theorem Except.error_bind {ε α β : Type} (e : ε) (f : α → Except ε β) :
    (Except.error e >>= f) = .error e :=
  rfl

theorem Except.bind_eq_ok {ε α β : Type} {x : Except ε α} {f : α → Except ε β} {b : β} :
    (x >>= f) = .ok b ↔ ∃ a, x = .ok a ∧ f a = .ok b := by
  cases x with
  | ok a =>
    constructor
    · exact fun h => ⟨a, rfl, h⟩
    · rintro ⟨_, h, hf⟩
      cases h
      exact hf
  | error e =>
    constructor
    · exact fun h => nomatch h
    · rintro ⟨_, h, _⟩
      exact nomatch h

theorem Except.bind_eq_error {ε α β : Type} {x : Except ε α} {f : α → Except ε β} {e : ε} :
    (x >>= f) = .error e ↔ x = .error e ∨ ∃ a, x = .ok a ∧ f a = .error e := by
  cases x with
  | error e' => simp [Except.error_bind]
  | ok a => simp [Except.ok_bind]

/-- A result with another error is `Ok` when the result is. -/
theorem Except.mapError_eq_ok {ε ε' α : Type} {x : Except ε α} {f : ε → ε'} {a : α} :
    x.mapError f = .ok a ↔ x = .ok a := by
  cases x with
  | ok b => exact ⟨fun h => by cases h; rfl, fun h => by cases h; rfl⟩
  | error e => exact ⟨nofun, nofun⟩

namespace EStateM

variable {ε σ α β : Type}

/-! ## Execution rules -/

theorem bind_of_ok {x : EStateM ε σ α} {f : α → EStateM ε σ β} (h : x s = .ok a s') :
    (x >>= f) s = f a s' := by
  change EStateM.bind x f s = _
  rw [EStateM.bind, h]

theorem bind_of_error {x : EStateM ε σ α} {f : α → EStateM ε σ β} (h : x s = .error e s') :
    (x >>= f) s = .error e s' := by
  change EStateM.bind x f s = _
  rw [EStateM.bind, h]

theorem bind_eq_ok {x : EStateM ε σ α} {f : α → EStateM ε σ β} :
    (x >>= f) s = .ok b s'' ↔ ∃ a s', x s = .ok a s' ∧ f a s' = .ok b s'' := by
  cases hx : x s with
  | ok a s' =>
    rw [bind_of_ok hx]
    constructor
    · exact fun h => ⟨a, s', rfl, h⟩
    · rintro ⟨_, _, h, hf⟩
      cases h
      exact hf
  | error e s' =>
    rw [bind_of_error hx]
    constructor
    · exact fun h => nomatch h
    · rintro ⟨_, _, h, _⟩
      cases h

theorem bind_eq_error {x : EStateM ε σ α} {f : α → EStateM ε σ β} :
    (x >>= f) s = .error e s'' ↔
      x s = .error e s'' ∨ ∃ a s', x s = .ok a s' ∧ f a s' = .error e s'' := by
  cases hx : x s with
  | ok a s' =>
    rw [bind_of_ok hx]
    constructor
    · exact fun h => .inr ⟨a, s', rfl, h⟩
    · rintro (h | ⟨_, _, h, hf⟩)
      · exact nomatch h
      · cases h
        exact hf
  | error e' s' =>
    rw [bind_of_error hx]
    constructor
    · intro h
      cases h
      exact .inl rfl
    · rintro (h | ⟨_, _, h, _⟩)
      · cases h
        rfl
      · cases h

theorem pure_eq (a : α) (s : σ) : (pure a : EStateM ε σ α) s = .ok a s := rfl

theorem throw_eq (e : ε) (s : σ) : (throw e : EStateM ε σ α) s = .error e s := rfl

theorem modify_eq (g : σ → σ) (s : σ) : (modify g : EStateM ε σ PUnit) s = .ok ⟨⟩ (g s) := rfl

theorem get_bind (f : σ → EStateM ε σ β) (s : σ) : (get >>= f) s = f s s := rfl

theorem set_bind (t : σ) (f : PUnit → EStateM ε σ β) (s : σ) : (set t >>= f) s = f ⟨⟩ t := rfl

/-- The value or the error of a run, without the state. -/
def Result.toExcept : EStateM.Result ε σ α → Except ε α
  | .ok a _ => .ok a
  | .error e _ => .error e

/-- The state a run leaves behind, on either exit. -/
def Result.final : EStateM.Result ε σ α → σ
  | .ok _ s => s
  | .error _ s => s

/-- Run an `Except` value as a program that leaves the state alone. -/
def lifted (x : Except ε α) : EStateM ε σ α := fun s =>
  match x with
  | .ok a => .ok a s
  | .error e => .error e s

@[simp] theorem lifted_ok (a : α) (s : σ) :
    (lifted (.ok a) : EStateM ε σ α) s = .ok a s := rfl

@[simp] theorem lifted_error (e : ε) (s : σ) :
    (lifted (.error e) : EStateM ε σ α) s = .error e s := rfl

theorem lifted_eq_ok {x : Except ε α} :
    (lifted x : EStateM ε σ α) s = .ok a s' ↔ x = .ok a ∧ s = s' := by
  cases x <;> simp

theorem lifted_eq_error {x : Except ε α} :
    (lifted x : EStateM ε σ α) s = .error e s' ↔ x = .error e ∧ s = s' := by
  cases x <;> simp

/-- Run a program on a local state of its own, dropped again at the end. -/
def runOn (x : EStateM ε σ α) (s : σ) : Except ε (α × σ) :=
  match x s with
  | .ok a s' => .ok (a, s')
  | .error e _ => .error e

theorem runOn_of_ok {x : EStateM ε σ α} (h : x s = .ok a s') : x.runOn s = .ok (a, s') := by
  rw [runOn, h]

theorem runOn_eq_ok {x : EStateM ε σ α} : x.runOn s = .ok (a, s') ↔ x s = .ok a s' := by
  unfold runOn
  cases x s <;> simp

theorem runOn_eq_error {x : EStateM ε σ α} : x.runOn s = .error e ↔ ∃ s', x s = .error e s' := by
  unfold runOn
  cases x s <;> simp

/-! ## Programs that only append -/

section Append
variable {γ : Type}

/-- Put `d` in front of the buffer a run leaves behind. -/
def Result.prepend (d : List γ) : EStateM.Result ε (List γ) α → EStateM.Result ε (List γ) α
  | .ok a w => .ok a (d ++ w)
  | .error e w => .error e (d ++ w)

theorem Result.prepend_prepend (c d : List γ) (r : EStateM.Result ε (List γ) α) :
    (r.prepend d).prepend c = r.prepend (c ++ d) := by
  cases r <;> simp [Result.prepend]

/-- The program neither reads nor changes what is in the buffer: what it appends to any buffer,
whether it returns or stops early, is what it appends to the empty one. -/
def AppendOnly (x : EStateM ε (List γ) α) : Prop :=
  ∀ d, x d = (x []).prepend d

/-- The program returns `a` after appending `w`, to any buffer. -/
def Emits (x : EStateM ε (List γ) α) (a : α) (w : List γ) : Prop :=
  ∀ d, x d = .ok a (d ++ w)

namespace AppendOnly

theorem pure (a : α) : AppendOnly (ε := ε) (γ := γ) (Pure.pure a) := fun d => by
  simp [pure_eq, Result.prepend]

theorem throw (e : ε) : AppendOnly (γ := γ) (MonadExcept.throw e : EStateM ε (List γ) α) :=
  fun d => by simp [throw_eq, Result.prepend]

theorem lifted (x : Except ε α) : AppendOnly (γ := γ) (EStateM.lifted x) := fun d => by
  cases x <;> simp [Result.prepend]

theorem append (w : List γ) : AppendOnly (ε := ε) (modify (· ++ w)) := fun d => by
  simp [modify_eq, Result.prepend]

theorem bind {x : EStateM ε (List γ) α} {f : α → EStateM ε (List γ) β}
    (hx : AppendOnly x) (hf : ∀ a, AppendOnly (f a)) : AppendOnly (x >>= f) := by
  intro d
  cases h : x [] with
  | ok a w =>
    have hd : x d = .ok a (d ++ w) := by rw [hx d, h]; rfl
    rw [bind_of_ok hd, bind_of_ok h, hf a (d ++ w), hf a w, Result.prepend_prepend]
  | error e w =>
    have hd : x d = .error e (d ++ w) := by rw [hx d, h]; rfl
    rw [bind_of_error hd, bind_of_error h]
    rfl

theorem ite {c : Prop} [Decidable c] {x y : EStateM ε (List γ) α} (hx : AppendOnly x)
    (hy : AppendOnly y) : AppendOnly (if c then x else y) := by
  split <;> assumption

/-- A run that returns has appended what it always appends. -/
theorem ok_iff {x : EStateM ε (List γ) α} (hx : AppendOnly x) {d d' : List γ} :
    x d = .ok a d' ↔ ∃ w, Emits x a w ∧ d' = d ++ w := by
  constructor
  · intro h
    rw [hx d] at h
    cases h₀ : x [] with
    | ok b w =>
      rw [h₀] at h
      cases h
      exact ⟨w, fun d => by rw [hx d, h₀]; rfl, rfl⟩
    | error e w =>
      rw [h₀] at h
      exact nomatch h
  · rintro ⟨w, h, rfl⟩
    exact h d

/-- However the run ends, what was in the buffer is still there. -/
theorem prefix_final {x : EStateM ε (List γ) α} (hx : AppendOnly x) (d : List γ) :
    d <+: (x d).final := by
  rw [hx d]
  cases x [] <;> exact List.prefix_append _ _

end AppendOnly

namespace Emits

theorem pure (a : α) : Emits (ε := ε) (γ := γ) (Pure.pure a) a [] := fun d => by
  rw [pure_eq, List.append_nil]

theorem bind {x : EStateM ε (List γ) α} {f : α → EStateM ε (List γ) β} (hx : Emits x a w₁)
    (hf : Emits (f a) b w₂) : Emits (x >>= f) b (w₁ ++ w₂) := fun d => by
  rw [bind_of_ok (hx d), hf, List.append_assoc]

theorem congr {x : EStateM ε (List γ) α} (hx : Emits x a w) (h : w = w') : Emits x a w' := h ▸ hx

/-- A check that passes appends nothing. -/
theorem lifted_bind {y : Except ε α} {f : α → EStateM ε (List γ) β} (hy : y = .ok a)
    (hf : Emits (f a) b w) : Emits (EStateM.lifted y >>= f) b w := fun d => by
  rw [bind_of_ok (lifted_eq_ok.2 ⟨hy, rfl⟩), hf]

theorem inj {x : EStateM ε (List γ) α} (h : Emits x a w) (h' : Emits x a' w') :
    a = a' ∧ w = w' := by
  have := (h []).symm.trans (h' [])
  cases this
  exact ⟨rfl, rfl⟩

/-- What two appending programs emit one after the other. -/
theorem bind_iff {x : EStateM ε (List γ) α} {f : α → EStateM ε (List γ) β}
    (hx : AppendOnly x) (hf : ∀ a, AppendOnly (f a)) :
    Emits (x >>= f) b w ↔ ∃ a w₁ w₂, Emits x a w₁ ∧ Emits (f a) b w₂ ∧ w = w₁ ++ w₂ := by
  constructor
  · intro h
    obtain ⟨a, s, hxs, hfs⟩ := bind_eq_ok.1 (h [])
    obtain ⟨w₁, h₁, hs⟩ := hx.ok_iff.1 hxs
    obtain ⟨w₂, h₂, hw⟩ := (hf a).ok_iff.1 hfs
    exact ⟨a, w₁, w₂, h₁, h₂, by simpa [hs] using hw⟩
  · rintro ⟨a, w₁, w₂, h₁, h₂, rfl⟩
    exact h₁.bind h₂

end Emits

end Append

end EStateM
