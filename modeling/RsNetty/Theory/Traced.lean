import RsNetty.Theory.State

/-!
# Programs watched at every step

`Traced ε σ α` runs as `EStateM ε σ α` does and also lists the states it passes through.
`Triple I P x Q R` is the specification of such a program: it starts in `P`, every state it passes
through is in `I`, it returns in `Q` and stops early in `R`. There is one rule for each way to put
programs together.
-/

/-- A component of a state. -/
structure Component (σ τ : Type) where
  get : σ → τ
  set : τ → σ → σ

def Component.fst {σ τ : Type} : Component (σ × τ) σ := ⟨Prod.fst, fun x s => (x, s.2)⟩

def Component.snd {σ τ : Type} : Component (σ × τ) τ := ⟨Prod.snd, fun x s => (s.1, x)⟩

namespace EStateM
variable {ε σ τ α : Type}

/-- Run a program on a component of the state. -/
def zoom (c : Component σ τ) (x : EStateM ε τ α) : EStateM ε σ α := fun s =>
  match x (c.get s) with
  | .ok a t => .ok a (c.set t s)
  | .error e t => .error e (c.set t s)

theorem zoom_of_ok {c : Component σ τ} {x : EStateM ε τ α} (h : x (c.get s) = .ok a t) :
    zoom c x s = .ok a (c.set t s) := by
  rw [zoom, h]

theorem zoom_of_error {c : Component σ τ} {x : EStateM ε τ α} (h : x (c.get s) = .error e t) :
    zoom c x s = .error e (c.set t s) := by
  rw [zoom, h]

theorem zoom_eq_ok {c : Component σ τ} {x : EStateM ε τ α} :
    zoom c x s = .ok a s' ↔ ∃ t, x (c.get s) = .ok a t ∧ c.set t s = s' := by
  unfold zoom
  cases x (c.get s) <;> simp

theorem final_zoom (c : Component σ τ) (x : EStateM ε τ α) (s : σ) :
    (zoom c x s).final = c.set (x (c.get s)).final s := by
  unfold zoom
  cases x (c.get s) <;> rfl

/-- The state of a run is in `Q` if it returned, in `R` if it stopped early. -/
def Result.Holds (Q : α → σ → Prop) (R : ε → σ → Prop) : EStateM.Result ε σ α → Prop
  | .ok a s => Q a s
  | .error e s => R e s

theorem Result.Holds.mono {Q Q' : α → σ → Prop} {R R' : ε → σ → Prop}
    {r : EStateM.Result ε σ α} (h : r.Holds Q R) (hQ : ∀ a s, Q a s → Q' a s)
    (hR : ∀ e s, R e s → R' e s) : r.Holds Q' R' := by
  cases r with
  | ok a s => exact hQ a s h
  | error e s => exact hR e s h

/-- What holds however the run ends holds of its final state. -/
theorem Result.holds_final {Q : σ → Prop} {r : EStateM.Result ε σ α} :
    r.Holds (fun _ => Q) (fun _ => Q) ↔ Q r.final := by
  cases r <;> rfl

end EStateM

/-- A run: the states it passes through, oldest first, and its result. -/
def Traced (ε σ α : Type) : Type := σ → List σ × EStateM.Result ε σ α

namespace Traced
open EStateM

variable {ε ε' σ τ α β δ : Type}

def visited (x : Traced ε σ α) (s : σ) : List σ := (x s).1

def result (x : Traced ε σ α) (s : σ) : EStateM.Result ε σ α := (x s).2

/-- Continue a run from its result. -/
def andThen (f : α → Traced ε σ β) : List σ × EStateM.Result ε σ α → List σ × EStateM.Result ε σ β
  | (states, .ok a s) => (states ++ (f a).visited s, (f a).result s)
  | (states, .error e s) => (states, .error e s)

instance : Monad (Traced ε σ) where
  pure a s := ([], .ok a s)
  bind x f s := andThen f (x s)

def fail (e : ε) : Traced ε σ α := fun s => ([], .error e s)

def look : Traced ε σ σ := fun s => ([], .ok s s)

/-- A step, of which only the state at its end is seen. -/
def step (x : EStateM ε σ α) : Traced ε σ α := fun s => ([(x s).final], x s)

def mapError (f : ε → ε') (x : Traced ε σ α) : Traced ε' σ α := fun s =>
  match x s with
  | (states, .ok a s') => (states, .ok a s')
  | (states, .error e s') => (states, .error (f e) s')

/-- Return the errors that `caught` accepts as values. -/
def attempt (caught : ε → Except ε' δ) (x : Traced ε σ α) : Traced ε' σ (Except δ α) := fun s =>
  match x s with
  | (states, .ok a s') => (states, .ok (.ok a) s')
  | (states, .error e s') =>
    match caught e with
    | .ok d => (states, .ok (.error d) s')
    | .error e' => (states, .error e' s')

/-- Run a program on a component of the state. -/
def zoom (c : Component σ τ) (x : Traced ε τ α) : Traced ε σ α := fun s =>
  ((x.visited (c.get s)).map (c.set · s),
    match x.result (c.get s) with
    | .ok a t => .ok a (c.set t s)
    | .error e t => .error e (c.set t s))

/-! ## Results -/

@[simp] theorem result_step (x : EStateM ε σ α) (s : σ) : (step x).result s = x s := rfl

@[simp] theorem result_look_bind (f : σ → Traced ε σ β) (s : σ) :
    (look >>= f).result s = (f s).result s := rfl

theorem result_bind_of_ok {x : Traced ε σ α} {f : α → Traced ε σ β} (h : x.result s = .ok a s') :
    (x >>= f).result s = (f a).result s' := by
  change (andThen f (x s)).2 = _
  rw [show x s = (x.visited s, x.result s) from rfl, h, andThen]

theorem result_bind_of_error {x : Traced ε σ α} {f : α → Traced ε σ β}
    (h : x.result s = .error e s') : (x >>= f).result s = .error e s' := by
  change (andThen f (x s)).2 = _
  rw [show x s = (x.visited s, x.result s) from rfl, h, andThen]

theorem result_mapError_of_ok {f : ε → ε'} {x : Traced ε σ α} (h : x.result s = .ok a s') :
    (mapError f x).result s = .ok a s' := by
  rw [result, mapError, show x s = (x.visited s, x.result s) from rfl, h]

theorem result_mapError_of_error {f : ε → ε'} {x : Traced ε σ α} (h : x.result s = .error e s') :
    (mapError f x).result s = .error (f e) s' := by
  rw [result, mapError, show x s = (x.visited s, x.result s) from rfl, h]

theorem result_zoom_of_ok {c : Component σ τ} {x : Traced ε τ α}
    (h : x.result (c.get s) = .ok a t) : (zoom c x).result s = .ok a (c.set t s) := by
  rw [result, zoom, h]

theorem result_zoom_of_error {c : Component σ τ} {x : Traced ε τ α}
    (h : x.result (c.get s) = .error e t) : (zoom c x).result s = .error e (c.set t s) := by
  rw [result, zoom, h]

/-! ## Specifications -/

/-- From a state in `P`, the program passes through states in `I` only, returns in `Q` and stops
early in `R`. -/
def Triple (I P : σ → Prop) (x : Traced ε σ α) (Q : α → σ → Prop) (R : ε → σ → Prop) : Prop :=
  ∀ s, P s → (∀ t ∈ x.visited s, I t) ∧ (x.result s).Holds Q R

namespace Triple
variable {I P P' : σ → Prop} {Q' : β → σ → Prop} {R : ε → σ → Prop} {x : Traced ε σ α}

theorem pure {a : α} {Q : α → σ → Prop} (h : ∀ s, P s → Q a s) :
    Triple I P (Pure.pure a : Traced ε σ α) Q R :=
  fun s hs => ⟨fun _ ht => (List.not_mem_nil ht).elim, h s hs⟩

theorem fail {e : ε} {Q : α → σ → Prop} (h : ∀ s, P s → R e s) :
    Triple I P (Traced.fail e : Traced ε σ α) Q R :=
  fun s hs => ⟨fun _ ht => (List.not_mem_nil ht).elim, h s hs⟩

theorem step {x : EStateM ε σ α} {Q : α → σ → Prop}
    (h : ∀ s, P s → (x s).Holds (fun a t => I t ∧ Q a t) (fun e t => I t ∧ R e t)) :
    Triple I P (Traced.step x) Q R := by
  intro s hs
  have := h s hs
  rw [result_step, visited, Traced.step, List.forall_mem_singleton]
  cases hx : x s with
  | ok a t => rw [hx] at this; exact this
  | error e t => rw [hx] at this; exact this

theorem bind {f : α → Traced ε σ β} {Q : α → σ → Prop} (hx : Triple I P x Q R)
    (hf : ∀ a, Triple I (Q a) (f a) Q' R) : Triple I P (x >>= f) Q' R := by
  intro s hs
  obtain ⟨hvisited, hresult⟩ := hx s hs
  change (∀ t ∈ (andThen f (x s)).1, I t) ∧ (andThen f (x s)).2.Holds Q' R
  rw [show x s = (x.visited s, x.result s) from rfl]
  cases h : x.result s with
  | ok a s' =>
    rw [h] at hresult
    obtain ⟨hvisited', hresult'⟩ := hf a s' hresult
    refine ⟨?_, hresult'⟩
    intro t ht
    rcases List.mem_append.1 ht with ht | ht
    · exact hvisited t ht
    · exact hvisited' t ht
  | error e s' =>
    rw [h] at hresult
    exact ⟨hvisited, hresult⟩

/-- The result of the first program may be named where its start is. -/
theorem bind_named {f : α → Traced ε σ β} {Q : α → σ → Prop} {s : σ}
    (hx : Triple I (· = s) x Q R)
    (hf : ∀ a t, x.result s = .ok a t → Q a t → Triple I (· = t) (f a) Q' R) :
    Triple I (· = s) (x >>= f) Q' R := by
  refine bind (Q := fun a t => x.result s = .ok a t ∧ Q a t) ?_ fun a t ht => hf a t ht.1 ht.2 t rfl
  intro t ht
  subst ht
  obtain ⟨hvisited, hresult⟩ := hx t rfl
  refine ⟨hvisited, ?_⟩
  cases h : x.result t with
  | ok a u => rw [h] at hresult; exact ⟨rfl, hresult⟩
  | error e u => rw [h] at hresult; exact hresult

/-- The state that is read may be named. -/
theorem look_bind {f : σ → Traced ε σ β} (h : ∀ s, P s → Triple I (· = s) (f s) Q' R) :
    Triple I P (Traced.look >>= f) Q' R :=
  fun s hs => h s hs s rfl

theorem mono {Q Q' : α → σ → Prop} {R' : ε → σ → Prop} (h : Triple I P x Q R)
    (hP : ∀ s, P' s → P s) (hQ : ∀ a s, Q a s → Q' a s) (hR : ∀ e s, R e s → R' e s) :
    Triple I P' x Q' R' :=
  fun s hs => ⟨(h s (hP s hs)).1, (h s (hP s hs)).2.mono hQ hR⟩

theorem pre {Q : α → σ → Prop} (h : Triple I P x Q R) (hP : ∀ s, P' s → P s) :
    Triple I P' x Q R :=
  h.mono hP (fun _ _ h => h) (fun _ _ h => h)

/-- Reading the state changes nothing. -/
theorem look_keep {f : σ → Traced ε σ β} (h : ∀ s, P s → Triple I P (f s) Q' R) :
    Triple I P (Traced.look >>= f) Q' R :=
  look_bind fun s hs => (h s hs).pre fun _ ht => ht ▸ hs

/-- Less may be asked of the states on the way. -/
theorem watch {J : σ → Prop} {Q : α → σ → Prop} (h : Triple I P x Q R) (hJ : ∀ s, I s → J s) :
    Triple J P x Q R :=
  fun s hs => ⟨fun t ht => hJ t ((h s hs).1 t ht), (h s hs).2⟩

theorem mapError {f : ε → ε'} {Q : α → σ → Prop} {R' : ε' → σ → Prop}
    (h : Triple I P x Q (fun e => R' (f e))) : Triple I P (Traced.mapError f x) Q R' := by
  intro s hs
  obtain ⟨hvisited, hresult⟩ := h s hs
  rw [visited, result, Traced.mapError, show x s = (x.visited s, x.result s) from rfl]
  cases h : x.result s with
  | ok a s' => rw [h] at hresult; exact ⟨hvisited, hresult⟩
  | error e s' => rw [h] at hresult; exact ⟨hvisited, hresult⟩

theorem attempt {caught : ε → Except ε' δ} {Q : Except δ α → σ → Prop} {R' : ε' → σ → Prop}
    (h : Triple I P x (fun a => Q (.ok a)) (fun e s =>
      (∀ d, caught e = .ok d → Q (.error d) s) ∧ ∀ e', caught e = .error e' → R' e' s)) :
    Triple I P (Traced.attempt caught x) Q R' := by
  intro s hs
  obtain ⟨hvisited, hresult⟩ := h s hs
  rw [visited, result, Traced.attempt, show x s = (x.visited s, x.result s) from rfl]
  cases h : x.result s with
  | ok a s' => rw [h] at hresult; exact ⟨hvisited, hresult⟩
  | error e s' =>
    rw [h] at hresult
    cases hc : caught e with
    | ok d => simp only [hc]; exact ⟨hvisited, hresult.1 d hc⟩
    | error e' => simp only [hc]; exact ⟨hvisited, hresult.2 e' hc⟩

/-- Nothing is asked of the program. -/
theorem anything {P : σ → Prop} {x : Traced ε σ α} :
    Triple (fun _ => True) P x (fun _ _ => True) fun _ _ => True := by
  refine fun s _ => ⟨fun _ _ => trivial, ?_⟩
  cases x.result s <;> trivial

/-- Around a component nothing changes. -/
theorem zoom {c : Component σ τ} {x : Traced ε τ α} {Q : α → σ → Prop}
    (h : ∀ s, P s → Triple (fun t => I (c.set t s)) (· = c.get s) x
      (fun a t => Q a (c.set t s)) (fun e t => R e (c.set t s))) :
    Triple I P (Traced.zoom c x) Q R := by
  intro s hs
  obtain ⟨hvisited, hresult⟩ := h s hs (c.get s) rfl
  constructor
  · intro t ht
    obtain ⟨u, hu, rfl⟩ := List.mem_map.1 ht
    exact hvisited u hu
  · rw [result, Traced.zoom]
    cases hx : x.result (c.get s) with
    | ok a t => rw [hx] at hresult; exact hresult
    | error e t => rw [hx] at hresult; exact hresult

end Triple

end Traced
