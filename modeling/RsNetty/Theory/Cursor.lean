import RsNetty.Theory.State

/-!
# Cursors, and the correspondence of readers with writers

A cursor is a position in a list. `At c b` says that `c` is in range with `b` left to read; the
library never looks at how a cursor is represented. The predicates:

* `Reads x w v`: before any continuation of `w` the reader `x` takes exactly `w` and returns `v`;
* `ReadsAll x w v`: the same when nothing follows `w`;
* `Parses x Q`: whatever `x` accepts, it took some `w` off the front, and `Q v w` holds of the
  value returned and of what was taken;
* `RoundTrip wr x v`, `RoundTripAll wr x v`: what the appending writer `wr` emits, `x` reads back
  as `v`;
* `Canonical wr x`: moreover `x` accepts nothing but what the writer emits.

Each has a rule for every way of putting programs together, so a reader written as a sequence of
fields is treated field by field, in step with its writer.
-/

/-- Positions in a list, abstractly. -/
class Cursor (ρ : Type) (β : outParam Type) where
  /-- The cursor is in range and this is what is left to read. -/
  At : ρ → List β → Prop
  /-- The list is within the size that the readers are meant for. -/
  Fits : ρ → Prop
  /-- Advance by a number of elements. -/
  skip : ρ → Nat → ρ
  at_skip : At c (w ++ r) → At (skip c w.length) r
  fits_skip : Fits c → Fits (skip c n)
  skip_zero (c : ρ) : skip c 0 = c
  skip_skip (c : ρ) (m n : Nat) : skip (skip c m) n = skip c (m + n)

namespace Cursor
open EStateM

variable {ε ρ α γ β : Type} [Cursor ρ β]

/-! ## Reading exactly -/

/-- Before any continuation of `w`, the reader takes exactly `w` and returns `v`. -/
def Reads (x : EStateM ε ρ α) (w : List β) (v : α) : Prop :=
  ∀ c r, Fits c → At c (w ++ r) → x c = .ok v (skip c w.length)

/-- With exactly `w` left, the reader takes all of it and returns `v`. -/
def ReadsAll (x : EStateM ε ρ α) (w : List β) (v : α) : Prop :=
  ∀ c, Fits c → At c w → x c = .ok v (skip c w.length)

namespace Reads

theorem pure (v : α) : Reads (ε := ε) (ρ := ρ) (Pure.pure v) [] v := fun c _ _ _ => by
  simp [pure_eq, skip_zero]

theorem bind {x : EStateM ε ρ α} {f : α → EStateM ε ρ γ} (hx : Reads x w₁ a)
    (hf : Reads (f a) w₂ v) : Reads (x >>= f) (w₁ ++ w₂) v := by
  intro c r hc h
  rw [List.append_assoc] at h
  rw [bind_of_ok (hx c (w₂ ++ r) hc h), hf _ r (fits_skip hc) (at_skip h), skip_skip,
    List.length_append]

theorem congr {x : EStateM ε ρ α} (hx : Reads x w v) (h : w = w') : Reads x w' v := h ▸ hx

/-- A reader followed by a step that reads nothing. -/
theorem map {x : EStateM ε ρ α} {f : α → EStateM ε ρ γ} (hx : Reads x w a)
    (hf : f a = Pure.pure v) : Reads (x >>= f) w v :=
  (hx.bind (hf ▸ Reads.pure v)).congr (List.append_nil w)

/-- A check that passes reads nothing. -/
theorem lifted_bind {y : Except ε α} {f : α → EStateM ε ρ γ} (hy : y = .ok a)
    (hf : Reads (f a) w v) : Reads (EStateM.lifted y >>= f) w v := fun c r hc h => by
  rw [bind_of_ok (lifted_eq_ok.2 ⟨hy, rfl⟩), hf c r hc h]

theorem all {x : EStateM ε ρ α} (hx : Reads x w v) : ReadsAll x w v := fun c hc h =>
  hx c [] hc (by rwa [List.append_nil])

theorem bind_all {x : EStateM ε ρ α} {f : α → EStateM ε ρ γ} (hx : Reads x w₁ a)
    (hf : ReadsAll (f a) w₂ v) : ReadsAll (x >>= f) (w₁ ++ w₂) v := by
  intro c hc h
  rw [bind_of_ok (hx c w₂ hc h), hf _ (fits_skip hc) (at_skip h), skip_skip, List.length_append]

end Reads

namespace ReadsAll

/-- A reader of everything followed by a step that reads nothing. -/
theorem map {x : EStateM ε ρ α} {f : α → EStateM ε ρ γ} (hx : ReadsAll x w a)
    (hf : f a = Pure.pure v) : ReadsAll (x >>= f) w v := by
  intro c hc h
  rw [bind_of_ok (hx c hc h), hf]
  rfl

theorem lifted_bind {y : Except ε α} {f : α → EStateM ε ρ γ} (hy : y = .ok a)
    (hf : ReadsAll (f a) w v) : ReadsAll (EStateM.lifted y >>= f) w v := fun c hc h => by
  rw [bind_of_ok (lifted_eq_ok.2 ⟨hy, rfl⟩), hf c hc h]

/-- A reader that first looks at its position. -/
theorem get_bind {f : ρ → EStateM ε ρ α} (h : ∀ c, At c w → ReadsAll (f c) w v) :
    ReadsAll (get >>= f) w v :=
  fun c hc hw => h c hw c hc hw

end ReadsAll

/-! ## What a reader takes -/

/-- Whatever the reader accepts, it took some `w` off the front, and `Q` holds of the value
returned and of `w`. -/
def Parses (x : EStateM ε ρ α) (Q : α → List β → Prop) : Prop :=
  ∀ c b v c', At c b → x c = .ok v c' →
    ∃ w r, b = w ++ r ∧ c' = skip c w.length ∧ Q v w

namespace Parses

theorem pure {Q : α → List β → Prop} (h : Q v []) :
    Parses (ε := ε) (ρ := ρ) (Pure.pure v) Q := by
  intro c b v' c' _ hx
  cases hx
  exact ⟨[], b, rfl, (skip_zero c).symm, h⟩

theorem throw {Q : α → List β → Prop} (e : ε) :
    Parses (ρ := ρ) (MonadExcept.throw e : EStateM ε ρ α) Q :=
  fun _ _ _ _ _ h => nomatch h

theorem lifted {y : Except ε α} {Q : α → List β → Prop} (h : ∀ v, y = .ok v → Q v []) :
    Parses (ρ := ρ) (EStateM.lifted y) Q := by
  intro c b v c' _ hx
  obtain ⟨hy, rfl⟩ := lifted_eq_ok.1 hx
  exact ⟨[], b, rfl, (skip_zero c).symm, h v hy⟩

theorem mono {x : EStateM ε ρ α} {Q Q' : α → List β → Prop} (hx : Parses x Q)
    (h : ∀ v w, Q v w → Q' v w) : Parses x Q' := by
  intro c b v c' hc hv
  obtain ⟨w, r, hb, hr, hQ⟩ := hx c b v c' hc hv
  exact ⟨w, r, hb, hr, h v w hQ⟩

theorem bind {x : EStateM ε ρ α} {f : α → EStateM ε ρ γ} {P : α → List β → Prop}
    {Q : γ → List β → Prop} (hx : Parses x P)
    (hf : ∀ a w₁, P a w₁ → Parses (f a) fun v w₂ => Q v (w₁ ++ w₂)) : Parses (x >>= f) Q := by
  intro c b v c' hc hv
  obtain ⟨a, c₁, hxa, hfa⟩ := bind_eq_ok.1 hv
  obtain ⟨w₁, r₁, rfl, rfl, hP⟩ := hx c b a c₁ hc hxa
  obtain ⟨w₂, r₂, rfl, rfl, hQ⟩ := hf a w₁ hP _ r₁ v c' (at_skip hc) hfa
  refine ⟨w₁ ++ w₂, r₂, (List.append_assoc ..).symm, ?_, hQ⟩
  rw [skip_skip, List.length_append]

/-- A reader followed by a step that reads nothing. -/
theorem map {x : EStateM ε ρ α} {f : α → γ} {P : α → List β → Prop}
    {Q : γ → List β → Prop} (hx : Parses x P) (hf : ∀ a w, P a w → Q (f a) w) :
    Parses (x >>= fun a => Pure.pure (f a)) Q :=
  hx.bind fun a w h => Parses.pure (by rw [List.append_nil]; exact hf a w h)

theorem lifted_bind {y : Except ε α} {f : α → EStateM ε ρ γ} {Q : γ → List β → Prop}
    (hf : ∀ a, y = .ok a → Parses (f a) Q) : Parses (EStateM.lifted y >>= f) Q :=
  (Parses.lifted (Q := fun a w => y = .ok a ∧ w = []) fun _ h => ⟨h, rfl⟩).bind
    fun a _ h => h.2 ▸ hf a h.1

theorem ite {p : Prop} [Decidable p] {x y : EStateM ε ρ α} {Q : α → List β → Prop}
    (hx : p → Parses x Q) (hy : ¬p → Parses y Q) : Parses (if p then x else y) Q := by
  split
  · exact hx ‹_›
  · exact hy ‹_›

/-- Reading the cursor itself takes nothing. -/
theorem get_bind {f : ρ → EStateM ε ρ α} {Q : α → List β → Prop} (h : ∀ c, Parses (f c) Q) :
    Parses (get >>= f) Q :=
  fun c b v c' hc hv => h c c b v c' hc hv

end Parses

/-! ## How a reader fails -/

/-- Whatever the reader fails with, `E` holds of it, and the reader took some `w` off the front by
then. -/
def Throws (x : EStateM ε ρ α) (E : ε → Prop) : Prop :=
  ∀ c b e c', At c b → x c = .error e c' → E e ∧ ∃ w r, b = w ++ r ∧ c' = skip c w.length

namespace Throws

variable {E : ε → Prop}

theorem pure (v : α) : Throws (ρ := ρ) (Pure.pure v) E :=
  fun _ _ _ _ _ h => nomatch h

theorem lifted {y : Except ε α} (h : ∀ e, y = .error e → E e) :
    Throws (ρ := ρ) (EStateM.lifted y) E := by
  intro c b e c' _ he
  obtain ⟨hy, rfl⟩ := lifted_eq_error.1 he
  exact ⟨h e hy, [], b, rfl, (skip_zero c).symm⟩

theorem throw {e : ε} (h : E e) :
    Throws (ρ := ρ) (MonadExcept.throw e : EStateM ε ρ α) E := by
  intro c b e' c' _ he
  cases he
  exact ⟨h, [], b, rfl, (skip_zero c).symm⟩

/-- The second reader begins where the first one has ended. -/
theorem bind {x : EStateM ε ρ α} {f : α → EStateM ε ρ γ} {P : α → List β → Prop}
    (hx : Throws x E) (hp : Parses x P) (hf : ∀ a w, P a w → Throws (f a) E) :
    Throws (x >>= f) E := by
  intro c b e c' hc he
  rcases bind_eq_error.1 he with hxe | ⟨a, c₁, hxa, hfe⟩
  · exact hx c b e c' hc hxe
  · obtain ⟨w₁, r₁, rfl, rfl, hP⟩ := hp c b a c₁ hc hxa
    obtain ⟨hE, w₂, r₂, rfl, rfl⟩ := hf a w₁ hP _ r₁ e c' (at_skip hc) hfe
    refine ⟨hE, w₁ ++ w₂, r₂, (List.append_assoc ..).symm, ?_⟩
    rw [skip_skip, List.length_append]

theorem map {x : EStateM ε ρ α} {f : α → γ} (hx : Throws x E) :
    Throws (x >>= fun a => Pure.pure (f a)) E := by
  intro c b e c' hc he
  rcases bind_eq_error.1 he with hxe | ⟨a, c₁, -, hfe⟩
  · exact hx c b e c' hc hxe
  · exact nomatch hfe

theorem lifted_bind {y : Except ε α} {f : α → EStateM ε ρ γ} (he : ∀ e, y = .error e → E e)
    (hf : ∀ a, y = .ok a → Throws (f a) E) : Throws (EStateM.lifted y >>= f) E :=
  (lifted he).bind (Parses.lifted (Q := fun a _ => y = .ok a) fun _ h => h) fun a _ h => hf a h

theorem ite {p : Prop} [Decidable p] {x y : EStateM ε ρ α} (hx : p → Throws x E)
    (hy : ¬p → Throws y E) : Throws (if p then x else y) E := by
  split
  · exact hx ‹_›
  · exact hy ‹_›

/-- A reader that first looks at its position. -/
theorem get_bind {f : ρ → EStateM ε ρ α} (h : ∀ c, Throws (f c) E) : Throws (get >>= f) E :=
  fun c b e c' hc he => h c c b e c' hc he

end Throws

/-! ## Writers and readers in step -/

section RoundTrip
variable {δ δ' : Type}

/-- What the appending writer emits, the reader reads back as `v`. -/
def RoundTrip (wr : EStateM ε (List β) δ) (x : EStateM ε ρ α) (v : α) : Prop :=
  AppendOnly wr ∧ ∀ u w, Emits wr u w → Reads x w v

/-- What the appending writer emits, the reader reads back as `v` when nothing follows. -/
def RoundTripAll (wr : EStateM ε (List β) δ) (x : EStateM ε ρ α) (v : α) : Prop :=
  AppendOnly wr ∧ ∀ u w, Emits wr u w → ReadsAll x w v

namespace RoundTrip

theorem all {wr : EStateM ε (List β) δ} {x : EStateM ε ρ α} (h : RoundTrip wr x v) :
    RoundTripAll wr x v :=
  ⟨h.1, fun u w hw => (h.2 u w hw).all⟩

theorem bind {wr : EStateM ε (List β) δ} {wr' : EStateM ε (List β) δ'} {x : EStateM ε ρ α}
    {f : α → EStateM ε ρ γ} (h : RoundTrip wr x a) (h' : RoundTrip wr' (f a) v) :
    RoundTrip (wr >>= fun _ => wr') (x >>= f) v := by
  refine ⟨h.1.bind fun _ => h'.1, fun u w hw => ?_⟩
  obtain ⟨_, w₁, w₂, hw₁, hw₂, rfl⟩ := (Emits.bind_iff h.1 fun _ => h'.1).1 hw
  exact (h.2 _ w₁ hw₁).bind (h'.2 u w₂ hw₂)

theorem bind_all {wr : EStateM ε (List β) δ} {wr' : EStateM ε (List β) δ'} {x : EStateM ε ρ α}
    {f : α → EStateM ε ρ γ} (h : RoundTrip wr x a) (h' : RoundTripAll wr' (f a) v) :
    RoundTripAll (wr >>= fun _ => wr') (x >>= f) v := by
  refine ⟨h.1.bind fun _ => h'.1, fun u w hw => ?_⟩
  obtain ⟨_, w₁, w₂, hw₁, hw₂, rfl⟩ := (Emits.bind_iff h.1 fun _ => h'.1).1 hw
  exact (h.2 _ w₁ hw₁).bind_all (h'.2 u w₂ hw₂)

/-- The reader's last step only assembles the value. -/
theorem map {wr : EStateM ε (List β) δ} {x : EStateM ε ρ α} {f : α → EStateM ε ρ γ}
    (h : RoundTrip wr x a) (hf : f a = Pure.pure v) : RoundTrip wr (x >>= f) v :=
  ⟨h.1, fun u w hw => (h.2 u w hw).map hf⟩

/-- Nothing is written and nothing is read. -/
theorem pure (u : δ) (v : α) :
    RoundTrip (ρ := ρ) (Pure.pure u : EStateM ε (List β) δ) (Pure.pure v) v := by
  refine ⟨AppendOnly.pure _, fun u' w hw => ?_⟩
  obtain ⟨-, rfl⟩ := (Emits.pure u).inj hw
  exact Reads.pure v

/-- A check of the writer: what was written, was written after the check had passed. -/
theorem write_lifted {y : Except ε α} {wr : α → EStateM ε (List β) δ} {x : EStateM ε ρ γ}
    (h : ∀ a, y = .ok a → RoundTrip (wr a) x v) : RoundTrip (EStateM.lifted y >>= wr) x v := by
  cases y with
  | ok a => exact h a rfl
  | error e => exact ⟨AppendOnly.throw e, fun _ _ hw => nomatch hw []⟩

end RoundTrip

namespace RoundTripAll

theorem map {wr : EStateM ε (List β) δ} {x : EStateM ε ρ α} {f : α → EStateM ε ρ γ}
    (h : RoundTripAll wr x a) (hf : f a = Pure.pure v) : RoundTripAll wr (x >>= f) v :=
  ⟨h.1, fun u w hw => (h.2 u w hw).map hf⟩

theorem read_lifted {wr : EStateM ε (List β) δ} {y : Except ε α} {f : α → EStateM ε ρ γ}
    (hy : y = .ok a) (h : RoundTripAll wr (f a) v) : RoundTripAll wr (EStateM.lifted y >>= f) v :=
  ⟨h.1, fun u w hw => (h.2 u w hw).lifted_bind hy⟩

theorem write_lifted {y : Except ε α} {wr : α → EStateM ε (List β) δ} {x : EStateM ε ρ γ}
    (h : ∀ a, y = .ok a → RoundTripAll (wr a) x v) :
    RoundTripAll (EStateM.lifted y >>= wr) x v := by
  cases y with
  | ok a => exact h a rfl
  | error e => exact ⟨AppendOnly.throw e, fun _ _ hw => nomatch hw []⟩

/-- What a run from the empty buffer wrote is read back. -/
theorem readsAll {wr : EStateM ε (List β) δ} {x : EStateM ε ρ α} (h : RoundTripAll wr x v)
    (hw : wr [] = .ok u w) : ReadsAll x w v := by
  obtain ⟨w, hw, rfl⟩ := h.1.ok_iff.1 hw
  exact h.2 u w hw

/-- The writer ends in a step that writes nothing. -/
theorem write_map {wr : EStateM ε (List β) δ} {x : EStateM ε ρ α} (h : RoundTripAll wr x v)
    (u : δ') : RoundTripAll (wr >>= fun _ => Pure.pure u) x v := by
  refine ⟨h.1.bind fun _ => AppendOnly.pure u, fun u' w hw => ?_⟩
  obtain ⟨_, w₁, w₂, hw₁, hw₂, rfl⟩ := (Emits.bind_iff h.1 fun _ => AppendOnly.pure u).1 hw
  obtain ⟨-, rfl⟩ := (Emits.pure u).inj hw₂
  rw [List.append_nil]
  exact h.2 _ w₁ hw₁

end RoundTripAll

/-- The writer writes a value again, in no more room than it was read from. -/
def Forwards (wr : EStateM ε (List β) δ) (w : List β) : Prop :=
  ∃ u w', Emits wr u w' ∧ w'.length ≤ w.length

namespace Forwards

theorem of_emits {wr : EStateM ε (List β) δ} (h : Emits wr u w) : Forwards wr w :=
  ⟨u, w, h, Nat.le_refl _⟩

theorem bind {wr : EStateM ε (List β) δ} {wr' : EStateM ε (List β) δ'} (h : Forwards wr w)
    (h' : Forwards wr' w') : Forwards (wr >>= fun _ => wr') (w ++ w') := by
  obtain ⟨_, u, hu, hle⟩ := h
  obtain ⟨_, u', hu', hle'⟩ := h'
  refine ⟨_, u ++ u', hu.bind hu', ?_⟩
  rw [List.length_append, List.length_append]
  exact Nat.add_le_add hle hle'

theorem lifted_bind {y : Except ε α} {wr : α → EStateM ε (List β) δ} (hy : y = .ok a)
    (h : Forwards (wr a) w) : Forwards (EStateM.lifted y >>= wr) w := by
  obtain ⟨u, w', hw', hle⟩ := h
  exact ⟨u, w', hw'.lifted_bind hy, hle⟩

theorem mono {wr : EStateM ε (List β) δ} (h : Forwards wr w) (hle : w.length ≤ w'.length) :
    Forwards wr w' := by
  obtain ⟨u, w₀, hw, hle₀⟩ := h
  exact ⟨u, w₀, hw, Nat.le_trans hle₀ hle⟩

theorem pure (u : δ) (w : List β) : Forwards (Pure.pure u : EStateM ε (List β) δ) w :=
  ⟨u, [], Emits.pure u, Nat.zero_le _⟩

end Forwards

/-- Writer and reader of a field are inverse to each other. -/
structure Canonical (wr : α → EStateM ε (List β) Unit) (x : EStateM ε ρ α) : Prop where
  appendOnly (v : α) : AppendOnly (wr v)
  reads : Emits (wr v) () w → Reads x w v
  parses : Parses x fun v w => Emits (wr v) () w

namespace Canonical

theorem roundTrip {wr : α → EStateM ε (List β) Unit} {x : EStateM ε ρ α} (h : Canonical wr x)
    (v : α) : RoundTrip (wr v) x v :=
  ⟨h.appendOnly v, fun _ _ => h.reads⟩

theorem forwards {wr : α → EStateM ε (List β) Unit} {x : EStateM ε ρ α} (h : Canonical wr x) :
    Parses x fun v w => Forwards (wr v) w :=
  h.parses.mono fun _ _ => Forwards.of_emits

end Canonical

end RoundTrip

end Cursor
