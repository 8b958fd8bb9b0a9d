import RsNetty.Theory.State

/-!
# Streaming decoders and the cutting of their input

A streaming decoder is called on a buffer until it asks for more input. `drain` is the loop over
one buffer, `feed` the loop over the chunks of a stream. `StableAt` says what one call must satisfy
for the cut behind its buffer not to matter; `feed_sim` concludes, for a run all of whose calls are
stable, that the whole stream in one chunk gives the same items and the same end.
-/

namespace Segmentation

variable {ε σ β ι : Type}

/-- A call on a decoder with state `σ` and a buffer: an item, or a request for more input. -/
abbrev Decoder (ε σ β ι : Type) := EStateM ε (σ × List β) (Option ι)

/-- How a run of a decoder ends. -/
inductive Ending (ε σ β : Type) where
  /-- More input is needed. -/
  | waiting (s : σ) (b : List β)
  | failed (e : ε)
  /-- An item took nothing off the buffer, so the loop need not end. -/
  | stuck

/-- Call the decoder until it asks for more input. -/
def drain (dec : Decoder ε σ β ι) (s : σ) (b : List β) : List ι × Ending ε σ β :=
  match dec (s, b) with
  | .ok none (s', b') => ([], .waiting s' b')
  | .ok (some i) (s', b') =>
    if b'.length < b.length then
      let rest := drain dec s' b'
      (i :: rest.1, rest.2)
    else ([i], .stuck)
  | .error e _ => ([], .failed e)
termination_by b.length

/-- Append the chunks one after the other, draining the buffer after each. -/
def feed (dec : Decoder ε σ β ι) (s : σ) (b : List β) : List (List β) → List ι × Ending ε σ β
  | [] => ([], .waiting s b)
  | c :: cs =>
    match drain dec s (b ++ c) with
    | (items, .waiting s' b') =>
      let rest := feed dec s' b' cs
      (items ++ rest.1, rest.2)
    | (items, ending) => (items, ending)

/-! ## One call -/

theorem drain_none {dec : Decoder ε σ β ι} (h : dec (s, b) = .ok none (s', b')) :
    drain dec s b = ([], .waiting s' b') := by
  rw [drain, h]

theorem drain_item {dec : Decoder ε σ β ι} (h : dec (s, b) = .ok (some i) (s', b'))
    (hlt : b'.length < b.length) :
    drain dec s b = (i :: (drain dec s' b').1, (drain dec s' b').2) := by
  rw [drain, h]
  exact if_pos hlt

theorem drain_error {dec : Decoder ε σ β ι} (h : dec (s, b) = .error e st) :
    drain dec s b = ([], .failed e) := by
  rw [drain, h]

/-- Two endings that agree up to the error. -/
inductive Ending.Sim (E : ε → ε → Prop) : Ending ε σ β → Ending ε σ β → Prop
  | waiting : Sim E (.waiting s b) (.waiting s b)
  | failed : E e e' → Sim E (.failed e) (.failed e')

/-- Two runs that agree in the items and, up to the error, in the end. -/
def Sim (E : ε → ε → Prop) (x y : List ι × Ending ε σ β) : Prop :=
  x.1 = y.1 ∧ x.2.Sim E y.2

theorem Sim.append {E : ε → ε → Prop} {x y : List ι × Ending ε σ β} (h : Sim E x y)
    (items : List ι) : Sim E (items ++ x.1, x.2) (items ++ y.1, y.2) :=
  ⟨congrArg (items ++ ·) h.1, h.2⟩

theorem Sim.eq {x y : List ι × Ending ε σ β} (h : Sim Eq x y) : x = y := by
  obtain ⟨items, ending⟩ := x
  obtain ⟨items', ending'⟩ := y
  obtain ⟨rfl, h⟩ := h
  cases h with
  | waiting => rfl
  | failed he => rw [he]

theorem Sim.eq_waiting_iff {E : ε → ε → Prop} {x y : List ι × Ending ε σ β} (h : Sim E x y) :
    x = (items, .waiting s b) ↔ y = (items, .waiting s b) := by
  obtain ⟨items', ending⟩ := x
  obtain ⟨items'', ending'⟩ := y
  obtain ⟨rfl, h⟩ := h
  cases h with
  | waiting => exact Iff.rfl
  | failed _ => exact ⟨fun h => (nomatch congrArg Prod.snd h), fun h => (nomatch congrArg Prod.snd h)⟩

/-- A call whose outcome more input does not change: an item takes something and stays the same,
an error stays one, and nothing is lost when the decoder asks for more. -/
def StableAt (dec : Decoder ε σ β ι) (E : ε → ε → Prop) (s : σ) (b r : List β) : Prop :=
  match dec (s, b) with
  | .ok none (s', b') => b'.length ≤ b.length ∧ dec (s, b ++ r) = dec (s', b' ++ r)
  | .ok (some i) (s', b') =>
    b'.length < b.length ∧ dec (s, b ++ r) = .ok (some i) (s', b' ++ r)
  | .error e _ => ∃ e' st, dec (s, b ++ r) = .error e' st ∧ E e e'

/-- A decoder none of whose calls changes its own state. -/
def stateless (f : σ → EStateM ε (List β) (Option ι)) : Decoder ε σ β ι := fun (s, b) =>
  match f s b with
  | .ok a b' => .ok a (s, b')
  | .error e b' => .error e (s, b')

theorem stateless_ok {f : σ → EStateM ε (List β) (Option ι)} (h : f s b = .ok a b') :
    stateless f (s, b) = .ok a (s, b') := by
  rw [stateless, h]

theorem stateless_error {f : σ → EStateM ε (List β) (Option ι)} (h : f s b = .error e b') :
    stateless f (s, b) = .error e (s, b') := by
  rw [stateless, h]

/-- A call without a state of its own whose outcome more input does not change. -/
inductive StableCall (x : EStateM ε (List β) (Option ι)) (E : ε → ε → Prop) (b r : List β) : Prop
  | none : x b = .ok none b → StableCall x E b r
  | item : x b = .ok (some i) b' → b'.length < b.length →
      x (b ++ r) = .ok (some i) (b' ++ r) → StableCall x E b r
  | error : x b = .error e st → x (b ++ r) = .error e' st' → E e e' → StableCall x E b r

/-- A decoder that passes a call on is as stable as the call. -/
theorem StableCall.stableAt {κ : Type} {dec : Decoder ε σ β κ} {E : ε → ε → Prop} {s : σ}
    {x : EStateM ε (List β) (Option ι)} {f : ι → κ}
    (hok : ∀ b o b', x b = .ok o b' → dec (s, b) = .ok (o.map f) (s, b'))
    (herror : ∀ b e b', x b = .error e b' → dec (s, b) = .error e (s, b'))
    (h : StableCall x E b r) : StableAt dec E s b r := by
  unfold StableAt
  cases h with
  | none h =>
    rw [hok _ _ _ h]
    exact ⟨Nat.le_refl _, rfl⟩
  | item h hlt h' =>
    rw [hok _ _ _ h]
    exact ⟨hlt, hok _ _ _ h'⟩
  | error h h' hE =>
    rw [herror _ _ _ h]
    exact ⟨_, _, herror _ _ _ h', hE⟩

theorem StableCall.stateless {f : σ → EStateM ε (List β) (Option ι)} {E : ε → ε → Prop}
    (h : StableCall (f s) E b r) : StableAt (stateless f) E s b r := by
  refine StableCall.stableAt (f := id) (fun _ o _ h => ?_) (fun _ _ _ => stateless_error) h
  rw [Option.map_id]
  exact stateless_ok h

/-- A loop over words each of which the decoder takes as a whole. -/
theorem drain_words {dec : Decoder ε σ β ι} (hnil : dec (s, []) = .ok none (s, []))
    {word : ι → List β} {items : List ι}
    (h : ∀ i ∈ items, word i ≠ [] ∧ ∀ r, dec (s, word i ++ r) = .ok (some i) (s, r)) :
    drain dec s (items.map word).flatten = (items, .waiting s []) := by
  induction items with
  | nil => exact drain_none hnil
  | cons i items ih =>
    obtain ⟨hi, hitems⟩ := List.forall_mem_cons.1 h
    have hlt : (items.map word).flatten.length < (word i ++ (items.map word).flatten).length := by
      have := List.length_pos_iff.2 hi.1
      rw [List.length_append]
      omega
    rw [List.map_cons, List.flatten_cons, drain_item (hi.2 _) hlt, ih hitems]

/-! ## Runs -/

/-- The calls of a run: from a call on `b` with the chunks `cs` to come, the run reaches a call on
`b'` with the chunks `cs'` to come. -/
inductive Calls (dec : Decoder ε σ β ι) :
    σ → List β → List (List β) → σ → List β → List (List β) → Prop
  | here : Calls dec s b cs s b cs
  | item : dec (s, b) = .ok (some i) (s₁, b₁) → Calls dec s₁ b₁ cs s' b' cs' →
      Calls dec s b cs s' b' cs'
  | more : dec (s, b) = .ok none (s₁, b₁) → Calls dec s₁ (b₁ ++ c) cs s' b' cs' →
      Calls dec s b (c :: cs) s' b' cs'

theorem Calls.stateless_eq {f : σ → EStateM ε (List β) (Option ι)}
    (h : Calls (stateless f) s b cs s' b' cs') : s' = s := by
  have hstate : ∀ {s b o s₁ b₁}, stateless f (s, b) = .ok o (s₁, b₁) → s₁ = s := by
    intro s b o s₁ b₁ hok
    rw [stateless] at hok
    split at hok <;> cases hok
    rfl
  induction h with
  | here => rfl
  | item hd _ ih => exact ih.trans (hstate hd)
  | more hd _ ih => exact ih.trans (hstate hd)

/-- The calls of `feed`. -/
def FeedCalls (dec : Decoder ε σ β ι) (s : σ) (b : List β) (chunks : List (List β))
    (s' : σ) (b' : List β) (cs' : List (List β)) : Prop :=
  ∃ c cs, chunks = c :: cs ∧ Calls dec s (b ++ c) cs s' b' cs'

/-- Continue a run after a loop over the buffer. -/
def resume (dec : Decoder ε σ β ι) (cs : List (List β)) :
    List ι × Ending ε σ β → List ι × Ending ε σ β
  | (items, .waiting s b) => (items ++ (feed dec s b cs).1, (feed dec s b cs).2)
  | (items, ending) => (items, ending)

theorem feed_cons (dec : Decoder ε σ β ι) (s : σ) (b c : List β) (cs : List (List β)) :
    feed dec s b (c :: cs) = resume dec cs (drain dec s (b ++ c)) := by
  rw [feed]
  rcases drain dec s (b ++ c) with ⟨items, _ | _ | _⟩ <;> rfl

theorem resume_nil (dec : Decoder ε σ β ι) (x : List ι × Ending ε σ β) : resume dec [] x = x := by
  obtain ⟨items, _ | _ | _⟩ := x <;> simp [resume, feed]

theorem resume_of_waiting {dec : Decoder ε σ β ι} {x : List ι × Ending ε σ β}
    (h : x.2 = .waiting s b) (cs : List (List β)) :
    (resume dec cs x).2 = (feed dec s b cs).2 := by
  obtain ⟨items, ending⟩ := x
  cases h
  rfl

theorem resume_of_failed {dec : Decoder ε σ β ι} {x : List ι × Ending ε σ β}
    (h : x.2 = .failed e) (cs : List (List β)) : resume dec cs x = x := by
  obtain ⟨items, ending⟩ := x
  cases h
  rfl

theorem feed_single (dec : Decoder ε σ β ι) (s : σ) (b c : List β) :
    feed dec s b [c] = drain dec s (b ++ c) := by
  rw [feed_cons, resume_nil]

theorem resume_cons_item (dec : Decoder ε σ β ι) (cs : List (List β)) (i : ι)
    (x : List ι × Ending ε σ β) :
    resume dec cs (i :: x.1, x.2) = (i :: (resume dec cs x).1, (resume dec cs x).2) := by
  obtain ⟨items, _ | _ | _⟩ := x <;> rfl

/-- The same call on a longer buffer: a loop that ends, ends in the same way. -/
theorem drain_congr {dec : Decoder ε σ β ι} (h : dec (s, b) = dec (s', b'))
    (hle : b'.length ≤ b.length) (hend : (drain dec s' b').2 ≠ .stuck) :
    drain dec s b = drain dec s' b' := by
  rcases hd : dec (s', b') with ⟨_ | i, s₁, b₁⟩ | _
  · rw [drain_none hd, drain_none (h.trans hd)]
  · have hlt : b₁.length < b'.length := by
      by_contra hge
      rw [drain, hd] at hend
      simp [hge] at hend
    rw [drain_item hd hlt, drain_item (h.trans hd) (by omega)]
  · rw [drain_error hd, drain_error (h.trans hd)]

theorem Sim.ne_stuck {E : ε → ε → Prop} {x y : List ι × Ending ε σ β} (h : Sim E x y) :
    y.2 ≠ .stuck := by
  obtain ⟨_, x⟩ := x
  obtain ⟨-, h⟩ := h
  intro heq
  rw [heq] at h
  cases h

/-- A run all of whose calls are stable does as the loop over the whole stream. -/
theorem resume_drain_sim {dec : Decoder ε σ β ι} {E : ε → ε → Prop} (s : σ) (b : List β)
    (cs : List (List β))
    (h : ∀ s' b' cs', Calls dec s b cs s' b' cs' → StableAt dec E s' b' cs'.flatten) :
    Sim E (resume dec cs (drain dec s b)) (drain dec s (b ++ cs.flatten)) := by
  have hst := h _ _ _ .here
  rw [StableAt] at hst
  match hd : dec (s, b) with
  | .ok none (s₁, b₁) =>
    simp only [hd] at hst
    rw [drain_none hd]
    match cs, h, hst with
    | [], _, _ =>
      rw [resume_nil, List.flatten_nil, List.append_nil, drain_none hd]
      exact ⟨rfl, .waiting⟩
    | c :: cs₁, h, hst =>
      have ih := resume_drain_sim s₁ (b₁ ++ c) cs₁ fun s' b' cs' hc => h _ _ _ (.more hd hc)
      rw [List.append_assoc, ← feed_cons, ← List.flatten_cons] at ih
      rw [drain_congr hst.2 (by simpa using hst.1) ih.ne_stuck]
      exact ih
  | .ok (some i) (s₁, b₁) =>
    simp only [hd] at hst
    obtain ⟨hlt, hlong⟩ := hst
    have ih := resume_drain_sim s₁ b₁ cs fun s' b' cs' hc => h _ _ _ (.item hd hc)
    rw [drain_item hd hlt, drain_item hlong (by simpa using hlt), resume_cons_item]
    exact ih.append [i]
  | .error e st =>
    simp only [hd] at hst
    obtain ⟨e', st', he', hE⟩ := hst
    rw [drain_error hd, drain_error he']
    exact ⟨rfl, .failed hE⟩
termination_by (cs.length, b.length)
decreasing_by
  · exact Prod.Lex.left _ _ (Nat.lt_succ_self _)
  · exact Prod.Lex.right _ hlt

/-- Cutting a stream into chunks does not matter to a run all of whose calls are stable. -/
theorem feed_sim {dec : Decoder ε σ β ι} {E : ε → ε → Prop} {s : σ}
    (hnil : dec (s, []) = .ok none (s, [])) {chunks : List (List β)}
    (h : ∀ s' b' cs', FeedCalls dec s [] chunks s' b' cs' → StableAt dec E s' b' cs'.flatten) :
    Sim E (feed dec s [] chunks) (feed dec s [] [chunks.flatten]) := by
  rw [feed_single]
  cases chunks with
  | nil =>
    rw [List.flatten_nil, List.append_nil, drain_none hnil]
    exact ⟨rfl, .waiting⟩
  | cons c cs =>
    rw [feed_cons]
    exact resume_drain_sim s ([] ++ c) cs fun s' b' cs' hc => h s' b' cs' ⟨c, cs, rfl, hc⟩

/-! ## Calls that give up early -/

/-- Two runs that agree in the items and in whether they fail. -/
def SameOutcome (x y : List ι × Ending ε σ β) : Prop :=
  x.1 = y.1 ∧ ((∃ e, x.2 = .failed e) ↔ ∃ e, y.2 = .failed e)

theorem Sim.sameOutcome {E : ε → ε → Prop} {x y : List ι × Ending ε σ β} (h : Sim E x y) :
    SameOutcome x y := by
  obtain ⟨items, ending⟩ := x
  obtain ⟨items', ending'⟩ := y
  obtain ⟨rfl, h⟩ := h
  refine ⟨rfl, ?_⟩
  cases h with
  | waiting => exact Iff.rfl
  | failed _ => exact ⟨fun _ => ⟨_, rfl⟩, fun _ => ⟨_, rfl⟩⟩

theorem sameOutcome_cons (i : ι) (x y : List ι × Ending ε σ β) :
    SameOutcome (i :: x.1, x.2) (i :: y.1, y.2) ↔ SameOutcome x y := by
  rw [SameOutcome, SameOutcome, List.cons.injEq, eq_self, true_and]

/-- A call that fails, though it would not have failed had it seen more. -/
def BreaksAt (dec : Decoder ε σ β ι) (s : σ) (b r : List β) : Prop :=
  (∃ e st, dec (s, b) = .error e st) ∧ ∃ o st, dec (s, b ++ r) = .ok o st

theorem StableAt.not_breaksAt {dec : Decoder ε σ β ι} {E : ε → ε → Prop}
    (h : StableAt dec E s b r) : ¬BreaksAt dec s b r := by
  rintro ⟨⟨e, st, he⟩, o, st', hok⟩
  rw [StableAt, he] at h
  obtain ⟨e', st'', he', -⟩ := h
  cases hok.symm.trans he'

theorem StableAt.mono {dec : Decoder ε σ β ι} {E E' : ε → ε → Prop} (h : StableAt dec E s b r)
    (hE : ∀ e e', E e e' → E' e e') : StableAt dec E' s b r := by
  unfold StableAt at h ⊢
  split at h
  case h_1 => exact h
  case h_2 => exact h
  case h_3 =>
    obtain ⟨e', st, he, h⟩ := h
    exact ⟨e', st, he, hE _ _ h⟩

/-- Every call is stable or gives up early. -/
def StableOrBreaks (dec : Decoder ε σ β ι) : Prop :=
  ∀ s b r, StableAt dec (fun _ _ => True) s b r ∨ BreaksAt dec s b r

/-- A call that shows an observer what the whole stream does not: it fails though it would not have
failed had it seen more, or it returns an item that it would not have returned then. -/
inductive DiffersAt (dec : Decoder ε σ β ι) (s : σ) (b r : List β) : Prop
  | breaks : BreaksAt dec s b r → DiffersAt dec s b r
  | item : dec (s, b) = .ok (some i) st → (∀ st', dec (s, b ++ r) ≠ .ok (some i) st') →
      DiffersAt dec s b r

/-- Every call is stable or shows something else. -/
def StableOrDiffers (dec : Decoder ε σ β ι) : Prop :=
  ∀ s b r, StableAt dec (fun _ _ => True) s b r ∨ DiffersAt dec s b r

theorem DiffersAt.ne_none {dec : Decoder ε σ β ι} (h : DiffersAt dec s b r) :
    dec (s, b) ≠ .ok none st := by
  intro hnone
  cases h with
  | breaks h =>
    obtain ⟨⟨e, st', he⟩, -⟩ := h
    cases he.symm.trans hnone
  | item h _ => cases h.symm.trans hnone

theorem StableOrDiffers.length_lt {dec : Decoder ε σ β ι} (h : StableOrDiffers dec)
    (hok : dec (s, b) = .ok (some i) (s', b')) : b'.length < b.length := by
  cases h s b [] with
  | inl hst =>
    rw [StableAt, hok] at hst
    exact hst.1
  | inr hdiffers =>
    exfalso
    cases hdiffers with
    | breaks h =>
      obtain ⟨⟨e, st', he⟩, -⟩ := h
      cases he.symm.trans hok
    | item hitem hne =>
      rw [List.append_nil] at hne
      exact hne _ hitem

theorem drain_ne_stuck {dec : Decoder ε σ β ι} (h : StableOrDiffers dec) (s : σ) (b : List β) :
    (drain dec s b).2 ≠ .stuck := by
  rcases hd : dec (s, b) with ⟨_ | i, s', b'⟩ | _
  · rw [drain_none hd]
    exact fun h => nomatch h
  · have hlt := h.length_lt hd
    rw [drain_item hd hlt]
    exact drain_ne_stuck h s' b'
  · rw [drain_error hd]
    exact fun h => nomatch h
termination_by b.length

/-- What the first call shows, the whole run shows. -/
theorem DiffersAt.not_sameOutcome {dec : Decoder ε σ β ι} (h : StableOrDiffers dec)
    {cs : List (List β)} (hdiffers : DiffersAt dec s b cs.flatten) :
    ¬SameOutcome (resume dec cs (drain dec s b)) (drain dec s (b ++ cs.flatten)) := by
  intro hsame
  cases hdiffers with
  | breaks hbreaks =>
    obtain ⟨⟨e, st, he⟩, o, ⟨s₁, b₁⟩, hok⟩ := hbreaks
    rw [drain_error he] at hsame
    cases o with
    | none =>
      rw [drain_none hok] at hsame
      obtain ⟨e', he'⟩ := hsame.2.1 ⟨e, rfl⟩
      cases he'
    | some i =>
      rw [drain_item hok (h.length_lt hok)] at hsame
      cases hsame.1
  | @item i st hitem hne =>
    rw [drain_item hitem (h.length_lt hitem), resume_cons_item] at hsame
    rcases hd : dec (s, b ++ cs.flatten) with ⟨_ | i', st'⟩ | ⟨e, st'⟩
    · rw [drain_none hd] at hsame
      cases hsame.1
    · rw [drain_item hd (h.length_lt hd)] at hsame
      injection hsame.1 with hi
      exact hne st' (hi ▸ hd)
    · rw [drain_error hd] at hsame
      cases hsame.1

/-- What one call of a run shows, the whole run shows. -/
theorem not_sameOutcome_of_differsAt {dec : Decoder ε σ β ι} (h : StableOrDiffers dec)
    (hc : Calls dec s b cs s' b' cs') (hdiffers : DiffersAt dec s' b' cs'.flatten) :
    ¬SameOutcome (resume dec cs (drain dec s b)) (drain dec s (b ++ cs.flatten)) := by
  induction hc with
  | here => exact hdiffers.not_sameOutcome h
  | @item s b i s₁ b₁ cs s' b' cs' hd _ ih =>
    cases h s b cs.flatten with
    | inl hst =>
      rw [StableAt, hd] at hst
      rw [drain_item hd hst.1, drain_item hst.2 (by simpa using hst.1), resume_cons_item,
        sameOutcome_cons]
      exact ih hdiffers
    | inr hdiffers' => exact hdiffers'.not_sameOutcome h
  | @more s b s₁ b₁ c cs s' b' cs' hd _ ih =>
    have hst := (h s b (c :: cs).flatten).resolve_right fun hdiffers' => hdiffers'.ne_none hd
    rw [StableAt, hd] at hst
    rw [drain_none hd, drain_congr hst.2 (by simpa using hst.1) (drain_ne_stuck h _ _)]
    have := ih hdiffers
    rw [List.append_assoc, ← feed_cons, ← List.flatten_cons] at this
    exact this

/-- Cutting a stream into chunks does not matter exactly when no call of the run shows something
else than the whole stream. -/
theorem feed_sameOutcome_iff_differs {dec : Decoder ε σ β ι} {s : σ} (h : StableOrDiffers dec)
    (hnil : dec (s, []) = .ok none (s, [])) (chunks : List (List β)) :
    SameOutcome (feed dec s [] chunks) (feed dec s [] [chunks.flatten]) ↔
      ∀ s' b' cs', FeedCalls dec s [] chunks s' b' cs' → ¬DiffersAt dec s' b' cs'.flatten := by
  constructor
  · intro hsame s' b' cs' hcall hdiffers
    obtain ⟨c, cs, rfl, hcall⟩ := hcall
    rw [feed_single, feed_cons] at hsame
    exact not_sameOutcome_of_differsAt h hcall hdiffers hsame
  · intro hcalls
    refine Sim.sameOutcome (E := fun _ _ => True) (feed_sim hnil fun s' b' cs' hcall => ?_)
    exact (h s' b' cs'.flatten).resolve_right (hcalls s' b' cs' hcall)

theorem StableOrBreaks.stableOrDiffers {dec : Decoder ε σ β ι} (h : StableOrBreaks dec) :
    StableOrDiffers dec :=
  fun s b r => (h s b r).imp_right .breaks

theorem StableOrBreaks.differsAt_iff {dec : Decoder ε σ β ι} (h : StableOrBreaks dec) :
    DiffersAt dec s b r ↔ BreaksAt dec s b r := by
  constructor
  · intro hdiffers
    cases hdiffers with
    | breaks h => exact h
    | item hitem hne =>
      refine (h s b r).resolve_left fun hst => ?_
      rw [StableAt, hitem] at hst
      exact hne _ hst.2
  · exact .breaks

/-- Cutting a stream into chunks does not matter exactly when no call of the run gives up early. -/
theorem feed_sameOutcome_iff {dec : Decoder ε σ β ι} {s : σ} (h : StableOrBreaks dec)
    (hnil : dec (s, []) = .ok none (s, [])) (chunks : List (List β)) :
    SameOutcome (feed dec s [] chunks) (feed dec s [] [chunks.flatten]) ↔
      ∀ s' b' cs', FeedCalls dec s [] chunks s' b' cs' → ¬BreaksAt dec s' b' cs'.flatten := by
  rw [feed_sameOutcome_iff_differs h.stableOrDiffers hnil]
  exact forall₃_congr fun s' b' cs' => imp_congr_right fun _ => not_congr h.differsAt_iff

theorem StableAt.not_differsAt {dec : Decoder ε σ β ι} {E : ε → ε → Prop}
    (h : StableAt dec E s b r) : ¬DiffersAt dec s b r := by
  intro hdiffers
  cases hdiffers with
  | breaks hbreaks => exact h.not_breaksAt hbreaks
  | item hitem hne =>
    rw [StableAt, hitem] at h
    exact hne _ h.2

/-! ## Progress -/

/-- Every call, in every state, takes a part of the front of the buffer for an item, and nothing when
it asks for more. -/
structure Progressive (dec : Decoder ε σ β ι) : Prop where
  item : dec (s, b) = .ok (some i) (s', b') → ∃ w, w ≠ [] ∧ b = w ++ b'
  none : dec (s, b) = .ok .none (s', b') → b' = b

theorem Progressive.length_lt {dec : Decoder ε σ β ι} (h : Progressive dec)
    (hd : dec (s, b) = .ok (some i) (s', b')) : b'.length < b.length := by
  obtain ⟨w, hw, rfl⟩ := h.item hd
  have := List.length_pos_iff.2 hw
  rw [List.length_append]
  omega

/-- A call that takes a part of the front of the buffer, asks for more, or fails. -/
inductive ProgressiveAt (dec : Decoder ε σ β ι) (s : σ) (b : List β) : Prop
  | none : dec (s, b) = .ok none (s', b) → ProgressiveAt dec s b
  | item : w ≠ [] → b = w ++ b' → dec (s, b) = .ok (some i) (s', b') → ProgressiveAt dec s b
  | error : dec (s, b) = .error e st → ProgressiveAt dec s b

theorem progressive_of_at {dec : Decoder ε σ β ι} (h : ∀ s b, ProgressiveAt dec s b) :
    Progressive dec where
  item {s b i s' b'} hd := by
    cases h s b with
    | none hd' => cases hd'.symm.trans hd
    | item hw hb hd' =>
      cases hd'.symm.trans hd
      exact ⟨_, hw, hb⟩
    | error hd' => cases hd'.symm.trans hd
  none {s b s' b'} hd := by
    cases h s b with
    | none hd' =>
      cases hd'.symm.trans hd
      rfl
    | item _ _ hd' => cases hd'.symm.trans hd
    | error hd' => cases hd'.symm.trans hd

/-- A call without a state of its own that takes a part of the front of the buffer, asks for more, or
fails. -/
inductive ProgressiveCall (x : EStateM ε (List β) (Option ι)) (b : List β) : Prop
  | none : x b = .ok none b → ProgressiveCall x b
  | item : w ≠ [] → b = w ++ b' → x b = .ok (some i) b' → ProgressiveCall x b
  | error : x b = .error e b' → ProgressiveCall x b

theorem ne_nil_of_drop {b : List β} (hlt : (b.drop n).length < b.length) : b.take n ≠ [] := by
  intro hempty
  have hb := List.take_append_drop n b
  rw [hempty, List.nil_append] at hb
  exact Nat.ne_of_lt hlt (congrArg List.length hb)

/-- A call that splits something off. -/
theorem ProgressiveCall.drop {x : EStateM ε (List β) (Option ι)}
    (hlt : (b.drop n).length < b.length) (h : x b = .ok (some i) (b.drop n)) :
    ProgressiveCall x b :=
  .item (ne_nil_of_drop hlt) (List.take_append_drop n b).symm h

/-- A stable call that leaves the end of the buffer. -/
theorem StableCall.progressiveCall {x : EStateM ε (List β) (Option ι)} {E : ε → ε → Prop}
    (h : StableCall x E b r) (hsuffix : ∀ i b', x b = .ok (some i) b' → b' <:+ b) :
    ProgressiveCall x b := by
  cases h with
  | none h => exact .none h
  | item h hlt _ =>
    obtain ⟨w, hw⟩ := hsuffix _ _ h
    refine .item ?_ hw.symm h
    rintro rfl
    exact Nat.ne_of_lt hlt (congrArg List.length hw)
  | error h _ _ => exact .error h

/-- A decoder that passes a call on progresses as the call does. -/
theorem ProgressiveCall.progressiveAt {κ : Type} {dec : Decoder ε σ β κ} {s : σ}
    {x : EStateM ε (List β) (Option ι)} {f : ι → κ}
    (hok : ∀ o b', x b = .ok o b' → dec (s, b) = .ok (o.map f) (s, b'))
    (herror : ∀ e b', x b = .error e b' → dec (s, b) = .error e (s, b'))
    (h : ProgressiveCall x b) : ProgressiveAt dec s b := by
  cases h with
  | none h => exact .none (hok _ _ h)
  | item hw hb h => exact .item hw hb (hok _ _ h)
  | error h => exact .error (herror _ _ h)

theorem progressive_stateless {f : σ → EStateM ε (List β) (Option ι)}
    (h : ∀ s b, ProgressiveCall (f s) b) : Progressive (stateless f) := by
  refine progressive_of_at fun s b => (h s b).progressiveAt (f := id) ?_ ?_
  · intro o b' hx
    rw [stateless_ok hx, Option.map_id]
    rfl
  · exact fun e b' => stateless_error

/-! ## How runs fail -/

section Failures
variable {dec : Decoder ε σ β ι} {P : ε → Prop} (hP : ∀ s b e st, dec (s, b) = .error e st → P e)
include hP

theorem drain_failed (h : (drain dec s b).2 = .failed e) : P e := by
  rcases hd : dec (s, b) with ⟨_ | i, s', b'⟩ | ⟨e', st⟩
  · rw [drain_none hd] at h
    cases h
  · by_cases hlt : b'.length < b.length
    · rw [drain_item hd hlt] at h
      exact drain_failed h
    · rw [drain, hd] at h
      simp only [hlt, if_false] at h
      cases h
  · rw [drain_error hd] at h
    cases h
    exact hP s b _ st hd
termination_by b.length

theorem feed_failed {chunks : List (List β)} (h : (feed dec s b chunks).2 = .failed e) : P e := by
  induction chunks generalizing s b with
  | nil => cases h
  | cons c cs ih =>
    rw [feed_cons] at h
    cases hending : (drain dec s (b ++ c)).2 with
    | waiting s' b' =>
      rw [resume_of_waiting hending] at h
      exact ih h
    | failed e' =>
      rw [resume_of_failed hending, hending] at h
      cases h
      exact drain_failed hP hending
    | stuck =>
      generalize drain dec s (b ++ c) = x at h hending
      obtain ⟨items, ending⟩ := x
      cases hending
      cases h

end Failures

/-! ## Streams of words -/

/-- The decoder takes nothing off a buffer that holds a part of the word only. -/
structure Awaits (dec : Decoder ε σ β ι) (s : σ) (w : List β) : Prop where
  nonempty : w ≠ []
  incomplete : b ++ r = w → r ≠ [] → dec (s, b) = .ok none (s, b)

/-- The decoder takes the word as a whole. -/
structure Takes (dec : Decoder ε σ β ι) (s : σ) (w : List β) (i : ι) (s' : σ) : Prop
    extends Awaits dec s w where
  taken : ∀ r, dec (s, w ++ r) = .ok (some i) (s', r)

/-- The decoder refuses the word as a whole. -/
structure Refuses (dec : Decoder ε σ β ι) (s : σ) (w : List β) (e : ε) : Prop
    extends Awaits dec s w where
  refused : ∀ r, ∃ st, dec (s, w ++ r) = .error e st

section Words
variable {x : EStateM ε (List β) (Option ι)} {E : ε → ε → Prop} {dec : Decoder ε σ β ι}

/-- A call on a part of a word that is taken as a whole. -/
theorem StableCall.awaited (h : StableCall x E b r) (hw : x (b ++ r) = .ok (some i) [])
    (hr : r ≠ []) : x b = .ok .none b := by
  cases h with
  | none h => exact h
  | item _ _ hlong =>
    have hempty := hlong.symm.trans hw
    injection hempty with _ hempty
    exact absurd (List.append_eq_nil_iff.1 hempty).2 hr
  | error _ hlong _ => cases hlong.symm.trans hw

/-- A call on a word that is taken as a whole, with more behind it. -/
theorem StableCall.taken (h : StableCall x E w r) (hw : x w = .ok (some i) []) :
    x (w ++ r) = .ok (some i) r := by
  cases h with
  | none h => cases h.symm.trans hw
  | item h _ hlong =>
    cases h.symm.trans hw
    exact hlong
  | error h _ _ => cases h.symm.trans hw

theorem StableCall.length_lt (h : StableCall x E b r) (hx : x b = .ok (some i) b') :
    b'.length < b.length := by
  cases h with
  | none h => cases h.symm.trans hx
  | item h hlt _ =>
    cases h.symm.trans hx
    exact hlt
  | error h _ _ => cases h.symm.trans hx

/-- A buffer in front of a word and others holds a part of it, or all of it. -/
theorem part_or_whole {b rest w ws : List β} (h : b ++ rest = w ++ ws) :
    (∃ r, b ++ r = w ∧ r ≠ []) ∨ ∃ b', b = w ++ b' ∧ b' ++ rest = ws := by
  rcases List.append_eq_append_iff.1 h with ⟨r, hw, hrest⟩ | ⟨b', hb, hws⟩
  · by_cases hr : r = []
    · rw [hr, List.append_nil] at hw
      rw [hr, List.nil_append] at hrest
      exact .inr ⟨[], by rw [hw, List.append_nil], hrest⟩
    · exact .inl ⟨r, hw.symm, hr⟩
  · exact .inr ⟨b', hb, hws.symm⟩

/-- The buffer holds less than the first word. -/
def Pending (b : List β) : List (List β) → Prop
  | [] => True
  | w :: _ => ∃ r, b ++ r = w ∧ r ≠ []

end Words

end Segmentation
