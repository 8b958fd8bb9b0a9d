import Mathlib.Data.List.Induction
import RsNetty.Theory.State

/-!
# Two-way codecs

A decoder and an encoder that share a state may be called in any order and on any buffers. `run`
makes a list of calls and keeps a transcript of what the encoder accepted; `run_invariant` is the
induction principle for it.
-/

namespace Session
open EStateM

/-- A decoder and an encoder with a common state `C`; each call works on a buffer of its own. -/
structure Codec (ε β C I O : Type) where
  decode : EStateM ε (C × List β) (Option I)
  encode : O → EStateM ε (C × List β) Unit

/-- One call, with the buffer it is made on. -/
inductive Call (β O : Type) where
  | decode (src : List β)
  | encode (item : O) (dst : List β)

/-- The items that were accepted for output, each with what was put behind its buffer. -/
abbrev Transcript (β O : Type) := List (O × List β)

namespace Transcript
variable {β O : Type}

def items (t : Transcript β O) : List O := t.map (·.1)

def written (t : Transcript β O) : List β := t.flatMap (·.2)

theorem items_concat (t : Transcript β O) (item : O) (w : List β) :
    items (t ++ [(item, w)]) = t.items ++ [item] :=
  List.map_append

theorem written_concat (t : Transcript β O) (item : O) (w : List β) :
    written (t ++ [(item, w)]) = t.written ++ w := by
  simp [written]

end Transcript

variable {ε β C I O : Type} (e : Codec ε β C I O)

def call (s : C × Transcript β O) : Call β O → C × Transcript β O
  | .decode src => ((e.decode (s.1, src)).final.1, s.2)
  | .encode item dst =>
    match e.encode item (s.1, dst) with
    | .ok _ (c, dst') => (c, s.2 ++ [(item, dst'.drop dst.length)])
    | .error _ (c, _) => (c, s.2)

def run (c : C) (calls : List (Call β O)) : C × Transcript β O := calls.foldl (call e) (c, [])

@[simp] theorem run_nil (c : C) : run e c [] = (c, []) := rfl

theorem run_concat (c : C) (calls : List (Call β O)) (next : Call β O) :
    run e c (calls ++ [next]) = call e (run e c calls) next := by
  rw [run, List.foldl_append]
  rfl

variable {e} {s : C × Transcript β O} {item : O} {dst : List β}

theorem call_encode_ok (h : e.encode item (s.1, dst) = .ok () (c, dst')) :
    call e s (.encode item dst) = (c, s.2 ++ [(item, dst'.drop dst.length)]) := by
  rw [call, h]

theorem call_encode_error (h : e.encode item (s.1, dst) = .error x (c, dst')) :
    call e s (.encode item dst) = (c, s.2) := by
  rw [call, h]

/-- What holds at the start and is kept by each call holds after all calls. -/
theorem run_invariant {P : C × Transcript β O → Prop} (c : C) (hstart : P (c, []))
    (hcall : ∀ s next, P s → P (call e s next)) (calls : List (Call β O)) :
    P (run e c calls) := by
  induction calls using List.reverseRecOn with
  | nil => exact hstart
  | append_singleton calls next ih =>
    rw [run_concat]
    exact hcall _ next ih

end Session
