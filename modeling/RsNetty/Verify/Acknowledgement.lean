import RsNetty.Context

/-!
# What an acknowledgement promises

An `Ok` covers the messages that had been accepted for output when it was asked for. `Asked` is the
account of the flushes that still wait among the commands of an outbox.
-/

namespace RsNetty

/-- Each `Ok` was asked for, and what had been accepted by then is covered. -/
def Acks.Sound (acks : Acks) (asked : List (Sender × Nat)) (covered : Nat → Prop) : Prop :=
  ∀ done, (done, .ok ()) ∈ acks → ∃ n, (done, n) ∈ asked ∧ covered n

namespace Acks.Sound
variable {acks : Acks} {asked asked' : List (Sender × Nat)} {covered covered' : Nat → Prop}

theorem mono (h : acks.Sound asked covered) (hasked : asked ⊆ asked')
    (hcovered : ∀ n, covered n → covered' n) : acks.Sound asked' covered' := by
  intro done hdone
  obtain ⟨n, hn, hcov⟩ := h done hdone
  exact ⟨n, hasked hn, hcovered n hcov⟩

theorem nil : Acks.Sound [] asked covered := fun _ h => (List.not_mem_nil h).elim

/-- One more acknowledgement. -/
theorem concat (h : acks.Sound asked covered) {done : Sender} {ack : Except Error Unit}
    (hack : ack = .ok () → ∃ n, (done, n) ∈ asked ∧ covered n) :
    Acks.Sound (acks ++ [(done, ack)]) asked covered := by
  intro done' hdone
  rcases List.mem_append.1 hdone with hdone | hdone
  · exact h done' hdone
  · cases List.mem_singleton.1 hdone
    exact hack rfl

end Acks.Sound

variable {M : Type}

/-- The messages that the commands write. -/
def messages (commands : List (OutboxCommand M)) : List M := commands.filterMap (·.msg?)

@[simp] theorem messages_nil : messages ([] : List (OutboxCommand M)) = [] := rfl

@[simp] theorem messages_write (msg : M) (commands : List (OutboxCommand M)) :
    messages (.write msg :: commands) = msg :: messages commands :=
  rfl

@[simp] theorem messages_flush (done : Sender) (commands : List (OutboxCommand M)) :
    messages (.flush done :: commands) = messages commands :=
  rfl

@[simp] theorem messages_append (commands commands' : List (OutboxCommand M)) :
    messages (commands ++ commands') = messages commands ++ messages commands' :=
  List.filterMap_append

/-- The sender of a flush. -/
def OutboxCommand.done? : OutboxCommand M → Option Sender
  | .write _ => none
  | .flush done => some done

/-- The senders of the flushes among the commands. -/
def flushes (commands : List (OutboxCommand M)) : List Sender := commands.filterMap (·.done?)

@[simp] theorem flushes_nil : flushes ([] : List (OutboxCommand M)) = [] := rfl

@[simp] theorem flushes_write (msg : M) (commands : List (OutboxCommand M)) :
    flushes (.write msg :: commands) = flushes commands :=
  rfl

@[simp] theorem flushes_flush (done : Sender) (commands : List (OutboxCommand M)) :
    flushes (.flush done :: commands) = done :: flushes commands :=
  rfl

@[simp] theorem flushes_append (commands commands' : List (OutboxCommand M)) :
    flushes (commands ++ commands') = flushes commands ++ flushes commands' :=
  List.filterMap_append

/-- The flushes among the commands were asked for when all but the messages behind them had been
accepted. -/
def Asked (asked : List (Sender × Nat)) (accepted : Nat) : List (OutboxCommand M) → Prop
  | [] => True
  | .write _ :: commands => Asked asked accepted commands
  | .flush done :: commands =>
    (∃ n, (done, n) ∈ asked ∧ n + (messages commands).length = accepted) ∧
      Asked asked accepted commands

namespace Asked
variable {asked : List (Sender × Nat)} {accepted : Nat} {commands : List (OutboxCommand M)}

theorem pushWrite (h : Asked asked accepted commands) (msg : M) :
    Asked asked (accepted + 1) (commands ++ [.write msg]) := by
  induction commands with
  | nil => exact trivial
  | cons command commands ih =>
    cases command with
    | write _ => exact ih h
    | flush done =>
      obtain ⟨⟨n, hn, hlength⟩, h⟩ := h
      refine ⟨⟨n, hn, ?_⟩, ih h⟩
      simp [← hlength, Nat.add_assoc]

theorem pushFlush (h : Asked asked accepted commands) (done : Sender) :
    Asked (asked ++ [(done, accepted)]) accepted (commands ++ [.flush done]) := by
  induction commands with
  | nil => exact ⟨⟨accepted, List.mem_append_right _ List.mem_cons_self, rfl⟩, trivial⟩
  | cons command commands ih =>
    cases command with
    | write _ => exact ih h
    | flush done' =>
      obtain ⟨⟨n, hn, hlength⟩, h⟩ := h
      refine ⟨⟨n, List.mem_append_left _ hn, ?_⟩, ih h⟩
      simp [← hlength]

end Asked

end RsNetty
