import Mathlib.Data.Option.Basic

/-!
# Watch channels

A watch channel keeps the last value sent and counts the values. A receiver remembers the count that
it has seen: it is told of a change if the count is another one, and of the end of the channel once
no sender is left. How many senders and receivers there are is known to those who hold them, and a
parameter here.

Who looks at the value and then waits for a change can miss no value: a value that comes in between
is not the one that it has seen.
-/

structure Watch (α : Type) where
  value : α
  version : Nat := 0

/-- A receiver, by the version that it has seen. -/
structure Watch.Receiver where
  seen : Nat
deriving DecidableEq

namespace Watch

variable {α : Type} {w : Watch α} {rx : Receiver} {senders receivers : Nat} {p : α → Prop}

/-- A value that nobody could receive is not stored. -/
def send (receivers : Nat) (a : α) (w : Watch α) : Watch α :=
  if receivers = 0 then w else { value := a, version := w.version + 1 }

/-- A new receiver has seen the current value. -/
def subscribe (w : Watch α) : Receiver := ⟨w.version⟩

/-- What `changed` returns, if it is ready, with the receiver after it. -/
def changed (senders : Nat) (rx : Receiver) (w : Watch α) : Option (Except Unit Unit × Receiver) :=
  if rx.seen ≠ w.version then some (.ok (), ⟨w.version⟩)
  else if senders = 0 then some (.error (), rx)
  else none

theorem isSome_changed : (w.changed senders rx).isSome ↔ rx.seen ≠ w.version ∨ senders = 0 := by
  unfold changed
  split
  next h => exact ⟨fun _ => .inl h, fun _ => rfl⟩
  next h =>
    split
    next hsenders => exact ⟨fun _ => .inr hsenders, fun _ => rfl⟩
    next hsenders => exact ⟨fun hnone => (nomatch hnone), fun hor => (hor.elim h hsenders).elim⟩

/-- As long as there is a sender, only a value makes `changed` return. -/
theorem changed_of_senders (h : senders ≠ 0) {result : Except Unit Unit} {rx' : Receiver}
    (hchanged : w.changed senders rx = some (result, rx')) :
    rx.seen ≠ w.version ∧ result = .ok () ∧ rx' = ⟨w.version⟩ := by
  unfold changed at hchanged
  split at hchanged
  next hseen =>
    cases hchanged
    exact ⟨hseen, rfl, rfl⟩
  next => cases hchanged

theorem version_send_le : w.version ≤ (w.send receivers a).version := by
  unfold send
  split
  · exact Nat.le_refl _
  · exact Nat.le_succ _

/-- The receiver has not seen more than there is. -/
def Behind (w : Watch α) (rx : Receiver) : Prop := rx.seen ≤ w.version

theorem behind_subscribe (w : Watch α) : w.Behind w.subscribe := Nat.le_refl _

theorem Behind.send (h : w.Behind rx) (receivers : Nat) (a : α) : (w.send receivers a).Behind rx :=
  Nat.le_trans h version_send_le

theorem behind_of_changed (h : w.Behind rx) {result : Except Unit Unit} {rx' : Receiver}
    (hchanged : w.changed senders rx = some (result, rx')) : w.Behind rx' := by
  unfold changed at hchanged
  split at hchanged
  next => cases hchanged; exact Nat.le_refl _
  next =>
    split at hchanged
    next => cases hchanged; exact h
    next => cases hchanged

/-- If the value is one the receiver must not miss, it is one that the receiver has not seen. -/
def Alert (p : α → Prop) (w : Watch α) (rx : Receiver) : Prop := p w.value → rx.seen ≠ w.version

/-- Who has looked at the value is on the alert. -/
theorem alert_of_not (h : ¬p w.value) (rx : Receiver) : w.Alert p rx := fun hp => (h hp).elim

/-- Who is on the alert stays on the alert, whatever is sent. -/
theorem Alert.send (h : w.Alert p rx) (hbehind : w.Behind rx) (receivers : Nat) (a : α) :
    (w.send receivers a).Alert p rx := by
  unfold Watch.send
  split
  · exact h
  · exact fun _ => Nat.ne_of_lt (Nat.lt_succ_of_le hbehind)

/-- Who is on the alert cannot wait for a value that has come. -/
theorem Alert.isSome_changed (h : w.Alert p rx) (hp : p w.value) (senders : Nat) :
    (w.changed senders rx).isSome :=
  Watch.isSome_changed.2 (.inl (h hp))

end Watch
