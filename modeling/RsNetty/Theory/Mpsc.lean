import Mathlib.Data.List.Basic

/-!
# Channels of many senders

A bounded channel with one receiver and a count of its senders. The receiver learns that the channel
is closed once the last sender is dropped and the queue is empty.
-/

structure Mpsc (α : Type) where
  capacity : Nat
  items : List α := []
  senders : Nat := 1

namespace Mpsc

variable {α : Type} {ch ch' : Mpsc α}

/-- Put something into the queue, if there is a place. -/
def send (a : α) (ch : Mpsc α) : Option (Mpsc α) :=
  if ch.items.length < ch.capacity then some { ch with items := ch.items ++ [a] } else none

/-- What the receiver gets, if it gets something: an item, or the news that nobody can send any. -/
def recv (ch : Mpsc α) : Option (Option α × Mpsc α) :=
  match ch.items with
  | a :: items => some (some a, { ch with items })
  | [] => if ch.senders = 0 then some (none, ch) else none

/-- Clone a sender so many times. -/
def clone (n : Nat) (ch : Mpsc α) : Mpsc α := { ch with senders := ch.senders + n }

/-- Drop so many senders. -/
def drop (n : Nat) (ch : Mpsc α) : Mpsc α := { ch with senders := ch.senders - n }

@[simp] theorem senders_clone (n : Nat) : (ch.clone n).senders = ch.senders + n := rfl

@[simp] theorem senders_drop (n : Nat) : (ch.drop n).senders = ch.senders - n := rfl

theorem senders_send {a : α} (h : ch.send a = some ch') : ch'.senders = ch.senders := by
  unfold send at h
  split at h
  next => cases h; rfl
  next => cases h

theorem senders_recv {a : Option α} (h : ch.recv = some (a, ch')) : ch'.senders = ch.senders := by
  unfold recv at h
  split at h
  next => cases h; rfl
  next =>
    split at h
    next => cases h; rfl
    next => cases h

/-- The receiver waits as long as the queue is empty and somebody could send. -/
theorem recv_eq_none_iff : ch.recv = none ↔ ch.items = [] ∧ ch.senders ≠ 0 := by
  unfold recv
  split
  next hitems => simp [hitems]
  next hitems =>
    split
    next hsenders => simp [hsenders]
    next hsenders => simp [hitems, hsenders]

end Mpsc
