import RsNetty.Theory.State

/-!
# Errors and fallible calls

`Error` is the crate's error type. A call that does not return a value either returned an `Err` or
panicked (`Fault`); `Exec σ α` is a method with one `&mut σ` argument, the state after an early exit
included. `usize` is 64 bits wide.
-/

namespace RsNetty

/-- A growable byte buffer, front first. -/
abbrev BytesMut := List UInt8

/-- A frozen byte string. -/
abbrev Bytes := List UInt8

/-- Error type returned by rs-netty operations. The payload of an I/O, address or join error is
its text. -/
inductive Error where
  | io (err : String)
  | addrParse (err : String)
  | join (err : String)
  | closed
  | channelClosed
  | frameTooLarge (current max : Nat)
  | datagramTooLarge (current max : Nat)
  | decode (err : String)
  | encode (err : String)
  | pipeline (err : String)
  | missingDatagramPeer
deriving DecidableEq, Repr

/-- The `Display` text. -/
def Error.display : Error → String
  | .io err => s!"io error: {err}"
  | .addrParse err => s!"address parse error: {err}"
  | .join err => s!"task join error: {err}"
  | .closed => "connection closed"
  | .channelClosed => "channel closed"
  | .frameTooLarge current max => s!"frame too large: current={current}, max={max}"
  | .datagramTooLarge current max => s!"datagram too large: current={current}, max={max}"
  | .decode err => s!"decode error: {err}"
  | .encode err => s!"encode error: {err}"
  | .pipeline err => s!"pipeline error: {err}"
  | .missingDatagramPeer => "missing default peer for datagram write"

/-- Why a call did not return a value. -/
inductive Fault where
  | err (e : Error)
  | panic
deriving DecidableEq, Repr

/-- A call without mutable arguments. -/
abbrev Result (α : Type) := Except Fault α

/-- A call with one mutable argument. -/
abbrev Exec (σ α : Type) := EStateM Fault σ α

instance {σ : Type} : MonadLift Result (Exec σ) := ⟨EStateM.lifted⟩

/-- `Err(Error::Decode(text))` -/
abbrev Fault.decode (text : String) : Fault := .err (.decode text)

/-- `Err(Error::Encode(text))` -/
abbrev Fault.encode (text : String) : Fault := .err (.encode text)

/-- `usize::MAX` -/
def usizeMax : Nat := 2 ^ 64 - 1

/-- `isize::MAX`, the largest number of bytes one allocation can hold. -/
def isizeMax : Nat := 2 ^ 63 - 1

/-- `usize::checked_add` -/
def checkedAdd (a b : Nat) : Option Nat := if a + b ≤ usizeMax then some (a + b) else none

/-- `usize::checked_add_signed` -/
def checkedAddSigned (a : Nat) (b : Int) : Option Nat :=
  if 0 ≤ a + b ∧ a + b ≤ usizeMax then some (a + b).toNat else none

/-- `usize::saturating_add` -/
def saturatingAdd (a b : Nat) : Nat := min (a + b) usizeMax

/-- `Option::ok_or_else` -/
def okOr {α : Type} (x : Option α) (e : Fault) : Result α :=
  match x with
  | some a => .ok a
  | none => .error e

/-- `if c { return Err(..) }` -/
def failIf (c : Prop) [Decidable c] (e : Fault) : Result Unit := if c then .error e else .ok ()

/-- `usize` addition and multiplication, which panic on overflow. -/
def usizeAdd (a b : Nat) : Result Nat := okOr (checkedAdd a b) .panic

def usizeMul (a b : Nat) : Result Nat := if a * b ≤ usizeMax then .ok (a * b) else .error .panic

/-- `u32` addition and multiplication, which panic on overflow. -/
def u32Add (a b : UInt32) : Result UInt32 :=
  if a.toNat + b.toNat < 2 ^ 32 then .ok (a + b) else .error .panic

def u32Mul (a b : UInt32) : Result UInt32 :=
  if a.toNat * b.toNat < 2 ^ 32 then .ok (a * b) else .error .panic

/-! ## Calls inside a method -/

namespace Exec

variable {σ α β : Type}

theorem call_ok (a : α) (f : α → Exec σ β) : ((liftM (.ok a : Result α) : Exec σ α) >>= f) = f a :=
  rfl

theorem call_error (e : Fault) (f : α → Exec σ β) :
    ((liftM (.error e : Result α) : Exec σ α) >>= f) = throw e :=
  rfl

theorem call_eq_ok {x : Result α} {f : α → Exec σ β} :
    ((liftM x : Exec σ α) >>= f) s = .ok b s' ↔ ∃ a, x = .ok a ∧ f a s = .ok b s' := by
  cases x with
  | ok a =>
    rw [call_ok]
    constructor
    · exact fun h => ⟨a, rfl, h⟩
    · rintro ⟨_, h, hf⟩
      cases h
      exact hf
  | error e =>
    rw [call_error]
    constructor
    · exact fun h => nomatch h
    · rintro ⟨_, h, _⟩
      exact nomatch h

end Exec

/-! ## Arithmetic -/

theorem checkedAdd_of_le {a b : Nat} (h : a + b ≤ usizeMax) : checkedAdd a b = some (a + b) :=
  if_pos h

theorem checkedAdd_eq_some : checkedAdd a b = some c ↔ a + b ≤ usizeMax ∧ a + b = c := by
  simp [checkedAdd]

theorem usizeAdd_of_le {a b : Nat} (h : a + b ≤ usizeMax) : usizeAdd a b = .ok (a + b) := by
  rw [usizeAdd, checkedAdd_of_le h, okOr]

theorem usizeMul_of_le {a b : Nat} (h : a * b ≤ usizeMax) : usizeMul a b = .ok (a * b) :=
  if_pos h

theorem u32Add_of_lt {a b : UInt32} (h : a.toNat + b.toNat < 2 ^ 32) : u32Add a b = .ok (a + b) :=
  if_pos h

theorem u32Mul_of_lt {a b : UInt32} (h : a.toNat * b.toNat < 2 ^ 32) : u32Mul a b = .ok (a * b) :=
  if_pos h

theorem failIf_eq_ok {c : Prop} [Decidable c] {e : Fault} : failIf c e = .ok () ↔ ¬c := by
  unfold failIf
  split <;> simp_all

theorem okOr_eq_ok {x : Option α} {e : Fault} : okOr x e = .ok a ↔ x = some a := by
  cases x <;> simp [okOr]

/-! ## Errors that are returned -/

/-- The call returned an `Err`; it did not panic. -/
def Returned (e : Fault) : Prop := e ≠ .panic

theorem returned_err (e : Error) : Returned (.err e) := fun h => nomatch h

theorem returned_decode (text : String) : Returned (.decode text) := returned_err _

theorem returned_failIf {c : Prop} [Decidable c] {err : Error}
    (h : failIf c (.err err) = .error e) : Returned e := by
  unfold failIf at h
  split at h
  · cases h
    exact returned_err err
  · cases h

end RsNetty
