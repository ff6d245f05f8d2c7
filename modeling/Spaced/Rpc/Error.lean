import Mathlib

/-!
# RPC errors and their classification

The error types of `source.rs` and `BitcoinRpcError::is_temporary`, which decides whether a
failed request is worth repeating.

## Main definitions

* `TransportError` keeps the three facts about a `reqwest::Error` that `is_temporary` reads:
  whether it is a timeout, whether it is a connect failure, and its HTTP status, if any.
* `Outcome ε α` is what a Rust call returning `Result<α, ε>` can end in: a value, an error, or a
  panic (an `unwrap` or `expect` on nothing, or an overflowing `u32` operation).
* `BitcoinRpcError.isTemporary` follows the source arm by arm. `isTemporary_transport_iff` and
  `isTemporary_rpc_iff` restate it as the two lists of §3 of the spec.
-/

namespace Spaced

/-- Equality of `Except` values is decidable, so that the results of the model can be compared
by `decide`. -/
instance instDecidableEqExcept {ε α : Type _} [DecidableEq ε] [DecidableEq α] :
    DecidableEq (Except ε α)
  | .ok a, .ok b => decidable_of_iff (a = b) ⟨congrArg _, Except.ok.inj⟩
  | .error a, .error b => decidable_of_iff (a = b) ⟨congrArg _, Except.error.inj⟩
  | .ok _, .error _ => isFalse nofun
  | .error _, .ok _ => isFalse nofun

/-- `BITCOIN_RPC_IN_WARMUP`: the node is still warming up. -/
def bitcoinRpcInWarmup : Int := -28

/-- `BITCOIN_RPC_CLIENT_NOT_CONNECTED`: the node is not connected. -/
def bitcoinRpcClientNotConnected : Int := -9

/-- `BITCOIN_RPC_CLIENT_IN_INITIAL_DOWNLOAD`: the node is still downloading initial blocks. -/
def bitcoinRpcClientInInitialDownload : Int := -10

/-- `JsonRpcError`: the `error` object of a JSON-RPC reply. -/
structure JsonRpcError where
  code : Int
  message : String
  deriving DecidableEq, Repr

/-- The part of a `reqwest::Error` that `is_temporary` inspects. -/
structure TransportError where
  /-- `e.is_timeout()`. -/
  isTimeout : Bool
  /-- `e.is_connect()`. -/
  isConnect : Bool
  /-- `e.status()`: the HTTP status the error carries, if any. -/
  status : Option Nat
  deriving DecidableEq, Repr

/-- `BitcoinRpcError`. -/
inductive BitcoinRpcError where
  | rpc (e : JsonRpcError)
  | transport (e : TransportError)
  | other (message : String)
  deriving DecidableEq, Repr

/-- `BlockFetchError`, carried by the fetcher's `BlockEvent::Error`. -/
inductive BlockFetchError where
  | rpcError (e : BitcoinRpcError)
  | blockMismatch
  | channelClosed
  deriving DecidableEq, Repr

/-- What a call returning `Result<α, ε>` ends in, a panic included. -/
inductive Outcome (ε α : Type) where
  | ok (a : α)
  | err (e : ε)
  | panic
  deriving DecidableEq, Repr

namespace Outcome

variable {ε α β : Type}

/-- The `?` operator followed by the rest of the function. -/
def bind (x : Outcome ε α) (f : α → Outcome ε β) : Outcome ε β :=
  match x with
  | ok a => f a
  | err e => err e
  | panic => panic

@[simp] theorem ok_bind (a : α) (f : α → Outcome ε β) : (ok a).bind f = f a := rfl

@[simp] theorem err_bind (e : ε) (f : α → Outcome ε β) : (err e : Outcome ε α).bind f = err e :=
  rfl

@[simp] theorem panic_bind (f : α → Outcome ε β) : (panic : Outcome ε α).bind f = panic := rfl

/-- A call whose `Result` is passed on by `?` and which cannot panic. -/
def ofExcept : Except ε α → Outcome ε α
  | .ok a => ok a
  | .error e => err e

@[simp] theorem ofExcept_ok (a : α) : (ofExcept (.ok a) : Outcome ε α) = ok a := rfl

@[simp] theorem ofExcept_error (e : ε) : (ofExcept (.error e) : Outcome ε α) = err e := rfl

/-- A computation ends in a value only through a value of its first step. -/
theorem bind_eq_ok {x : Outcome ε α} {f : α → Outcome ε β} {b : β} :
    x.bind f = ok b ↔ ∃ a, x = ok a ∧ f a = ok b := by
  cases x <;> simp

theorem ofExcept_eq_ok {x : Except ε α} {a : α} : ofExcept x = ok a ↔ x = .ok a := by
  cases x <;> simp

/-- A computation panics only in its first step, or in what follows a value of it. -/
theorem bind_eq_panic {x : Outcome ε α} {f : α → Outcome ε β} :
    x.bind f = panic ↔ x = panic ∨ ∃ a, x = ok a ∧ f a = panic := by
  cases x <;> simp

@[simp] theorem ofExcept_ne_panic (x : Except ε α) : ofExcept x ≠ panic := by
  cases x <;> simp

end Outcome

section ExceptBind

variable {ε α β : Type}

@[simp] theorem except_ok_bind (a : α) (f : α → Except ε β) : (Except.ok a >>= f) = f a := rfl

@[simp] theorem except_error_bind (e : ε) (f : α → Except ε β) :
    (Except.error e >>= f) = Except.error e := rfl

@[simp] theorem except_map_ok (f : α → β) (a : α) :
    (f <$> Except.ok a : Except ε β) = .ok (f a) := rfl

/-- A computation of `Except` ends in a value only through a value of its first step. -/
theorem except_bind_eq_ok {x : Except ε α} {f : α → Except ε β} {b : β} :
    x >>= f = .ok b ↔ ∃ a, x = .ok a ∧ f a = .ok b := by
  cases x <;> simp

theorem except_pure_eq_ok {a b : α} : (pure a : Except ε α) = .ok b ↔ a = b :=
  ⟨Except.ok.inj, congrArg _⟩

end ExceptBind

/-- The HTTP statuses `is_temporary` retries: 408, 429, 500, 502, 503 and 504. -/
def temporaryStatus (status : Nat) : Bool :=
  match status with
  | 408 | 429 | 500 | 502 | 503 | 504 => true
  | _ => false

theorem temporaryStatus_iff (s : Nat) :
    temporaryStatus s = true ↔ s ∈ [408, 429, 500, 502, 503, 504] := by
  unfold temporaryStatus
  split <;> simp_all

namespace BitcoinRpcError

/-- `BitcoinRpcError::is_temporary`. -/
def isTemporary : BitcoinRpcError → Bool
  | transport e =>
    if e.isTimeout || e.isConnect then true
    else
      match e.status with
      | some status => temporaryStatus status
      | none => false
  | rpc e =>
    e.code == bitcoinRpcInWarmup || e.code == bitcoinRpcClientInInitialDownload ||
      e.code == bitcoinRpcClientNotConnected
  | other _ => false

/-- A transport error is temporary iff it is a timeout or a connect failure, or carries one of
the six retried statuses. -/
theorem isTemporary_transport_iff (e : TransportError) :
    (transport e).isTemporary = true ↔
      e.isTimeout = true ∨ e.isConnect = true ∨
        ∃ s, e.status = some s ∧ s ∈ [408, 429, 500, 502, 503, 504] := by
  rcases e with ⟨_ | _, _ | _, _ | s⟩ <;> simp [isTemporary, temporaryStatus_iff]

/-- An RPC error is temporary iff its code is `-28`, `-10` or `-9`. -/
theorem isTemporary_rpc_iff (e : JsonRpcError) :
    (rpc e).isTemporary = true ↔ e.code = -28 ∨ e.code = -10 ∨ e.code = -9 := by
  simp [isTemporary, bitcoinRpcInWarmup, bitcoinRpcClientInInitialDownload,
    bitcoinRpcClientNotConnected, or_assoc]

end BitcoinRpcError

end Spaced
