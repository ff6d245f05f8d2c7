import Spaced.Rpc.Error

/-!
# Sending a request with retries

`BitcoinRpc::send`, `send_json` and `send_json_blocking` repeat a request up to five times.
They share one loop, `retryLoop`, which differs between them only in what it returns on the
first HTTP response: `send` returns the response, `send_json_blocking` decodes it at once with
`error_for_rpc`. The replies of the node are a function from the attempt number to what that
attempt ends in, so every theorem here is over every reply sequence.

## Main results

* `sendJsonBlocking_spec`: the loop returns at the first attempt that is an HTTP response or a
  non-temporary transport failure, or at the fifth, and repeats every earlier one; so at most
  five requests are sent, and a first reply that is a response is decoded at once
  (`sendJsonBlocking_first_response`).
* `sendJson_eq_sendJsonBlocking`: the async path computes the same result with the same
  number of requests.
* `sendJsonBlocking_warmup`: a JSON-RPC error with the warm-up code `-28`, which
  `is_temporary` classifies as temporary, is returned after one attempt by both paths; the loop
  only ever classifies transport failures, since the JSON-RPC error is decoded after it has
  returned.

The exponential back-off (`delay`) is not modelled: time plays no part in any result.
-/

namespace Spaced

/-- What `res.json::<JsonRpcResponse<T>>()` reads from a response body: a decode failure,
which `?` turns into a transport error (a body without the required `id` member is one), or
the envelope's `result`, `error` and `id` fields. -/
inductive Body (α : Type) where
  | undecodable (e : TransportError)
  | envelope (result : Option α) (error : Option JsonRpcError) (id : String)
  deriving DecidableEq, Repr

/-- What one call of `send_request_blocking` (or `send_request`) ends in: an HTTP response,
whatever its status, or a transport failure. -/
inductive Attempt (α : Type) where
  | response (body : Body α)
  | failure (e : TransportError)
  deriving DecidableEq, Repr

variable {α β : Type}

/-- `error_for_rpc` (both the blocking and the async version): decode the body, surface its
JSON-RPC error, and otherwise unwrap its result. -/
def errorForRpc : Body α → Outcome BitcoinRpcError α
  | .undecodable e => .err (.transport e)
  | .envelope result error _ =>
    match error with
    | some e => .err (.rpc e)
    | none =>
      match result with
      | some r => .ok r
      | none => .panic

/-- `max_retries`. -/
def maxRetries : Nat := 5

/-- The loop `for attempt in 0..max_retries` of `send` and `send_json_blocking`, entered at
`attempt` with `left` iterations to go. `onResponse` is what the loop returns on a response.
The second component counts the requests sent. When the loop runs out, `last_error.expect`
panics if no error was recorded. -/
def retryLoop (onResponse : Body α → Outcome BitcoinRpcError β) (replies : Nat → Attempt α) :
    (attempt left : Nat) → Option BitcoinRpcError → Outcome BitcoinRpcError β × Nat
  | attempt, 0, lastError =>
    (match lastError with
      | some e => .err e
      | none => .panic, attempt)
  | attempt, left + 1, _ =>
    match replies attempt with
    | .response body => (onResponse body, attempt + 1)
    | .failure e =>
      if (BitcoinRpcError.transport e).isTemporary && decide (attempt < maxRetries - 1) then
        retryLoop onResponse replies (attempt + 1) left (some (.transport e))
      else (.err (.transport e), attempt + 1)

/-- `send_json_blocking`: the result and the number of requests sent. -/
def sendJsonBlocking (replies : Nat → Attempt α) : Outcome BitcoinRpcError α × Nat :=
  retryLoop errorForRpc replies 0 maxRetries none

/-- `send` (async): the first response, unread. -/
def send (replies : Nat → Attempt α) : Outcome BitcoinRpcError (Body α) × Nat :=
  retryLoop .ok replies 0 maxRetries none

/-- `send_json`: `send` followed by `error_for_rpc`. -/
def sendJson (replies : Nat → Attempt α) : Outcome BitcoinRpcError α × Nat :=
  ((send replies).1.bind errorForRpc, (send replies).2)

/-- A transport failure that the loop may repeat. -/
def Attempt.IsTemporaryFailure : Attempt α → Prop
  | .failure e => (BitcoinRpcError.transport e).isTemporary = true
  | .response _ => False

/-- The outcome the loop returns when it stops at an attempt. -/
def Attempt.stop (onResponse : Body α → Outcome BitcoinRpcError β) :
    Attempt α → Outcome BitcoinRpcError β
  | .response body => onResponse body
  | .failure e => .err (.transport e)

/-- Entered at `attempt < maxRetries` with exactly the remaining iterations, the loop stops at
some attempt `n`: every attempt before it was a temporary failure, the one at `n` is not, or
`n` is the last. It returns what attempt `n` ended in, after `n + 1` requests. -/
theorem retryLoop_spec (onResponse : Body α → Outcome BitcoinRpcError β)
    (replies : Nat → Attempt α) (attempt left : Nat) (lastError : Option BitcoinRpcError)
    (hleft : attempt + left = maxRetries) (hpos : 0 < left) :
    ∃ n, attempt ≤ n ∧ n < maxRetries ∧
      (∀ i, attempt ≤ i → i < n → (replies i).IsTemporaryFailure) ∧
      (n < maxRetries - 1 → ¬ (replies n).IsTemporaryFailure) ∧
      retryLoop onResponse replies attempt left lastError = ((replies n).stop onResponse, n + 1) := by
  induction left generalizing attempt lastError with
  | zero => omega
  | succ left ih =>
    simp only [retryLoop]
    cases hr : replies attempt with
    | response body =>
      exact ⟨attempt, le_rfl, by omega, fun i h1 h2 => by omega,
        fun _ => by simp [hr, Attempt.IsTemporaryFailure], by simp [hr, Attempt.stop]⟩
    | failure e =>
      by_cases hretry : (BitcoinRpcError.transport e).isTemporary = true ∧ attempt < maxRetries - 1
      · obtain ⟨n, h1, h2, hbefore, hstop, heq⟩ :=
          ih (attempt + 1) (some (.transport e)) (by omega) (by simp [maxRetries] at *; omega)
        refine ⟨n, by omega, h2, fun i hi1 hi2 => ?_, hstop, by simpa [hretry] using heq⟩
        rcases Nat.eq_or_lt_of_le hi1 with rfl | hlt
        · simpa [hr, Attempt.IsTemporaryFailure] using hretry.1
        · exact hbefore i hlt hi2
      · refine ⟨attempt, le_rfl, by omega, fun i h1 h2 => by omega, fun hn => ?_, ?_⟩
        · simpa [hr, Attempt.IsTemporaryFailure, hn] using hretry
        · have : ¬ ((BitcoinRpcError.transport e).isTemporary = true ∧
              attempt < maxRetries - 1) := hretry
          simp only [Bool.and_eq_true, decide_eq_true_eq] at *
          simp [this, hr, Attempt.stop]

/-- `send_json_blocking` stops at the first attempt that is a response or a non-temporary
transport failure, or at the fifth, after repeating every temporary transport failure before
it. -/
theorem sendJsonBlocking_spec (replies : Nat → Attempt α) :
    ∃ n < maxRetries,
      (∀ i < n, (replies i).IsTemporaryFailure) ∧
      (n < maxRetries - 1 → ¬ (replies n).IsTemporaryFailure) ∧
      sendJsonBlocking replies = ((replies n).stop errorForRpc, n + 1) := by
  obtain ⟨n, -, h1, h2, h3, h4⟩ :=
    retryLoop_spec errorForRpc replies 0 maxRetries none (by simp) (by simp [maxRetries])
  exact ⟨n, h1, fun i hi => h2 i (Nat.zero_le _) hi, h3, h4⟩

/-- A first reply that is an HTTP response is decoded at once: one request, whatever the
response says. -/
theorem sendJsonBlocking_first_response {replies : Nat → Attempt α} {body : Body α}
    (h : replies 0 = .response body) : sendJsonBlocking replies = (errorForRpc body, 1) := by
  obtain ⟨n, -, hbefore, -, heq⟩ := sendJsonBlocking_spec replies
  obtain rfl : n = 0 := Nat.eq_zero_of_not_pos fun hn => by
    simpa [h, Attempt.IsTemporaryFailure] using hbefore 0 hn
  simpa [h, Attempt.stop] using heq

theorem retryLoop_ok_bind (g : Body α → Outcome BitcoinRpcError β) (replies : Nat → Attempt α)
    (attempt left : Nat) (lastError : Option BitcoinRpcError) :
    ((retryLoop .ok replies attempt left lastError).1.bind g,
      (retryLoop .ok replies attempt left lastError).2) =
      retryLoop g replies attempt left lastError := by
  induction left generalizing attempt lastError with
  | zero => cases lastError <;> rfl
  | succ left ih =>
    simp only [retryLoop]
    split
    · rfl
    · split
      · exact ih _ _
      · rfl

/-- `send_json` and `send_json_blocking` agree on every reply sequence. -/
theorem sendJson_eq_sendJsonBlocking (replies : Nat → Attempt α) :
    sendJson replies = sendJsonBlocking replies :=
  retryLoop_ok_bind errorForRpc replies 0 maxRetries none

/-- The warm-up error of the spec's scenario 3. -/
def warmupError : JsonRpcError := ⟨bitcoinRpcInWarmup, "Loading block index..."⟩

/-- A node that answers the first request, `"0"`, with the warm-up error and every later one
with `value`. -/
def warmupReplies (value : α) (i : Nat) : Attempt α :=
  if i = 0 then .response (.envelope none (some warmupError) "0")
  else .response (.envelope (some value) none (toString i))

/-- On the warm-up replies, `send_json_blocking` and `send_json` send one request and return
the warm-up error, which `is_temporary` calls temporary, while the second attempt would have
succeeded. -/
theorem sendJsonBlocking_warmup :
    sendJsonBlocking (warmupReplies (100 : Nat)) = (.err (.rpc warmupError), 1) ∧
      sendJson (warmupReplies (100 : Nat)) = (.err (.rpc warmupError), 1) ∧
      (BitcoinRpcError.rpc warmupError).isTemporary = true ∧
      (warmupReplies (100 : Nat) 1).stop errorForRpc = .ok 100 := by
  have h : sendJsonBlocking (warmupReplies (100 : Nat)) = (.err (.rpc warmupError), 1) :=
    sendJsonBlocking_first_response (show warmupReplies (100 : Nat) 0 =
      .response (.envelope none (some warmupError) "0") from rfl)
  exact ⟨h, (sendJson_eq_sendJsonBlocking _).trans h, by decide, rfl⟩

end Spaced
