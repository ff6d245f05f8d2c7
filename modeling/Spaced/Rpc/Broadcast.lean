import Spaced.Rpc.Send

/-!
# Broadcasting a transaction: `BitcoinRpc::broadcast_tx`

`broadcast_tx` sends `sendrawtransaction` with `send_json_blocking`, then polls
`getmempoolentry` up to ten times until an entry with a numeric `time` comes back:

```
while retry_count < MAX_RETRIES {
    let res = self.send_json_blocking(client, &self.make_request("getmempoolentry", params));
    match res {
        Ok(mem) => if let Some(time) = mem.get("time").and_then(|t| t.as_u64()) {
            return Ok(ConfirmationTime::Unconfirmed { last_seen: time });
        }
        Err(e) => last_error = Some(e),
    }
    std::thread::sleep(Duration::from_millis(100));
    retry_count += 1;
}
Err(last_error.expect("an error"))
```

Each call of `send_json_blocking` gets its own reply sequence, so every theorem here is over
every reply of the node to every request. The sleep is not modelled.

## Main results

* `errorForRpc_panic_iff`: `error_for_rpc` panics exactly on an envelope with neither a result
  nor an error.
* `broadcastTx_panic`: once the transaction is accepted, `broadcast_tx` panics whenever its ten
  polls succeed without a `time`.
* `rpc_layer_panics`: `send_json_blocking`, `send_json` and `broadcast_tx` panic on replies a
  node can send.
-/

namespace Spaced

/-- `bdk::ConfirmationTime`. -/
inductive ConfirmationTime where
  | confirmed (height time : Nat)
  | unconfirmed (lastSeen : Nat)
  deriving DecidableEq, Repr

/-- A `getmempoolentry` result as `broadcast_tx` reads it:
`mem.get("time").and_then(|t| t.as_u64())`. -/
structure MempoolEntry where
  time : Option Nat
  deriving DecidableEq, Repr

/-- `MAX_RETRIES` of `broadcast_tx`. -/
def broadcastTx.maxRetries : Nat := 10

/-- The polling loop of `broadcast_tx` at poll `k`, with `left` polls to go. `poll k` is what
the `k`-th `send_json_blocking(getmempoolentry)` ends in. -/
def pollLoop (poll : Nat → Outcome BitcoinRpcError MempoolEntry) :
    (k left : Nat) → Option BitcoinRpcError → Outcome BitcoinRpcError ConfirmationTime
  | _, 0, lastError =>
    match lastError with
    | some e => .err e
    | none => .panic
  | k, left + 1, lastError =>
    match poll k with
    | .ok mem =>
      match mem.time with
      | some time => .ok (.unconfirmed time)
      | none => pollLoop poll (k + 1) left lastError
    | .err e => pollLoop poll (k + 1) left (some e)
    | .panic => .panic

/-- `broadcast_tx`. `send` answers the `sendrawtransaction` request and `polls k` the `k`-th
`getmempoolentry` request. -/
def broadcastTx (send : Nat → Attempt String) (polls : Nat → Nat → Attempt MempoolEntry) :
    Outcome BitcoinRpcError ConfirmationTime :=
  (sendJsonBlocking send).1.bind fun _ =>
    pollLoop (fun k => (sendJsonBlocking (polls k)).1) 0 broadcastTx.maxRetries none

variable {α : Type}

theorem errorForRpc_panic_iff (body : Body α) :
    errorForRpc body = .panic ↔ ∃ id, body = .envelope none none id := by
  rcases body with e | ⟨_ | r, _ | e, id⟩ <;> simp [errorForRpc]

/-- When every poll returns an entry without a `time`, the loop runs out and ends in
`last_error.expect`: with no earlier error, a panic. -/
theorem pollLoop_no_time (poll : Nat → Outcome BitcoinRpcError MempoolEntry) (k left : Nat)
    (lastError : Option BitcoinRpcError)
    (h : ∀ i, k ≤ i → i < k + left → ∃ mem, poll i = .ok mem ∧ mem.time = none) :
    pollLoop poll k left lastError =
      match lastError with
      | some e => .err e
      | none => .panic := by
  induction left generalizing k with
  | zero => rfl
  | succ left ih =>
    obtain ⟨mem, hp, ht⟩ := h k le_rfl (by omega)
    simp only [pollLoop, hp, ht]
    exact ih (k + 1) fun i h₁ h₂ => h i (by omega) (by omega)

/-- Once the transaction is accepted, `broadcast_tx` panics whenever none of its ten polls
fails and none returns a `time`. -/
theorem broadcastTx_panic (send : Nat → Attempt String) (polls : Nat → Nat → Attempt MempoolEntry)
    {txid : String} (hsend : (sendJsonBlocking send).1 = .ok txid)
    (hpolls : ∀ k < broadcastTx.maxRetries, ∃ mem, (sendJsonBlocking (polls k)).1 = .ok mem ∧
      mem.time = none) :
    broadcastTx send polls = .panic := by
  rw [broadcastTx, hsend, Outcome.ok_bind]
  exact pollLoop_no_time _ 0 broadcastTx.maxRetries none fun i _ hi => hpolls i (by omega)

/-- A node that answers every request with neither a result nor an error, under the id of
the request. -/
def nullReplies (i : Nat) : Attempt α := .response (.envelope none none (toString i))

/-- `send_json_blocking` and `send_json` panic on an envelope with a null result and a null
error, and `broadcast_tx` panics when its ten polls return entries without a `time`, although
the transaction was accepted and no request failed. -/
theorem rpc_layer_panics :
    (sendJsonBlocking (nullReplies : Nat → Attempt String)).1 = .panic ∧
    (sendJson (nullReplies : Nat → Attempt String)).1 = .panic ∧
    broadcastTx (fun i => .response (.envelope (some "f00d") none (toString i)))
      (fun k i => .response (.envelope (some ⟨none⟩) none (toString (k + i)))) = .panic := by
  have hnull : (sendJsonBlocking (nullReplies : Nat → Attempt String)).1 = .panic := by
    rw [sendJsonBlocking_first_response
      (show (nullReplies : Nat → Attempt String) 0 = .response (.envelope none none "0") from rfl)]
    exact (errorForRpc_panic_iff (.envelope none none "0")).2 ⟨_, rfl⟩
  have hsend : (sendJsonBlocking fun i => .response (.envelope (some "f00d") none (toString i))).1 =
      .ok "f00d" := by
    rw [sendJsonBlocking_first_response
      (show (fun i : Nat => Attempt.response (.envelope (some "f00d") none (toString i))) 0 =
        .response (.envelope (some "f00d") none "0") from rfl)]
    rfl
  refine ⟨hnull, by rwa [sendJson_eq_sendJsonBlocking], broadcastTx_panic _ _ hsend fun k _ => ?_⟩
  refine ⟨⟨none⟩, ?_, rfl⟩
  rw [sendJsonBlocking_first_response
    (show (fun i : Nat => Attempt.response (.envelope (some (⟨none⟩ : MempoolEntry)) none
      (toString (k + i)))) 0 = .response (.envelope (some ⟨none⟩) none (toString k)) from rfl)]
  rfl

end Spaced
