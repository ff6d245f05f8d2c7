import Spaced.Rpc.Error

/-!
# Broadcasting a batch: `RpcWallet::batch_tx` and `handle_fee_bump`

`batch_tx` validates the request's intents, picks a fee rate, builds a transaction iterator,
and then broadcasts what the iterator yields, one transaction at a time:

```
while let Some(tx_result) = tx_iter.next() {
    let tagged = tx_result?;
    ... result_set.push(..); raw_set.push(..);
    match source.rpc.broadcast_tx(&source.client, &tagged.tx) {
        Ok(confirmation) => { tx_iter.wallet.insert_tx(tagged.tx, confirmation)?;
                              tx_iter.wallet.commit()?; }
        Err(e) => { has_errors = true; /* attach error_data */ break; }
    }
}
```

The loop is modelled statement by statement (`batchLoop`). Everything before it, from the fee
rate to `build_iter`, is one outcome: it ends before any broadcast. Each item of the iterator
comes with what the calls made for it end in, so every theorem is over every yield sequence and
every outcome sequence. A ghost log records the broadcasts, `insert_tx` and `commit` calls.

The hint that `fee_rate_from_message` derives parses a float, and `format!("{:?}", e)` is Rust's
`Debug`; both are parameters of `errorData`.

## Main results

* `batchTx_err_after_broadcast`: `batch_tx` can return `Err` after a broadcast succeeded.
* `batchTx_err_cause`: it returns `Err` only when nothing was broadcast, or `insert_tx` or
  `commit` fails, or the iterator yields an error at an item the loop reached; on `Ok`, every
  broadcast transaction has a `TxResponse`; `handle_fee_bump` returns `Err` after its broadcast
  only when `insert_tx` or `commit` fails.
* `batchTx_ok_response`: on `Ok`, the response lists the yielded transactions up to and
  including the first failed broadcast, only that one with an error map; the raw hex is returned
  exactly when a broadcast failed, for the same transactions; and `insert_tx` and `commit` ran
  for exactly the transactions that were broadcast.
-/

namespace Spaced

/-- An `anyhow::Error`: a message, or a wrapped RPC or block fetch error. -/
inductive AnyError where
  | msg (s : String)
  | rpc (e : BitcoinRpcError)
  | fetch (e : BlockFetchError)
  deriving DecidableEq, Repr

/-- Modelled from the spec: the wallet crate's `TransactionTag`, whose variants §4.F lists. -/
inductive TransactionTag where
  | bid | «open» | register | transfer | execute | feeBump
  | other (name : String)
  deriving DecidableEq, Repr

/-- A transaction as `batch_tx` reads it: `compute_txid()` and `serialize_hex`. -/
structure Tx where
  txid : String
  hex : String
  deriving DecidableEq, Repr

/-- A transaction the builder yields, with its tags. -/
structure TaggedTx where
  tx : Tx
  tags : List TransactionTag
  deriving DecidableEq, Repr

/-- `TxResponse`. -/
structure TxResponse where
  txid : String
  tags : List TransactionTag
  /-- The `BTreeMap<String, String>` of a failed broadcast. -/
  error : Option (List (String × String))
  deriving DecidableEq, Repr

/-- `WalletResponse`. -/
structure WalletResponse where
  sent : List TxResponse
  raw : Option (List String)
  deriving DecidableEq, Repr

/-- A call `batch_tx` or `handle_fee_bump` makes, and whether it succeeded (ghost log). -/
inductive TxCall where
  | broadcast (txid : String) (ok : Bool)
  | insertTx (txid : String) (ok : Bool)
  | commit (ok : Bool)
  deriving DecidableEq, Repr

/-- One item of the transaction iterator, with what the calls `batch_tx` makes for it end in. -/
structure Item where
  /-- What `tx_iter.next()` yields. -/
  next : Except AnyError TaggedTx
  /-- `broadcast_tx`, ending in `ConfirmationTime::Unconfirmed { last_seen }`. -/
  broadcast : Outcome BitcoinRpcError Nat
  insert : Except AnyError Unit
  commit : Except AnyError Unit
  deriving DecidableEq, Repr

/-- `str::contains`. -/
def strContains (hay needle : String) : Bool := decide (needle.toList <:+: hay.toList)

/-- `BTreeMap::insert` on an error map. -/
def mapInsert (m : List (String × String)) (k v : String) : List (String × String) :=
  (k, v) :: m.filter fun e => e.1 ≠ k

/-- The hint for a bid whose replacement adds unconfirmed inputs. -/
def unconfirmedHint : String :=
  "If you have don't have confirmed auction outputs, you cannot replace bids in the mempool."

/-- The hint for a bid outbid in the mempool, with the rate to beat. -/
def competingBidHint (rate : Nat) : String :=
  "A competing bid in the mempool; replace with a feerate > " ++ toString rate ++ " sat/vB."

/-- The error map of a failed broadcast. `feeRate` is
`fee_rate_from_message(..).to_sat_per_vb_ceil()` and `debug` is `format!("{:?}", e)`. -/
def errorData (feeRate : String → Option Nat) (debug : BitcoinRpcError → String) (isBid : Bool) :
    BitcoinRpcError → List (String × String)
  | .rpc rpc =>
    let m := if isBid && strContains rpc.message "replacement-adds-unconfirmed" then
      mapInsert [] "hint" unconfirmedHint else []
    let m := match isBid, feeRate rpc.message with
      | true, some rate => mapInsert m "hint" (competingBidHint rate)
      | _, _ => m
    mapInsert (mapInsert m "rpc_code" (toString rpc.code)) "message" rpc.message
  | e => mapInsert [] "message" (debug e)

/-- `result_set.last_mut().unwrap().error = Some(error_data)`. -/
def setLastError (sent : List TxResponse) (data : List (String × String)) : List TxResponse :=
  match sent.getLast? with
  | some r => sent.dropLast ++ [{ r with error := some data }]
  | none => sent

section Loop

variable (feeRate : String → Option Nat) (debug : BitcoinRpcError → String)

/-- The broadcast loop of `batch_tx`, with `result_set` and `raw_set` so far. -/
def batchLoop : List Item → List TxResponse → List String →
    Outcome AnyError WalletResponse × List TxCall
  | [], sent, _ => (.ok ⟨sent, none⟩, [])
  | item :: items, sent, raws =>
    match item.next with
    | .error e => (.err e, [])
    | .ok tagged =>
      let isBid := tagged.tags.contains .bid
      let sent := sent ++ [⟨tagged.tx.txid, tagged.tags, none⟩]
      let raws := raws ++ [tagged.tx.hex]
      match item.broadcast with
      | .ok _ =>
        match item.insert with
        | .error e => (.err e, [.broadcast tagged.tx.txid true, .insertTx tagged.tx.txid false])
        | .ok () =>
          match item.commit with
          | .error e =>
            (.err e, [.broadcast tagged.tx.txid true, .insertTx tagged.tx.txid true,
              .commit false])
          | .ok () =>
            let r := batchLoop items sent raws
            (r.1, .broadcast tagged.tx.txid true :: .insertTx tagged.tx.txid true ::
              .commit true :: r.2)
      | .err e =>
        (.ok ⟨setLastError sent (errorData feeRate debug isBid e), some raws⟩,
          [.broadcast tagged.tx.txid false])
      | .panic => (.panic, [.broadcast tagged.tx.txid false])

/-- `batch_tx`: `prepared` is what everything before the loop ends in. -/
def batchTx (prepared : Outcome AnyError Unit) (items : List Item) :
    Outcome AnyError WalletResponse × List TxCall :=
  match prepared with
  | .ok () => batchLoop feeRate debug items [] []
  | .err e => (.err e, [])
  | .panic => (.panic, [])

theorem setLastError_txids (sent : List TxResponse) (data : List (String × String)) :
    (setLastError sent data).map (·.txid) = sent.map (·.txid) := by
  unfold setLastError
  split
  · rename_i r hr
    conv_rhs => rw [← List.dropLast_append_getLast? r hr]
    simp
  · rfl

/-- An item the loop ran through: built, broadcast, inserted and committed. -/
def Item.Done (p : Item) : Prop :=
  (∃ t, p.next = .ok t) ∧ (∃ c, p.broadcast = .ok c) ∧ p.insert = .ok () ∧ p.commit = .ok ()

/-- The loop returns `Err` only through `insert_tx(..)?`, `commit()?`, or `tx_result?` on an
item it reached after every earlier item was broadcast, inserted and committed. -/
theorem batchLoop_err_cause {items : List Item} {sent : List TxResponse} {raws : List String}
    {e : AnyError} {log : List TxCall} (h : batchLoop feeRate debug items sent raws = (.err e, log)) :
    (∃ x, TxCall.insertTx x false ∈ log) ∨ TxCall.commit false ∈ log ∨
      ∃ done it rest, items = done ++ it :: rest ∧ (∀ p ∈ done, p.Done) ∧ it.next = .error e := by
  induction items generalizing sent raws log with
  | nil => cases h
  | cons item items ih =>
    simp only [batchLoop] at h
    split at h
    · cases h
      exact .inr (.inr ⟨[], item, items, rfl, by simp, by assumption⟩)
    · rename_i tagged hnext
      split at h
      · rename_i c hb
        split at h
        · cases h; exact .inl ⟨_, List.mem_cons_of_mem _ (List.mem_singleton_self _)⟩
        · rename_i hi
          split at h
          · cases h; exact .inr (.inl (by simp))
          · rename_i hc
            obtain ⟨h₁, rfl⟩ := Prod.mk.inj h
            rcases ih (Prod.ext h₁ rfl) with ⟨x, hx⟩ | hc' | ⟨done, it, rest, rfl, hdone, hn⟩
            · exact .inl ⟨x, by simp [hx]⟩
            · exact .inr (.inl (by simp [hc']))
            · exact .inr (.inr ⟨item :: done, it, rest, rfl,
                List.forall_mem_cons.2 ⟨⟨⟨_, hnext⟩, ⟨c, hb⟩, hi, hc⟩, hdone⟩, hn⟩)
      · cases h
      · cases h

/-- When the loop returns `Ok`, every transaction it broadcast, and every response it started
with, has a response in the result. -/
theorem batchLoop_ok_sent {items : List Item} {sent : List TxResponse} {raws : List String}
    {resp : WalletResponse} {log : List TxCall}
    (h : batchLoop feeRate debug items sent raws = (.ok resp, log)) :
    (∀ r ∈ sent, ∃ r' ∈ resp.sent, r'.txid = r.txid) ∧
      ∀ x, TxCall.broadcast x true ∈ log → ∃ r ∈ resp.sent, r.txid = x := by
  induction items generalizing sent raws log with
  | nil =>
    cases h
    exact ⟨fun r hr => ⟨r, hr, rfl⟩, by simp⟩
  | cons item items ih =>
    simp only [batchLoop] at h
    split at h
    · cases h
    · rename_i tagged _
      split at h
      · split at h
        · cases h
        · split at h
          · cases h
          · obtain ⟨h₁, rfl⟩ := Prod.mk.inj h
            obtain ⟨hs, hb⟩ := ih (Prod.ext h₁ rfl)
            refine ⟨fun r hr => hs r (by simp [hr]), fun x hx => ?_⟩
            simp only [List.mem_cons, TxCall.broadcast.injEq, and_true, reduceCtorEq, false_or]
              at hx
            rcases hx with rfl | hx
            · exact hs ⟨tagged.tx.txid, tagged.tags, none⟩ (by simp)
            · exact hb x hx
      · cases h
        have hmap := setLastError_txids (sent ++ [⟨tagged.tx.txid, tagged.tags, none⟩])
          (errorData feeRate debug (tagged.tags.contains .bid) ‹_›)
        refine ⟨fun r hr => ?_, by simp⟩
        have h' := List.mem_map_of_mem (·.txid)
          (List.mem_append_left [⟨tagged.tx.txid, tagged.tags, none⟩] hr)
        rw [← hmap] at h'
        exact List.mem_map.1 h'
      · cases h

/-- Setting the error of the response just pushed. -/
theorem setLastError_append (sent : List TxResponse) (r : TxResponse)
    (data : List (String × String)) :
    setLastError (sent ++ [r]) data = sent ++ [{ r with error := some data }] := by
  simp [setLastError]

/-- When the loop returns `Ok`, it has run through a prefix of the iterator: the items `done`,
whose transactions were broadcast, inserted and committed, then possibly the first item whose
broadcast failed, with its error; with no failure, the whole iterator. The response and the
raw set extend `sent` and `raws` with exactly these transactions, in order, and only the failed
one carries an error map. -/
theorem batchLoop_ok_response {items : List Item} {sent : List TxResponse} {raws : List String}
    {resp : WalletResponse} {log : List TxCall}
    (h : batchLoop feeRate debug items sent raws = (.ok resp, log)) :
    ∃ (done : List (Item × TaggedTx)) (last : Option (Item × TaggedTx × BitcoinRpcError))
      (rest : List Item),
      items = done.map (·.1) ++ last.toList.map (·.1) ++ rest ∧ (last = none → rest = []) ∧
      (∀ p ∈ done, p.1.next = .ok p.2 ∧ (∃ c, p.1.broadcast = .ok c) ∧ p.1.insert = .ok () ∧
        p.1.commit = .ok ()) ∧
      (∀ l ∈ last, l.1.next = .ok l.2.1 ∧ l.1.broadcast = .err l.2.2) ∧
      resp.sent = sent ++ done.map (fun p => ⟨p.2.tx.txid, p.2.tags, none⟩) ++
        last.toList.map (fun l => ⟨l.2.1.tx.txid, l.2.1.tags,
          some (errorData feeRate debug (l.2.1.tags.contains .bid) l.2.2)⟩) ∧
      resp.raw = last.map (fun _ =>
        raws ++ (done.map (·.2) ++ last.toList.map (·.2.1)).map (·.tx.hex)) ∧
      log = done.flatMap (fun p =>
          [.broadcast p.2.tx.txid true, .insertTx p.2.tx.txid true, .commit true]) ++
        last.toList.map (fun l => .broadcast l.2.1.tx.txid false) := by
  induction items generalizing sent raws log with
  | nil =>
    cases h
    exact ⟨[], none, [], rfl, fun _ => rfl, by simp, by simp, by simp, rfl, rfl⟩
  | cons item items ih =>
    simp only [batchLoop] at h
    split at h
    · cases h
    · rename_i tagged hnext
      split at h
      · rename_i c hb
        split at h
        · cases h
        · rename_i hi
          split at h
          · cases h
          · rename_i hc
            obtain ⟨h₁, rfl⟩ := Prod.mk.inj h
            obtain ⟨done, last, rest, hitems, hrest, hdone, hlast, hsent, hraw, hlog⟩ :=
              ih (Prod.ext h₁ rfl)
            refine ⟨(item, tagged) :: done, last, rest, by simp [hitems], hrest,
              ?_, hlast, by simp [hsent], by rw [hraw]; simp, by simp [hlog]⟩
            simp only [List.mem_cons, forall_eq_or_imp]
            exact ⟨⟨hnext, ⟨c, hb⟩, hi, hc⟩, hdone⟩
      · rename_i e hb
        cases h
        exact ⟨[], some (item, tagged, e), items, by simp, by simp, by simp, by simp [hnext, hb],
          by simp [setLastError_append], by simp, by simp⟩
      · cases h

end Loop

/-- A batch whose first transaction is broadcast, inserted and committed, and whose second item
fails to build. -/
def buildFailsAfterBroadcast : List Item :=
  [⟨.ok ⟨⟨"aa", "00"⟩, [.open]⟩, .ok 0, .ok (), .ok ()⟩,
   ⟨.error (.msg "insufficient funds"), .panic, .ok (), .ok ()⟩]

/-- `batch_tx` returns `Err`, dropping its response, after it has broadcast a transaction. -/
theorem batchTx_err_after_broadcast :
    batchTx (fun _ => none) (fun _ => "") (.ok ()) buildFailsAfterBroadcast =
      (.err (.msg "insufficient funds"), [.broadcast "aa" true, .insertTx "aa" true, .commit true]) := by
  decide

/-- What the calls of `handle_fee_bump` end in. -/
structure FeeBumpRun where
  /-- `build_fee_bump`, `finish` and `sign`: the signed replacement or the first error. -/
  signed : Except AnyError Tx
  broadcast : Outcome BitcoinRpcError Nat
  insert : Except AnyError Unit
  commit : Except AnyError Unit
  deriving DecidableEq, Repr

/-- `handle_fee_bump`. Its response names the replaced transaction `txid`. -/
def handleFeeBump (txid : String) (run : FeeBumpRun) :
    Outcome AnyError (List TxResponse) × List TxCall :=
  match run.signed with
  | .error e => (.err e, [])
  | .ok tx =>
    match run.broadcast with
    | .err e => (.err (.rpc e), [.broadcast tx.txid false])
    | .panic => (.panic, [.broadcast tx.txid false])
    | .ok _ =>
      match run.insert with
      | .error e => (.err e, [.broadcast tx.txid true, .insertTx tx.txid false])
      | .ok () =>
        match run.commit with
        | .error e => (.err e, [.broadcast tx.txid true, .insertTx tx.txid true, .commit false])
        | .ok () =>
          (.ok [⟨txid, [.feeBump], none⟩],
            [.broadcast tx.txid true, .insertTx tx.txid true, .commit true])

/-- `batch_tx` returns `Err` only when nothing was broadcast, or `insert_tx` or `commit` fails,
or the iterator yields an error at an item the loop reached after broadcasting, inserting and
committing every earlier one; never because a broadcast failed; on `Ok`, every broadcast
transaction has a `TxResponse`. `handle_fee_bump` returns `Err` after its broadcast only when
`insert_tx` or `commit` fails. -/
theorem batchTx_err_cause (feeRate : String → Option Nat) (debug : BitcoinRpcError → String)
    (prepared : Outcome AnyError Unit) (items : List Item) (e : AnyError) (txid : String)
    (run : FeeBumpRun) :
    ((batchTx feeRate debug prepared items).1 = .err e →
      (∀ x, TxCall.broadcast x true ∉ (batchTx feeRate debug prepared items).2) ∨
      (∃ x, TxCall.insertTx x false ∈ (batchTx feeRate debug prepared items).2) ∨
      TxCall.commit false ∈ (batchTx feeRate debug prepared items).2 ∨
      ∃ done it rest, items = done ++ it :: rest ∧ (∀ p ∈ done, p.Done) ∧
        it.next = .error e) ∧
    (∀ resp, (batchTx feeRate debug prepared items).1 = .ok resp →
      ∀ x, TxCall.broadcast x true ∈ (batchTx feeRate debug prepared items).2 →
        ∃ r ∈ resp.sent, r.txid = x) ∧
    ((handleFeeBump txid run).1 = .err e →
      (∀ x, TxCall.broadcast x true ∉ (handleFeeBump txid run).2) ∨
      (∃ x, TxCall.insertTx x false ∈ (handleFeeBump txid run).2) ∨
      TxCall.commit false ∈ (handleFeeBump txid run).2) := by
  refine ⟨fun h => ?_, fun resp h => ?_, fun h => ?_⟩
  · cases prepared with
    | ok u => exact .inr (batchLoop_err_cause feeRate debug (Prod.ext h rfl))
    | err => exact .inl (by simp [batchTx])
    | panic => cases h
  · cases prepared with
    | ok u => exact (batchLoop_ok_sent feeRate debug (Prod.ext h rfl)).2
    | err => cases h
    | panic => cases h
  · rcases run with ⟨_ | tx, _ | _ | _, _ | _, _ | _⟩ <;> simp [handleFeeBump] at h ⊢

/-- When `batch_tx` returns `Ok(resp)`, over every sequence the builder yields and every
outcome of the broadcasts: `resp.sent` holds, in yield order, the txid and tags of each yielded
transaction up to and including the first whose broadcast failed (all of them when none failed),
and only that last entry carries an error map; `resp.raw` is `Some` exactly when a broadcast
failed, and then holds the hex of exactly the transactions of `resp.sent`, in order; and
`insert_tx` then `commit` ran, in order, for exactly the transactions whose broadcast
succeeded. -/
theorem batchTx_ok_response (feeRate : String → Option Nat) (debug : BitcoinRpcError → String)
    (prepared : Outcome AnyError Unit) (items : List Item) (resp : WalletResponse)
    (log : List TxCall) (h : batchTx feeRate debug prepared items = (.ok resp, log)) :
    ∃ (done : List (Item × TaggedTx)) (last : Option (Item × TaggedTx × BitcoinRpcError))
      (rest : List Item),
      items = done.map (·.1) ++ last.toList.map (·.1) ++ rest ∧ (last = none → rest = []) ∧
      (∀ p ∈ done, p.1.next = .ok p.2 ∧ (∃ c, p.1.broadcast = .ok c) ∧ p.1.insert = .ok () ∧
        p.1.commit = .ok ()) ∧
      (∀ l ∈ last, l.1.next = .ok l.2.1 ∧ l.1.broadcast = .err l.2.2) ∧
      resp.sent = done.map (fun p => ⟨p.2.tx.txid, p.2.tags, none⟩) ++
        last.toList.map (fun l => ⟨l.2.1.tx.txid, l.2.1.tags,
          some (errorData feeRate debug (l.2.1.tags.contains .bid) l.2.2)⟩) ∧
      resp.raw = last.map (fun _ =>
        (done.map (·.2) ++ last.toList.map (·.2.1)).map (·.tx.hex)) ∧
      log = done.flatMap (fun p =>
          [.broadcast p.2.tx.txid true, .insertTx p.2.tx.txid true, .commit true]) ++
        last.toList.map (fun l => .broadcast l.2.1.tx.txid false) := by
  cases prepared with
  | ok u =>
    obtain ⟨done, last, rest, h₁, h₂, h₃, h₄, h₅, h₆, h₇⟩ := batchLoop_ok_response feeRate debug h
    exact ⟨done, last, rest, h₁, h₂, h₃, h₄, by simpa using h₅, by simpa using h₆, h₇⟩
  | err => cases h
  | panic => cases h

/-- A batch of two: an open that is broadcast, then a bid that the node rejects. -/
def rejectedBid : List Item :=
  [⟨.ok ⟨⟨"aa", "00"⟩, [.open]⟩, .ok 0, .ok (), .ok ()⟩,
   ⟨.ok ⟨⟨"bb", "11"⟩, [.bid]⟩, .err (.other "rejected"), .ok (), .ok ()⟩]

theorem batchTx_ok_response_rejectedBid :
    batchTx (fun _ => none) (fun _ => "") (.ok ()) rejectedBid =
        (.ok ⟨[⟨"aa", [.open], none⟩, ⟨"bb", [.bid], some [("message", "")]⟩], some ["00", "11"]⟩,
          [.broadcast "aa" true, .insertTx "aa" true, .commit true, .broadcast "bb" false]) ∧
      ∃ (done : List (Item × TaggedTx)) (last : Option (Item × TaggedTx × BitcoinRpcError))
        (rest : List Item), rejectedBid = done.map (·.1) ++ last.toList.map (·.1) ++ rest := by
  have h : batchTx (fun _ => none) (fun _ => "") (.ok ()) rejectedBid =
      (.ok ⟨[⟨"aa", [.open], none⟩, ⟨"bb", [.bid], some [("message", "")]⟩], some ["00", "11"]⟩,
        [.broadcast "aa" true, .insertTx "aa" true, .commit true, .broadcast "bb" false]) := by
    decide
  obtain ⟨done, last, rest, hitems, -⟩ := batchTx_ok_response _ _ _ _ _ _ h
  exact ⟨h, done, last, rest, hitems⟩

end Spaced
