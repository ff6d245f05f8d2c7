import Spaced.Rpc.Broadcast
import Spaced.Wallet.BatchTx

/-!
# The spaces wallet's outputs: coin selection and the joint balance

A spaces wallet has two BDK wallets, `coins` and `spaces`. An output of the spaces wallet's
external keychain either carries a space, when the state snapshot has a spaceout at its
outpoint, or is worth only its coin value. `get_space_outputs` sorts the unspent external
outputs into the two kinds; `get_spaces_coin_selection` offers the confirmed coin-value outputs
to coin selection as foreign UTXOs, and `get_joint_balance` sums them against BDK's balance:

```
locked: spaces.confirmed - spaces_confirmed,
...
locked: (spaces.untrusted_pending + spaces.trusted_pending) - spaces_pending,
```

`Amount`'s subtraction panics below zero. The balance is BDK's, not this repository's code:
`balance` follows its partition of the unspent outputs into immature coinbase, confirmed,
trusted pending (the internal keychain) and untrusted pending.

## Main definitions

* `getSpaceOutputs`, `getSpacesCoinSelection`, `getJointBalance`: the source. The snapshot is a
  lookup `OutPoint → Except AnyError (Option S)`, `S` the spaceout it returns.
* `balance`: BDK's `Wallet::balance` over a chain tip.

## Main results

* `getSpaceOutputs_spec`: every unspent external output goes to exactly one list, the spaceouts
  when the snapshot has a spaceout at its outpoint and the coin-value outputs when it has none.
* `spaces_coin_selection`: coin selection is offered exactly the confirmed unspent coin-value
  outputs, and none of them has a spaceout.
* `getJointBalance_ok`: when no confirmed coin-value output is an immature coinbase, the joint
  balance is computed and `confirmed.locked + spaces_confirmed = spaces.confirmed`.
* `getJointBalance_panic_iff`: the pending subtraction never underflows, and the confirmed one
  exactly when the confirmed coin-value outputs are worth more than BDK's confirmed balance.
* `joint_balance_immature_coinbase`: an immature coinbase output on the spaces external keychain
  makes `get_joint_balance` panic.
-/

namespace Spaced

/-- `KeychainKind`. -/
inductive KeychainKind where
  | external
  | internal
  deriving DecidableEq, Repr

/-- `OutPoint`. -/
structure OutPoint where
  txid : String
  vout : Nat
  deriving DecidableEq, Repr

/-- `TxOut`, its value in satoshis. -/
structure TxOut where
  value : Nat
  scriptPubkey : String
  deriving DecidableEq, Repr

/-- `bdk::LocalOutput`, with whether its transaction is a coinbase, which BDK's balance reads
from the transaction graph. -/
structure LocalOutput where
  outpoint : OutPoint
  txout : TxOut
  keychain : KeychainKind
  isSpent : Bool
  confirmationTime : ConfirmationTime
  isCoinbase : Bool
  deriving DecidableEq, Repr

/-- `ConfirmationTime::is_confirmed`. -/
def ConfirmationTime.isConfirmed : ConfirmationTime → Bool
  | .confirmed _ _ => true
  | .unconfirmed _ => false

/-- `FullSpaceOut`: an outpoint and the snapshot's spaceout at it. -/
structure FullSpaceOut (S : Type) where
  outpoint : OutPoint
  spaceout : S
  deriving DecidableEq, Repr

/-- `Sequence::ENABLE_RBF_NO_LOCKTIME`. -/
def enableRbfNoLocktime : Nat := 0xFFFFFFFD

/-- A `WeightedUtxo` whose `utxo` is a `Utxo::Foreign`. -/
structure WeightedUtxo where
  satisfactionWeight : Nat
  outpoint : OutPoint
  sequence : Option Nat
  /-- `psbt_input.witness_utxo`. -/
  witnessUtxo : Option TxOut
  deriving DecidableEq, Repr

/-- `bdk::Balance`. -/
structure Balance where
  immature : Nat
  trustedPending : Nat
  untrustedPending : Nat
  confirmed : Nat
  deriving DecidableEq, Repr

/-- `COINBASE_MATURITY`. -/
def coinbaseMaturity : Nat := 100

/-- The four classes of BDK's balance. -/
inductive BalanceClass where
  | immature
  | confirmed
  | trustedPending
  | untrustedPending
  deriving DecidableEq, Repr

/-- Modelled from BDK: the class of an unspent output at the chain tip `tip`. A confirmed
coinbase output is immature until it is `COINBASE_MATURITY` blocks deep; an unconfirmed output
is trusted when it is on the internal keychain. -/
def LocalOutput.balanceClass (tip : Nat) (o : LocalOutput) : BalanceClass :=
  match o.confirmationTime with
  | .confirmed height _ =>
    if o.isCoinbase && decide (tip - height + 1 < coinbaseMaturity) then .immature
    else .confirmed
  | .unconfirmed _ => if o.keychain = .internal then .trustedPending else .untrustedPending

/-- The value of the unspent outputs of one class. -/
def classValue (tip : Nat) (c : BalanceClass) (outputs : List LocalOutput) : Nat :=
  ((outputs.filter fun o => !o.isSpent && o.balanceClass tip == c).map (·.txout.value)).sum

/-- Modelled from BDK: `Wallet::balance`, the unspent outputs summed class by class. -/
def balance (tip : Nat) (outputs : List LocalOutput) : Balance :=
  ⟨classValue tip .immature outputs, classValue tip .trustedPending outputs,
    classValue tip .untrustedPending outputs, classValue tip .confirmed outputs⟩

/-- `ConfirmedBalance`. -/
structure ConfirmedBalance where
  total : Nat
  spendable : Nat
  immature : Nat
  locked : Nat
  deriving DecidableEq, Repr

/-- `UnconfirmedBalance`. -/
structure UnconfirmedBalance where
  total : Nat
  locked : Nat
  deriving DecidableEq, Repr

/-- `JointBalance`. -/
structure JointBalance where
  confirmed : ConfirmedBalance
  unconfirmed : UnconfirmedBalance
  deriving DecidableEq, Repr

/-- `Amount - Amount`, which panics below zero. -/
def amountSub (a b : Nat) : Outcome AnyError Nat :=
  if b ≤ a then .ok (a - b) else .panic

section Classify

variable {S : Type} (getSpaceout : OutPoint → Except AnyError (Option S))

/-- One iteration of the loop of `get_space_outputs`, with `(spaceouts, coinouts)` so far. -/
def classifyOutput (acc : List (FullSpaceOut S) × List LocalOutput) (output : LocalOutput) :
    Except AnyError (List (FullSpaceOut S) × List LocalOutput) := do
  match ← getSpaceout output.outpoint with
  | none => pure (acc.1, acc.2 ++ [output])
  | some spaceout => pure (acc.1 ++ [⟨output.outpoint, spaceout⟩], acc.2)

/-- The outputs `list_output()` yields past the filter of `get_space_outputs`. -/
def available (outputs : List LocalOutput) : List LocalOutput :=
  outputs.filter fun x => x.keychain == .external && !x.isSpent

/-- `get_space_outputs`: `(spaceouts, coinouts)`. -/
def getSpaceOutputs (outputs : List LocalOutput) :
    Except AnyError (List (FullSpaceOut S) × List LocalOutput) :=
  (available outputs).foldlM (classifyOutput getSpaceout) ([], [])

/-- `get_spaces_coin_selection`. `maxWeight` is `max_weight_to_satisfy()` of the spaces
wallet's external descriptor, in weight units, or the error computing it. -/
def getSpacesCoinSelection (maxWeight : Except AnyError Nat) (outputs : List LocalOutput) :
    Except AnyError (List WeightedUtxo) := do
  let weight ← maxWeight
  let (_, coinouts) ← getSpaceOutputs getSpaceout outputs
  pure ((coinouts.filter fun x => x.confirmationTime.isConfirmed && !x.isSpent).map fun coin =>
    ⟨weight / 4, coin.outpoint, some enableRbfNoLocktime, some coin.txout⟩)

/-- The loop of `get_space_outputs` reads the snapshot at every output it visits, appends the
outputs without a spaceout to the coin-value outputs and the others to the spaceouts. -/
theorem foldlM_classifyOutput : ∀ (l : List LocalOutput) (sps : List (FullSpaceOut S))
    (cos : List LocalOutput) {sps' : List (FullSpaceOut S)} {cos' : List LocalOutput},
    l.foldlM (classifyOutput getSpaceout) (sps, cos) = .ok (sps', cos') →
      (∀ o ∈ l, ∃ r, getSpaceout o.outpoint = .ok r) ∧
      cos' = cos ++ l.filter (fun o => match getSpaceout o.outpoint with
        | .ok none => true
        | _ => false) ∧
      sps' = sps ++ l.filterMap (fun o => match getSpaceout o.outpoint with
        | .ok (some sp) => some ⟨o.outpoint, sp⟩
        | _ => none)
  | [], _, _, _, _, h => by
    cases h
    exact ⟨fun _ h => absurd h (List.not_mem_nil _), (List.append_nil _).symm,
      (List.append_nil _).symm⟩
  | o :: l, sps, cos, sps', cos', h => by
    simp only [List.foldlM_cons, classifyOutput] at h
    cases hg : getSpaceout o.outpoint with
    | error e => simp [hg] at h
    | ok r =>
      -- the accumulator the rest of the loop starts from depends on the lookup
      cases r <;>
      · simp only [hg, except_ok_bind] at h
        obtain ⟨h₁, h₂, h₃⟩ := foldlM_classifyOutput l _ _ h
        exact ⟨List.forall_mem_cons.2 ⟨⟨_, hg⟩, h₁⟩, by simp [h₂, hg], by simp [h₃, hg]⟩

/-- Every unspent output of the external keychain goes to exactly one list: the spaceouts, with
the snapshot's spaceout, when the snapshot has one at its outpoint, and the coin-value outputs
when it has none. -/
theorem getSpaceOutputs_spec {outputs : List LocalOutput} {spaceouts : List (FullSpaceOut S)}
    {coinouts : List LocalOutput}
    (h : getSpaceOutputs getSpaceout outputs = .ok (spaceouts, coinouts)) :
    (∀ o ∈ available outputs, ∃ r, getSpaceout o.outpoint = .ok r) ∧
      coinouts = (available outputs).filter (fun o => match getSpaceout o.outpoint with
        | .ok none => true
        | _ => false) ∧
      spaceouts = (available outputs).filterMap (fun o => match getSpaceout o.outpoint with
        | .ok (some sp) => some ⟨o.outpoint, sp⟩
        | _ => none) := by
  simpa using foldlM_classifyOutput getSpaceout _ [] [] h

theorem mem_available {outputs : List LocalOutput} {o : LocalOutput} :
    o ∈ available outputs ↔ o ∈ outputs ∧ o.keychain = .external ∧ o.isSpent = false := by
  simp [available, and_assoc]

/-- Coin selection is offered exactly the confirmed, unspent outputs of the spaces wallet's
external keychain at which the snapshot has no spaceout, in the order BDK lists them, each
with the RBF sequence, a quarter of the descriptor's weight, and its own `TxOut`: no output the
snapshot records as a spaceout is ever offered. -/
theorem spaces_coin_selection {maxWeight : Except AnyError Nat} {outputs : List LocalOutput}
    {sel : List WeightedUtxo}
    (h : getSpacesCoinSelection getSpaceout maxWeight outputs = .ok sel) :
    ∃ weight, maxWeight = .ok weight ∧
      sel = (((available outputs).filter fun o => o.confirmationTime.isConfirmed &&
          match getSpaceout o.outpoint with
          | .ok none => true
          | _ => false).map fun coin =>
        ⟨weight / 4, coin.outpoint, some enableRbfNoLocktime, some coin.txout⟩) ∧
      ∀ u ∈ sel, getSpaceout u.outpoint = .ok none := by
  cases hw : maxWeight with
  | error e => simp [getSpacesCoinSelection, hw] at h
  | ok weight =>
    cases hs : getSpaceOutputs getSpaceout outputs with
    | error e => simp [getSpacesCoinSelection, hw, hs] at h
    | ok res =>
      obtain ⟨spaceouts, coinouts⟩ := res
      obtain ⟨-, hco, -⟩ := getSpaceOutputs_spec getSpaceout hs
      simp only [getSpacesCoinSelection, hw, hs, except_ok_bind] at h
      cases h
      have hsel : coinouts.filter (fun x => x.confirmationTime.isConfirmed && !x.isSpent) =
          (available outputs).filter fun o => o.confirmationTime.isConfirmed &&
            match getSpaceout o.outpoint with
            | .ok none => true
            | _ => false := by
        rw [hco, List.filter_filter]
        refine List.filter_congr fun o ho => ?_
        rw [(mem_available.1 ho).2.2]
        cases getSpaceout o.outpoint with
        | error => simp
        | ok r => cases r <;> simp [Bool.and_comm]
      refine ⟨weight, rfl, by rw [hsel], fun u hu => ?_⟩
      rw [hsel] at hu
      obtain ⟨o, ho, rfl⟩ := List.mem_map.1 hu
      have := (List.mem_filter.1 ho).2
      revert this
      cases getSpaceout o.outpoint with
      | error => simp
      | ok r => cases r <;> simp

/-- Over every list of spaces-wallet outputs and every snapshot: `get_space_outputs` puts every
unspent output of the external keychain into exactly one of its two lists, the spaceouts when
the snapshot has a spaceout at its outpoint and the coin-value outputs when it has none; and
`get_spaces_coin_selection` offers exactly the confirmed ones among the coin-value outputs, so
no output the snapshot records as a spaceout is ever offered to coin selection. -/
theorem space_outputs_partition (maxWeight : Except AnyError Nat) (outputs : List LocalOutput) :
    (∀ spaceouts coinouts, getSpaceOutputs getSpaceout outputs = .ok (spaceouts, coinouts) →
      ∀ o ∈ outputs, o.keychain = .external → o.isSpent = false →
        (getSpaceout o.outpoint = .ok none ∧ o ∈ coinouts ∧
            ∀ x ∈ spaceouts, x.outpoint ≠ o.outpoint) ∨
        (∃ sp, getSpaceout o.outpoint = .ok (some sp) ∧ ⟨o.outpoint, sp⟩ ∈ spaceouts ∧
            o ∉ coinouts)) ∧
    (∀ sel, getSpacesCoinSelection getSpaceout maxWeight outputs = .ok sel →
      sel.map (·.outpoint) = ((available outputs).filter fun o =>
          o.confirmationTime.isConfirmed && match getSpaceout o.outpoint with
          | .ok none => true
          | _ => false).map (·.outpoint) ∧
      ∀ u ∈ sel, getSpaceout u.outpoint = .ok none) := by
  refine ⟨fun spaceouts coinouts h o ho hext hun => ?_, fun sel h => ?_⟩
  · obtain ⟨hall, hco, hsp⟩ := getSpaceOutputs_spec getSpaceout h
    have hav : o ∈ available outputs := mem_available.2 ⟨ho, hext, hun⟩
    obtain ⟨r, hr⟩ := hall o hav
    subst hco hsp
    cases r with
    | none =>
      refine .inl ⟨hr, List.mem_filter.2 ⟨hav, by simp [hr]⟩, fun x hx hxo => ?_⟩
      obtain ⟨o', -, ho'⟩ := List.mem_filterMap.1 hx
      revert ho'
      cases hg : getSpaceout o'.outpoint with
      | error => simp
      | ok r' =>
        cases r' with
        | none => simp
        | some sp =>
          rintro ⟨⟩
          rw [← hxo, hg] at hr
          cases hr
    | some sp =>
      refine .inr ⟨sp, hr, List.mem_filterMap.2 ⟨o, hav, by simp [hr]⟩, fun hc => ?_⟩
      have := (List.mem_filter.1 hc).2
      simp [hr] at this
  · obtain ⟨weight, -, rfl, hnone⟩ := spaces_coin_selection getSpaceout h
    exact ⟨by simp [Function.comp_def], hnone⟩

end Classify

/-- An output of the spaces wallet's external keychain at `t0:vout`, confirmed at height 1. -/
def walletOutput (vout value : Nat) : LocalOutput :=
  ⟨⟨"t0", vout⟩, ⟨value, "5120"⟩, .external, false, .confirmed 1 0, false⟩

/-- A coin, a space, a spent output and an output of the internal keychain. -/
def mixedOutputs : List LocalOutput :=
  [walletOutput 0 1000, walletOutput 1 662, { walletOutput 2 330 with isSpent := true },
   { walletOutput 3 500 with keychain := .internal }]

/-- A snapshot with a spaceout at `t0:1` only. -/
def mixedSnapshot (outpoint : OutPoint) : Except AnyError (Option Unit) :=
  .ok (if outpoint.vout = 1 then some () else none)

/-- Over `mixedOutputs`, the space at `t0:1` is a spaceout and not a coin-value output, and coin
selection is offered the coin at `t0:0` alone. -/
theorem space_outputs_partition_mixed :
    ((mixedSnapshot (walletOutput 1 662).outpoint = .ok none ∧
          walletOutput 1 662 ∈ [walletOutput 0 1000] ∧
          ∀ x ∈ [(⟨⟨"t0", 1⟩, ()⟩ : FullSpaceOut Unit)], x.outpoint ≠ (walletOutput 1 662).outpoint) ∨
        (∃ sp, mixedSnapshot (walletOutput 1 662).outpoint = .ok (some sp) ∧
          ⟨(walletOutput 1 662).outpoint, sp⟩ ∈ [(⟨⟨"t0", 1⟩, ()⟩ : FullSpaceOut Unit)] ∧
          walletOutput 1 662 ∉ [walletOutput 0 1000])) ∧
      [(⟨100, ⟨"t0", 0⟩, some enableRbfNoLocktime, some ⟨1000, "5120"⟩⟩ : WeightedUtxo)].map
          (·.outpoint) =
        ((available mixedOutputs).filter fun o => o.confirmationTime.isConfirmed &&
          match mixedSnapshot o.outpoint with
          | .ok none => true
          | _ => false).map (·.outpoint) :=
  have h := space_outputs_partition mixedSnapshot (.ok 400) mixedOutputs
  ⟨h.1 _ _ rfl _ (List.mem_cons_of_mem _ (List.mem_cons_self _ _)) rfl rfl, (h.2 _ rfl).1⟩

/-! ## The joint balance -/

section Balance

variable {S : Type} (getSpaceout : OutPoint → Except AnyError (Option S))

/-- The fold of `get_joint_balance` over the coin-value outputs:
`(spaces_confirmed, spaces_pending)`. -/
def coinValues (coinouts : List LocalOutput) : Nat × Nat :=
  coinouts.foldl (fun balances utxo =>
    if utxo.confirmationTime.isConfirmed then (balances.1 + utxo.txout.value, balances.2)
    else (balances.1, balances.2 + utxo.txout.value)) (0, 0)

/-- `get_joint_balance`, at the chain tip `tip` of both wallets; `spacesOutputs` and
`coinsOutputs` are all the outputs of each. -/
def getJointBalance (tip : Nat) (spacesOutputs coinsOutputs : List LocalOutput) :
    Outcome AnyError JointBalance :=
  match getSpaceOutputs getSpaceout spacesOutputs with
  | .error e => .err e
  | .ok (_, coinouts) =>
    let (spacesConfirmed, spacesPending) := coinValues coinouts
    let spaces := balance tip spacesOutputs
    let coins := balance tip coinsOutputs
    (amountSub spaces.confirmed spacesConfirmed).bind fun locked =>
      (amountSub (spaces.untrustedPending + spaces.trustedPending) spacesPending).bind
        fun pendingLocked =>
          .ok ⟨⟨spacesConfirmed + spaces.immature + coins.confirmed + coins.immature,
              spacesConfirmed + coins.confirmed, spaces.immature + coins.immature, locked⟩,
            ⟨spacesPending + coins.trustedPending + coins.untrustedPending, pendingLocked⟩⟩

theorem foldl_coinValues (l : List LocalOutput) (a b : Nat) :
    l.foldl (fun balances utxo =>
        if utxo.confirmationTime.isConfirmed then (balances.1 + utxo.txout.value, balances.2)
        else (balances.1, balances.2 + utxo.txout.value)) (a, b) =
      (a + ((l.filter fun o => o.confirmationTime.isConfirmed).map (·.txout.value)).sum,
        b + ((l.filter fun o => !o.confirmationTime.isConfirmed).map (·.txout.value)).sum) := by
  induction l generalizing a b with
  | nil => rfl
  | cons o l ih =>
    cases h : o.confirmationTime.isConfirmed <;> simp only [List.foldl_cons, h, ih] <;>
      simp [h, List.filter_cons] <;> omega

/-- `spaces_confirmed` and `spaces_pending` are the values of the confirmed and of the
unconfirmed coin-value outputs. -/
theorem coinValues_eq (coinouts : List LocalOutput) :
    coinValues coinouts =
      (((coinouts.filter fun o => o.confirmationTime.isConfirmed).map (·.txout.value)).sum,
        ((coinouts.filter fun o => !o.confirmationTime.isConfirmed).map (·.txout.value)).sum) := by
  simpa using foldl_coinValues coinouts 0 0

theorem sum_filter_or {α : Type} (l : List α) (p q : α → Bool) (f : α → Nat)
    (h : ∀ x, ¬ (p x = true ∧ q x = true)) :
    ((l.filter fun x => p x || q x).map f).sum =
      ((l.filter p).map f).sum + ((l.filter q).map f).sum := by
  induction l with
  | nil => rfl
  | cons x l ih =>
    have := h x
    cases hp : p x <;> cases hq : q x <;> simp [List.filter_cons, hp, hq, ih] at this ⊢ <;> omega

variable {outputs : List LocalOutput} {spaceouts : List (FullSpaceOut S)}
  {coinouts : List LocalOutput}

/-- The coin-value outputs are unspent outputs of the spaces wallet. -/
theorem coinouts_sublist (hs : getSpaceOutputs getSpaceout outputs = .ok (spaceouts, coinouts)) :
    List.Sublist coinouts outputs ∧ ∀ o ∈ coinouts, o.isSpent = false := by
  rw [(getSpaceOutputs_spec getSpaceout hs).2.1]
  exact ⟨(List.filter_sublist _).trans (List.filter_sublist _),
    fun o ho => (mem_available.1 (List.mem_filter.1 ho).1).2.2⟩

/-- A sublist of `outputs` whose outputs are all unspent and of class `c` is worth at most
the class. -/
theorem sum_le_classValue {tip : Nat} {c : BalanceClass} {l : List LocalOutput}
    (hl : List.Sublist l outputs) (hc : ∀ o ∈ l, o.isSpent = false ∧ o.balanceClass tip = c) :
    (l.map (·.txout.value)).sum ≤ classValue tip c outputs := by
  have hsub : List.Sublist l (outputs.filter fun o => !o.isSpent && o.balanceClass tip == c) := by
    have := hl.filter fun o => !o.isSpent && o.balanceClass tip == c
    rwa [List.filter_eq_self.2 fun o ho => by simp [(hc o ho).1, (hc o ho).2]] at this
  exact (hsub.map _).sum_le_sum fun _ _ => Nat.zero_le _

/-- The unconfirmed coin-value outputs are worth at most the pending balance. -/
theorem coinValues_pending_le {tip : Nat}
    (hs : getSpaceOutputs getSpaceout outputs = .ok (spaceouts, coinouts)) :
    (coinValues coinouts).2 ≤
      (balance tip outputs).untrustedPending + (balance tip outputs).trustedPending := by
  obtain ⟨hsub, hun⟩ := coinouts_sublist getSpaceout hs
  let p : BalanceClass → LocalOutput → Bool := fun c o => !o.isSpent && o.balanceClass tip == c
  have hsub' : List.Sublist (coinouts.filter fun o => !o.confirmationTime.isConfirmed)
      (outputs.filter fun o => p .untrustedPending o || p .trustedPending o) := by
    have := ((List.filter_sublist (p := fun o => !o.confirmationTime.isConfirmed) coinouts).trans
      hsub).filter fun o => p .untrustedPending o || p .trustedPending o
    rwa [List.filter_eq_self.2 fun o ho => ?_] at this
    obtain ⟨ho, hu⟩ := List.mem_filter.1 ho
    simp only [p, hun o ho, LocalOutput.balanceClass]
    cases hct : o.confirmationTime with
    | confirmed h t => simp [hct, ConfirmationTime.isConfirmed] at hu
    | unconfirmed t => simp only [hct]; split <;> simp
  rw [coinValues_eq]
  refine ((hsub'.map _).sum_le_sum fun _ _ => Nat.zero_le _).trans (le_of_eq ?_)
  rw [sum_filter_or _ _ _ _ fun o ⟨h₁, h₂⟩ => by simp_all [p]]
  rfl

/-- When no confirmed coin-value output is an immature coinbase, the confirmed coin-value
outputs are worth at most the confirmed balance, `get_joint_balance` returns, and
`confirmed.locked + spaces_confirmed = spaces.confirmed`; likewise for the unconfirmed ones and
the pending balance. -/
theorem getJointBalance_ok {tip : Nat} (coinsOutputs : List LocalOutput)
    (hs : getSpaceOutputs getSpaceout outputs = .ok (spaceouts, coinouts))
    (hmature : ∀ o ∈ coinouts, o.confirmationTime.isConfirmed = true →
      o.balanceClass tip ≠ .immature) :
    ∃ jb, getJointBalance getSpaceout tip outputs coinsOutputs = .ok jb ∧
      jb.confirmed.locked + (coinValues coinouts).1 = (balance tip outputs).confirmed ∧
      jb.unconfirmed.locked + (coinValues coinouts).2 =
        (balance tip outputs).untrustedPending + (balance tip outputs).trustedPending := by
  obtain ⟨hsub, hun⟩ := coinouts_sublist getSpaceout hs
  have hconf : (coinValues coinouts).1 ≤ (balance tip outputs).confirmed := by
    rw [coinValues_eq]
    refine sum_le_classValue ((List.filter_sublist _).trans hsub) fun o ho => ?_
    obtain ⟨ho, hc⟩ := List.mem_filter.1 ho
    refine ⟨hun o ho, ?_⟩
    have hm := hmature o ho hc
    unfold LocalOutput.balanceClass at hm ⊢
    cases hct : o.confirmationTime with
    | confirmed h t => simp only [hct] at hm ⊢; split <;> simp_all
    | unconfirmed t => simp [hct, ConfirmationTime.isConfirmed] at hc
  have hpend : (coinValues coinouts).2 ≤
      (balance tip outputs).untrustedPending + (balance tip outputs).trustedPending :=
    coinValues_pending_le getSpaceout hs
  simp only [getJointBalance, hs]
  rw [amountSub, if_pos hconf, Outcome.ok_bind, amountSub, if_pos hpend, Outcome.ok_bind]
  exact ⟨_, rfl, by simp only; omega, by simp only; omega⟩

/-- The pending subtraction never underflows, so `get_joint_balance` panics exactly when the
confirmed coin-value outputs are worth more than the confirmed balance. -/
theorem getJointBalance_panic_iff {tip : Nat} (coinsOutputs : List LocalOutput)
    (hs : getSpaceOutputs getSpaceout outputs = .ok (spaceouts, coinouts)) :
    getJointBalance getSpaceout tip outputs coinsOutputs = .panic ↔
      (balance tip outputs).confirmed < (coinValues coinouts).1 := by
  have hpend : (coinValues coinouts).2 ≤
      (balance tip outputs).untrustedPending + (balance tip outputs).trustedPending :=
    coinValues_pending_le getSpaceout hs
  simp only [getJointBalance, hs]
  rw [amountSub]
  split_ifs with hconf
  · rw [Outcome.ok_bind, amountSub, if_pos hpend, Outcome.ok_bind]
    simp only [reduceCtorEq, false_iff, not_lt]
    exact hconf
  · simpa using hconf

end Balance

/-- A coinbase output of the spaces wallet's external keychain, 50 BTC mined at height 100,
with no spaceout. -/
def freshCoinbase : LocalOutput :=
  ⟨⟨"c0", 0⟩, ⟨5000000000, "5120"⟩, .external, false, .confirmed 100 0, true⟩

/-- At tip 100 the coinbase output is a coin-value output, confirmed by `is_confirmed`, but BDK
counts it as immature, so the confirmed balance is 0 and `spaces.confirmed - spaces_confirmed`
underflows. -/
theorem joint_balance_immature_coinbase :
    getSpaceOutputs (fun _ => .ok none) [freshCoinbase] =
        (.ok ([], [freshCoinbase]) : Except AnyError (List (FullSpaceOut Unit) × List LocalOutput)) ∧
      freshCoinbase.confirmationTime.isConfirmed = true ∧
      freshCoinbase.balanceClass 100 = .immature ∧ (balance 100 [freshCoinbase]).confirmed = 0 ∧
      getJointBalance (S := Unit) (fun _ => .ok none) 100 [freshCoinbase] [] = .panic := by
  decide

end Spaced
