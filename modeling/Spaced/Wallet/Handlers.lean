import Spaced.Wallet.Requests

/-!
# The replies of the listing and balance commands

`wallet_handle_commands` answers three commands from the same pass over the spaces wallet,
`get_space_outputs`, which sorts its unspent external outputs by what the snapshot records at
their outpoints:

* `ListUnspent`: the coin-value outputs of the spaces wallet, then `wallet.coins.list_unspent()`;
* `ListSpaces`: the spaceouts of the spaces wallet that carry a space;
* `GetBalance`: `get_joint_balance`.

## Main results

* `spaces_outputs_listed`: an unspent external output of the spaces wallet is listed by
  `ListUnspent` exactly when the snapshot has no spaceout at it, and by `ListSpaces` exactly when
  the snapshot's spaceout there carries a space. An output whose spaceout carries no space is
  listed by neither.
* `getJointBalance_spec`: whenever `get_space_outputs` succeeds, `get_joint_balance` panics
  exactly when the confirmed coin-value outputs are worth more than BDK's confirmed balance, and
  otherwise returns; its locked amounts are BDK's balances less the coin-value outputs, and its
  two totals and two locked amounts add up to the value of the unspent outputs of both wallets.
  An immature coinbase among the coin-value outputs is counted as spendable and as immature
  (`getJointBalance_spec_coinbase`).
-/

namespace Spaced

section Replies

variable (getSpaceout : OutPoint → Except AnyError (Option Spaceout))

/-- The reply to `ListUnspent`; `coinsUnspent` is `wallet.coins.list_unspent()`. -/
def listUnspent (spacesOutputs coinsUnspent : List LocalOutput) :
    Except AnyError (List LocalOutput) :=
  (getSpaceOutputs getSpaceout spacesOutputs).map fun outs => outs.2 ++ coinsUnspent

/-- The reply to `ListSpaces`. -/
def listSpaces (spacesOutputs : List LocalOutput) :
    Except AnyError (List (FullSpaceOut Spaceout)) :=
  (getSpaceOutputs getSpaceout spacesOutputs).map fun outs =>
    outs.1.filter fun s => s.spaceout.space.isSome

variable {getSpaceout}

theorem except_map_eq_ok {α β : Type} {f : α → β} {x : Except AnyError α} {b : β} :
    f <$> x = .ok b ↔ ∃ a, x = .ok a ∧ f a = b := by
  cases x <;> simp [Functor.map, Except.map]

/-- Every unspent output of the spaces wallet's external keychain that the coins wallet does not
also list is listed by `ListUnspent` exactly when the snapshot records no spaceout at it, and is
listed by `ListSpaces` exactly when the snapshot's spaceout there carries a space. An output whose
spaceout carries no space is thus listed by neither. -/
theorem spaces_outputs_listed {spacesOutputs coinsUnspent unspent : List LocalOutput}
    {spaces : List (FullSpaceOut Spaceout)} {o : LocalOutput}
    (hu : listUnspent getSpaceout spacesOutputs coinsUnspent = .ok unspent)
    (hl : listSpaces getSpaceout spacesOutputs = .ok spaces)
    (ho : o ∈ available spacesOutputs) (hcoins : o ∉ coinsUnspent) :
    (o ∈ unspent ↔ getSpaceout o.outpoint = .ok none) ∧
      ((∃ s ∈ spaces, s.outpoint = o.outpoint) ↔
        ∃ sp, getSpaceout o.outpoint = .ok (some sp) ∧ sp.space.isSome) := by
  obtain ⟨⟨spaceouts, coinouts⟩, hs, rfl⟩ := except_map_eq_ok.1 hu
  obtain ⟨⟨spaceouts', coinouts'⟩, hs', rfl⟩ := except_map_eq_ok.1 hl
  obtain ⟨-, hcos, -⟩ := getSpaceOutputs_spec getSpaceout hs
  obtain ⟨hread, -, hsps⟩ := getSpaceOutputs_spec getSpaceout hs'
  subst hcos hsps
  obtain ⟨r, hr⟩ := hread o ho
  constructor
  · simp only [List.mem_append, hcoins, or_false, List.mem_filter, ho, true_and, hr]
    cases r <;> simp
  · simp only [List.mem_filter, List.mem_filterMap]
    constructor
    · rintro ⟨s, ⟨⟨o', -, hs⟩, hspace⟩, hop⟩
      revert hs
      cases h' : getSpaceout o'.outpoint with
      | error => simp
      | ok r' =>
        cases r' with
        | none => simp
        | some sp => rintro ⟨⟩; exact ⟨sp, hop ▸ h', hspace⟩
    · rintro ⟨sp, hsp, hspace⟩
      exact ⟨⟨o.outpoint, sp⟩, ⟨⟨o, ho, by rw [hsp]⟩, hspace⟩, rfl⟩

/-- A coin, a space, and a spaceout without a space. -/
def walletOutputs : List LocalOutput :=
  [walletOutput 0 1000, walletOutput 1 662, walletOutput 2 330]

/-- The snapshot behind `walletOutputs`. -/
def walletSpaceout (outpoint : OutPoint) : Except AnyError (Option Spaceout) :=
  .ok (if outpoint.vout = 0 then none
    else if outpoint.vout = 1 then some ⟨some ⟨true, some 0⟩, "5120"⟩
    else some ⟨none, "5120"⟩)

theorem spaces_outputs_listed_spaceless :
    (walletOutput 2 330 ∈ [walletOutput 0 1000] ↔ walletSpaceout ⟨"t0", 2⟩ = .ok none) ∧
      ((∃ s ∈ [(⟨⟨"t0", 1⟩, ⟨some ⟨true, some 0⟩, "5120"⟩⟩ :
            FullSpaceOut Spaceout)],
          s.outpoint = ⟨"t0", 2⟩) ↔
        ∃ sp, walletSpaceout ⟨"t0", 2⟩ = .ok (some sp) ∧ sp.space.isSome) :=
  spaces_outputs_listed
    (show listUnspent walletSpaceout walletOutputs [] = .ok [walletOutput 0 1000] from rfl)
    (show listSpaces walletSpaceout walletOutputs =
      .ok [⟨⟨"t0", 1⟩, ⟨some ⟨true, some 0⟩, "5120"⟩⟩] from rfl)
    (by decide) (List.not_mem_nil _)

end Replies

/-! ## The joint balance -/

/-- BDK's four classes split the unspent outputs: their values add up to the value of all the
unspent outputs. -/
theorem balance_total (tip : Nat) (outputs : List LocalOutput) :
    (balance tip outputs).immature + (balance tip outputs).trustedPending +
        (balance tip outputs).untrustedPending + (balance tip outputs).confirmed =
      ((outputs.filter fun o => !o.isSpent).map (·.txout.value)).sum := by
  induction outputs with
  | nil => rfl
  | cons o l ih =>
    simp only [balance, classValue, List.filter_cons] at ih ⊢
    cases o.isSpent
    · cases o.balanceClass tip <;>
        simp only [Bool.not_false, Bool.true_and, beq_self_eq_true, reduceCtorEq, beq_iff_eq,
          if_true, if_false, List.map_cons, List.sum_cons] <;> omega
    · simpa only [Bool.not_true, Bool.false_and, Bool.false_eq_true, if_false] using ih

theorem amountSub_eq_ok {a b c : Nat} : amountSub a b = .ok c ↔ b ≤ a ∧ c = a - b := by
  unfold amountSub
  split <;> simp_all [eq_comm]

/-- Whenever `get_joint_balance` returns, its locked amounts are the spaces wallet's confirmed
and pending balances less the coin-value outputs, and its two totals and two locked amounts add
up to the value of the unspent outputs of both wallets. -/
theorem getJointBalance_amounts {S : Type} {getSpaceout : OutPoint → Except AnyError (Option S)}
    {tip : Nat} {spacesOutputs coinsOutputs : List LocalOutput} {spaceouts : List (FullSpaceOut S)}
    {coinouts : List LocalOutput} {jb : JointBalance}
    (hs : getSpaceOutputs getSpaceout spacesOutputs = .ok (spaceouts, coinouts))
    (h : getJointBalance getSpaceout tip spacesOutputs coinsOutputs = .ok jb) :
    jb.confirmed.locked + (coinValues coinouts).1 = (balance tip spacesOutputs).confirmed ∧
      jb.unconfirmed.locked + (coinValues coinouts).2 =
        (balance tip spacesOutputs).untrustedPending + (balance tip spacesOutputs).trustedPending ∧
      jb.confirmed.total + jb.confirmed.locked + jb.unconfirmed.total + jb.unconfirmed.locked =
        (((spacesOutputs ++ coinsOutputs).filter fun o => !o.isSpent).map (·.txout.value)).sum := by
  simp only [getJointBalance, hs, Outcome.bind_eq_ok, amountSub_eq_ok, Outcome.ok.injEq] at h
  obtain ⟨_, ⟨hle₁, rfl⟩, _, ⟨hle₂, rfl⟩, rfl⟩ := h
  have hsp := balance_total tip spacesOutputs
  have hco := balance_total tip coinsOutputs
  simp only [List.filter_append, List.map_append, List.sum_append]
  omega

/-- Over every pair of output lists and every snapshot at which `get_space_outputs` succeeds,
`get_joint_balance` never returns `Err`. It panics exactly when the confirmed coin-value outputs
are worth more than BDK's confirmed balance of the spaces wallet, which cannot happen when none
of them is an immature coinbase. Whenever it returns, `confirmed.locked` and
`unconfirmed.locked` are the spaces wallet's confirmed and pending balances less the coin-value
outputs, and the two totals and two locked amounts add up to the value of the unspent outputs of
both wallets. -/
theorem getJointBalance_spec {S : Type} {getSpaceout : OutPoint → Except AnyError (Option S)}
    {tip : Nat} {spacesOutputs : List LocalOutput} (coinsOutputs : List LocalOutput)
    {spaceouts : List (FullSpaceOut S)} {coinouts : List LocalOutput}
    (hs : getSpaceOutputs getSpaceout spacesOutputs = .ok (spaceouts, coinouts)) :
    (∀ e, getJointBalance getSpaceout tip spacesOutputs coinsOutputs ≠ .err e) ∧
    (getJointBalance getSpaceout tip spacesOutputs coinsOutputs = .panic ↔
      (balance tip spacesOutputs).confirmed < (coinValues coinouts).1) ∧
    ((∀ o ∈ coinouts, o.confirmationTime.isConfirmed = true → o.balanceClass tip ≠ .immature) →
      ∃ jb, getJointBalance getSpaceout tip spacesOutputs coinsOutputs = .ok jb) ∧
    (∀ jb, getJointBalance getSpaceout tip spacesOutputs coinsOutputs = .ok jb →
      jb.confirmed.locked + (coinValues coinouts).1 = (balance tip spacesOutputs).confirmed ∧
      jb.unconfirmed.locked + (coinValues coinouts).2 =
        (balance tip spacesOutputs).untrustedPending + (balance tip spacesOutputs).trustedPending ∧
      jb.confirmed.total + jb.confirmed.locked + jb.unconfirmed.total + jb.unconfirmed.locked =
        (((spacesOutputs ++ coinsOutputs).filter fun o => !o.isSpent).map (·.txout.value)).sum) := by
  refine ⟨fun e h => ?_, getJointBalance_panic_iff getSpaceout coinsOutputs hs,
    fun hm => (getJointBalance_ok getSpaceout coinsOutputs hs hm).imp fun _ h => h.1,
    fun jb h => getJointBalance_amounts hs h⟩
  simp only [getJointBalance, hs, amountSub] at h
  split_ifs at h <;> simp at h

/-- A 50 sat coinbase output of the spaces wallet's external keychain, mined at height 100. -/
def youngCoinbase : LocalOutput :=
  { walletOutput 0 50 with confirmationTime := .confirmed 100 0, isCoinbase := true }

/-- A 1000 sat space at `t0:1` beside `youngCoinbase`. -/
def coinbaseBeside : List LocalOutput := [walletOutput 1 1000, youngCoinbase]

/-- At tip 100, `get_joint_balance` returns: the coinbase's 50 sat are counted both as
spendable and as immature, and `locked` is short by as much, while the four amounts still add up
to the 1050 sat of the two outputs. -/
theorem getJointBalance_spec_coinbase :
    getJointBalance mixedSnapshot 100 coinbaseBeside [] = .ok ⟨⟨100, 50, 50, 950⟩, ⟨0, 0⟩⟩ ∧
      (getJointBalance mixedSnapshot 100 coinbaseBeside [] = .panic ↔
        (balance 100 coinbaseBeside).confirmed < (coinValues [youngCoinbase]).1) ∧
      (950 + (coinValues [youngCoinbase]).1 = (balance 100 coinbaseBeside).confirmed ∧
        0 + (coinValues [youngCoinbase]).2 = (balance 100 coinbaseBeside).untrustedPending +
          (balance 100 coinbaseBeside).trustedPending ∧
        100 + 950 + 0 + 0 = (((coinbaseBeside ++ []).filter fun (o : LocalOutput) => !o.isSpent).map
          fun (o : LocalOutput) => o.txout.value).sum) :=
  have hjb : getJointBalance mixedSnapshot 100 coinbaseBeside [] =
      .ok ⟨⟨100, 50, 50, 950⟩, ⟨0, 0⟩⟩ := rfl
  have h := getJointBalance_spec []
    (show getSpaceOutputs mixedSnapshot coinbaseBeside = .ok ([⟨⟨"t0", 1⟩, ()⟩], [youngCoinbase])
      from rfl)
  ⟨hjb, h.2.1, h.2.2.2 _ hjb⟩

end Spaced
