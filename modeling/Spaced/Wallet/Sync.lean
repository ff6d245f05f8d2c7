import Spaced.Wallet.Restore
import Spaced.Wallet.BatchTx

/-!
# The wallet sync actor: `RpcWallet::wallet_sync`

One iteration of the actor's loop checks, in order, the shutdown signal, the command channel and
the block channel:

* on shutdown it stops the fetcher and leaves the loop;
* a command is dispatched by `wallet_handle_commands`;
* a `Block(id, block)` event is applied with the current `wallet_tip` as connection point,
  `wallet_tip` moves to `id`, and the wallet is committed when `id.height % 12 == 0`;
* `Error(BlockMismatch)` restores `wallet_tip` (`restorePoint`) and restarts the fetcher there;
* any other error ends `wallet_sync` with that error.

The iteration is two steps, `poll` (the shutdown and command checks) and `recv` (the
`try_recv` on the block channel and the handling of the event), since the fetcher's threads run
between them. The restart of the fetcher is a step of its own (`ActorPc.restarting`). A ghost log
records, in order, the wallet calls and the restores.

## Main results

* `sinceCommit_calls`: the calls of a command handler never add to the blocks applied since the
  last commit.
* `mismatch_twice_panics`: a second mismatch before any block is applied makes the recovery
  subtract a checkpoint above `wallet_tip`, whenever the local chain has more than one checkpoint.
* `mismatch_twice_underflows` and `shutdown_leaves_uncommitted`: two runs, the second recovery
  panicking and a shutdown leaving an applied block uncommitted.
-/

namespace Spaced

variable {H : Type}

/-- `AddressKind`. -/
inductive AddressKind where
  | coin | space
  deriving DecidableEq, Repr

/-- A `WalletCommand`, with what its handler's calls to the node and the wallet end in. -/
inductive WalletCommand where
  | getInfo
  | batchTx (prepared : Outcome AnyError Unit) (items : List Item)
  | getNewAddress (kind : AddressKind)
  | bumpFee (txid : String) (run : FeeBumpRun)
  | listSpaces
  | listAuctionOutputs
  | listUnspent
  /-- `panics`: an `Amount` subtraction of `get_joint_balance` goes below zero. -/
  | getBalance (panics : Bool)
  | unloadWallet
  deriving DecidableEq, Repr

/-- What the actor did, in order (ghost). -/
inductive Did (H : Type) where
  /-- `apply_block_connected_to(height, &block, connected_to)`, with its success. -/
  | applyBlock (height : Nat) (block : Block H) (connectedTo : BlockId H) (ok : Bool)
  /-- A broadcast, `insert_tx` or `commit` call, with its success. -/
  | call (c : TxCall)
  /-- The mismatch recovery moved `wallet_tip` to `point`. -/
  | restore (point : BlockId H)
  deriving DecidableEq, Repr

/-- Where the actor stands. -/
inductive ActorPc (H : Type) where
  /-- At the top of its loop: the shutdown and command checks come next. -/
  | loop
  /-- `receiver.try_recv()` comes next. -/
  | receiving
  /-- Restored to `tip`: `fetcher.start(wallet_tip)` comes next. -/
  | restarting (tip : BlockId H)
  /-- `wallet_sync` returned `Ok(())` on the shutdown signal. -/
  | stopped
  /-- `wallet_sync` returned an error. -/
  | failed (e : AnyError)
  /-- The actor's thread panicked. -/
  | panicked
  deriving DecidableEq, Repr

/-- The statements at which `wallet_sync` is still running. -/
def ActorPc.live : ActorPc H → Bool
  | .loop | .receiving | .restarting _ => true
  | _ => false

/-- The state of `wallet_sync`. -/
structure Actor (H : Type) where
  walletTip : BlockId H
  /-- The coins wallet's local chain. -/
  chain : LocalChain H
  pc : ActorPc H
  /-- What the actor did, oldest first (ghost). -/
  log : List (Did H)

/-- What the wallet calls for a `Block` event end in. -/
structure Apply (H : Type) where
  /-- `apply_block_connected_to`: the local chain after it, or its error. -/
  apply : Except AnyError (LocalChain H)
  /-- `wallet.commit()`. -/
  commit : Except AnyError Unit

/-- An action of the actor. -/
inductive ActorAct (H : Type) where
  /-- `shutdown.try_recv()` and `commands.try_recv()`. -/
  | poll (shutdown : Bool) (command : Option WalletCommand)
  /-- `receiver.try_recv()`, receiving `ev`, and its handling. -/
  | recv (ev : Option (BlockEvent H)) (w : Apply H)
  /-- `fetcher.start(wallet_tip)` after a restore. -/
  | restart

/-! ## Commits -/

/-- One entry's effect on the count of blocks applied since the last successful commit, and on
whether `wallet_tip` has been restored since. -/
def countUncommitted : Nat × Bool → Did H → Nat × Bool
  | (n, r), .applyBlock _ _ _ true => (n + 1, r)
  | _, .call (.commit true) => (0, false)
  | (n, _), .restore _ => (n, true)
  | acc, _ => acc

/-- The blocks applied since the last successful commit, and whether `wallet_tip` has been
restored since. -/
def sinceCommit (log : List (Did H)) : Nat × Bool := log.foldl countUncommitted (0, false)

@[simp] theorem sinceCommit_nil : sinceCommit ([] : List (Did H)) = (0, false) := rfl

@[simp] theorem sinceCommit_append_single (log : List (Did H)) (d : Did H) :
    sinceCommit (log ++ [d]) = countUncommitted (sinceCommit log) d := by
  simp [sinceCommit]

/-- The calls of a command handler leave the count as it was, or reset it with a commit. -/
theorem sinceCommit_calls (log : List (Did H)) (calls : List TxCall) :
    sinceCommit (log ++ calls.map .call) = sinceCommit log ∨
      sinceCommit (log ++ calls.map .call) = (0, false) := by
  induction calls using List.reverseRecOn with
  | nil => simp
  | append_singleton calls c ih =>
    rw [List.map_append, ← List.append_assoc, List.map_singleton, sinceCommit_append_single]
    rcases c with _ | _ | (_ | _) <;> rcases ih with ih | ih <;> simp [ih, countUncommitted]

section Handlers

variable (feeRate : String → Option Nat) (debug : BitcoinRpcError → String)

/-- `wallet_handle_commands`: the calls the handler makes, or `none` when it panics. Only
`BatchTx` and `BumpFee` call the node and persist; the other handlers read the wallet. -/
def handleCommand : WalletCommand → Option (List TxCall)
  | .batchTx prepared items =>
    let r := batchTx feeRate debug prepared items
    if r.1 = .panic then none else some r.2
  | .bumpFee txid run =>
    let r := handleFeeBump txid run
    if r.1 = .panic then none else some r.2
  | .getBalance panics => if panics then none else some []
  | _ => some []

namespace Actor

/-- `wallet_sync` entered with a wallet whose coins chain is `chain`. -/
def init (chain : LocalChain H) : Actor H :=
  { walletTip := chain.tip, chain := chain, pc := .loop, log := [] }

/-- The shutdown and command checks. -/
def poll (a : Actor H) (shutdown : Bool) (command : Option WalletCommand) : Actor H :=
  if shutdown then { a with pc := .stopped }
  else
    match command.map (handleCommand feeRate debug) with
    | some none => { a with pc := .panicked }
    | some (some calls) => { a with log := a.log ++ calls.map .call, pc := .receiving }
    | none => { a with pc := .receiving }

/-- The `Block(id, block)` arm. -/
def applyBlock (a : Actor H) (w : Apply H) (id : BlockId H) (block : Block H) : Actor H :=
  match w.apply with
  | .error e =>
    { a with log := a.log ++ [.applyBlock id.height block a.walletTip false], pc := .failed e }
  | .ok chain =>
    let log := a.log ++ [.applyBlock id.height block a.walletTip true]
    if id.height % 12 = 0 then
      match w.commit with
      | .ok () =>
        { a with chain := chain, walletTip := id, log := log ++ [.call (.commit true)], pc := .loop }
      | .error e =>
        { a with chain := chain, walletTip := id, log := log ++ [.call (.commit false)],
                 pc := .failed e }
    else { a with chain := chain, walletTip := id, log := log, pc := .loop }

/-- The `Error(BlockMismatch)` arm: restore, or panic when the `u32` subtraction underflows. -/
def recover (a : Actor H) : Actor H :=
  match restorePoint a.walletTip a.chain with
  | some r => { a with walletTip := r, log := a.log ++ [.restore r], pc := .restarting r }
  | none => { a with pc := .panicked }

/-- The handling of a received event. -/
def receive (a : Actor H) (w : Apply H) : BlockEvent H → Actor H
  | .block id block => a.applyBlock w id block
  | .error .blockMismatch => a.recover
  | .error e => { a with pc := .failed (.fetch e) }

/-- The shutdown and command checks keep the wallet tip, add only calls to the log, and lead to
the `try_recv` unless the loop is left. -/
theorem poll_cases (a : Actor H) (shutdown : Bool) (command : Option WalletCommand) :
    (a.poll feeRate debug shutdown command).walletTip = a.walletTip ∧
      (∃ calls : List TxCall, (a.poll feeRate debug shutdown command).log = a.log ++ calls.map .call) ∧
      ((a.poll feeRate debug shutdown command).pc = .receiving ∨
        (a.poll feeRate debug shutdown command).pc = .stopped ∨
        (a.poll feeRate debug shutdown command).pc = .panicked) := by
  unfold poll
  split
  · exact ⟨rfl, ⟨[], by simp⟩, by simp⟩
  · split
    · exact ⟨rfl, ⟨[], by simp⟩, by simp⟩
    · exact ⟨rfl, ⟨_, rfl⟩, by simp⟩
    · exact ⟨rfl, ⟨[], by simp⟩, by simp⟩

/-- Applying a block logs the call, connected to the current wallet tip, and at most a commit.
Unless `wallet_sync` fails, the wallet tip moves to the block, and the blocks applied since the
last commit either grow by one at a height off a multiple of 12 or are committed. -/
theorem applyBlock_cases (a : Actor H) (w : Apply H) (id : BlockId H) (block : Block H) :
    (∃ (ok : Bool) (calls : List TxCall), (a.applyBlock w id block).log =
        a.log ++ .applyBlock id.height block a.walletTip ok :: calls.map .call) ∧
      ((∃ e, (a.applyBlock w id block).pc = .failed e) ∨
        ((a.applyBlock w id block).pc = .loop ∧ (a.applyBlock w id block).walletTip = id ∧
          (sinceCommit (a.applyBlock w id block).log = (0, false) ∨
            (id.height % 12 ≠ 0 ∧ sinceCommit (a.applyBlock w id block).log =
              ((sinceCommit a.log).1 + 1, (sinceCommit a.log).2))))) := by
  unfold applyBlock
  split
  · exact ⟨⟨false, [], by simp⟩, .inl ⟨_, rfl⟩⟩
  · split_ifs with hmod
    · split
      · exact ⟨⟨true, [.commit true], by simp⟩,
          .inr ⟨rfl, rfl, .inl (by simp [sinceCommit, countUncommitted])⟩⟩
      · exact ⟨⟨true, [.commit false], by simp⟩, .inl ⟨_, rfl⟩⟩
    · exact ⟨⟨true, [], by simp⟩, .inr ⟨rfl, rfl, .inr ⟨hmod, by simp [countUncommitted]⟩⟩⟩

theorem recover_cases (a : Actor H) :
    (∃ r, a.recover = { a with walletTip := r, log := a.log ++ [.restore r], pc := .restarting r }) ∨
      a.recover = { a with pc := .panicked } := by
  unfold recover
  split
  · exact .inl ⟨_, rfl⟩
  · exact .inr rfl

variable [DecidableEq H]

/-- One action of the actor. -/
def step (a : Actor H) : ActorAct H → Option (Actor H)
  | .poll shutdown command =>
    if a.pc = .loop then some (a.poll feeRate debug shutdown command) else none
  | .recv ev w =>
    if a.pc = .receiving then
      some (match ev with
        | some e => a.receive w e
        | none => { a with pc := .loop })
    else none
  | .restart =>
    match a.pc with
    | .restarting _ => some { a with pc := .loop }
    | _ => none

/-- The actions `acts`, one after another. -/
def run (a : Actor H) : List (ActorAct H) → Option (Actor H)
  | [] => some a
  | act :: acts => (a.step feeRate debug act).bind fun a' => run a' acts

end Actor

end Handlers

/-! ## Two mismatches in a row -/

namespace Actor

variable (feeRate : String → Option Nat) (debug : BitcoinRpcError → String) [DecidableEq H]

/-- From the loop top, at the tip of a local chain with more than one checkpoint, two mismatches
with no block between: the first recovery restores `wallet_tip` below the tip and leaves the
local chain as it was, and the second subtracts the chain's tip from the lower `wallet_tip` and
panics. -/
theorem mismatch_twice_panics (a : Actor H) (hpc : a.pc = .loop)
    (htip : a.walletTip = a.chain.tip) (hlen : a.chain.tip ≠ a.chain.oldest) (w w' : Apply H) :
    ∃ r, restorePoint a.walletTip a.chain = some r ∧ r.height < a.walletTip.height ∧
      a.run feeRate debug [.poll false none, .recv (some (.error .blockMismatch)) w, .restart,
        .poll false none, .recv (some (.error .blockMismatch)) w'] =
        some { a with walletTip := r, log := a.log ++ [.restore r], pc := .panicked } := by
  obtain ⟨c, cs, hc⟩ := List.exists_cons_of_ne_nil a.chain.nonempty
  have htc : a.chain.tip = c := by simp [LocalChain.tip, hc]
  have hsorted := hc ▸ a.chain.sorted
  have hle : ∀ x ∈ a.chain.checkpoints, x.height ≤ a.walletTip.height := fun x hx => by
    rw [htip, htc]
    rcases List.mem_cons.1 (hc ▸ hx) with rfl | hx
    · exact le_rfl
    · exact (List.rel_of_pairwise_cons hsorted hx).le
  obtain ⟨r, hr, hrs⟩ := restorePoint_spec a.walletTip a.chain hle
  -- the restore point lies strictly below the tip
  have hlow : r.height < c.height := by
    rcases hrs with ⟨-, h, -⟩ | ⟨-, rfl⟩
    · rw [htip, htc] at h; omega
    · have hmem : a.chain.oldest ∈ a.chain.checkpoints := List.getLast_mem _
      rw [hc] at hmem
      rcases List.mem_cons.1 hmem with h | h
      · exact absurd (htc.trans h.symm) hlen
      · exact List.rel_of_pairwise_cons hsorted h
  have hsecond : restorePoint r a.chain = none := by
    simp [restorePoint, findRestore, hc, u32Sub, Nat.not_le.2 hlow]
  refine ⟨r, hr, htip ▸ htc ▸ hlow, ?_⟩
  simp only [run, step, hpc, ↓reduceIte, poll, Bool.false_eq_true, Option.map_none', receive,
    recover, Option.bind_some, Option.some_bind, hr, hsecond]

end Actor

/-- A chain at heights 100, 87 and 0. -/
def thirteenBelow : LocalChain Nat where
  checkpoints := [⟨100, 1⟩, ⟨87, 2⟩, ⟨0, 3⟩]
  nonempty := by decide
  sorted := by decide

/-- The outcome of the wallet calls of an event that no wallet call reads. -/
def noApply : Apply Nat := ⟨.error (.msg "unused"), .ok ()⟩

/-- Two mismatches with no block between: the first recovery restores `wallet_tip` to 87 and
leaves the local chain's tip at 100; the second evaluates `87 - 100` on `u32` and panics. -/
theorem mismatch_twice_underflows :
    ((Actor.init thirteenBelow).run (fun _ => none) (fun _ => "")
        [.poll false none, .recv (some (.error .blockMismatch)) noApply, .restart,
         .poll false none, .recv (some (.error .blockMismatch)) noApply]).map
        (fun a => (a.walletTip, a.pc, a.log)) =
      some (⟨87, 2⟩, .panicked, [.restore ⟨87, 2⟩]) ∧
      thirteenBelow.tip = ⟨100, 1⟩ ∧ 87 < 100 := by
  obtain ⟨r, hr, -, hrun⟩ := Actor.mismatch_twice_panics (fun _ => none) (fun _ => "")
    (Actor.init thirteenBelow) rfl rfl (by decide) noApply noApply
  obtain rfl : r = ⟨87, 2⟩ := (Option.some.inj hr).symm
  exact ⟨by rw [hrun]; rfl, rfl, by norm_num⟩

/-- The block applied at 101 before the shutdown signal is never committed. -/
theorem shutdown_leaves_uncommitted :
    ((Actor.init thirteenBelow).run (fun _ => none) (fun _ => "")
        [.poll false none, .recv (some (.block ⟨101, 4⟩ ⟨1⟩)) ⟨.ok thirteenBelow, .ok ()⟩,
         .poll true none]).map (fun a => (a.walletTip, a.pc, a.log)) =
      some (⟨101, 4⟩, .stopped, [.applyBlock 101 ⟨1⟩ ⟨100, 1⟩ true]) ∧
      sinceCommit [Did.applyBlock 101 ⟨1⟩ ⟨100, 1⟩ true] = (1, false) := by
  decide

end Spaced
