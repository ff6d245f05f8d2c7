import Spaced.System.Model

/-!
# What the actor receives: blocks that continue its wallet tip

The invariant of the wallet sync, `WalletSync.Inv`, says where every event the actor takes comes
from. While the actor takes events, every supervisor but the newest has retired, and the newest
feeds it (`Supervisor.Feeds`): its log is the events the actor took, a chain of blocks from the
block the supervisor was started at to the actor's `wallet_tip`, followed by what the channel
holds. A mismatch error is the last event of its supervisor, so once the actor has restored, the
channel is empty and every supervisor has retired; the restart's new supervisor starts a feed
afresh at the restored tip.

The invariant reads the supervisors through `Supervisor.Inv`, which holds of every reachable
fetcher, and the wallet sync's fetcher is one (`reachable_fetcher`).

## Main results

* `Supervisor.Feeds.take`: the event at the channel's head is a block continuing the wallet tip,
  or the newest supervisor's last event.
* `inv_step`, `inv_reachable`: the invariant holds in every reachable state.
* `applied_blocks_connect`: every block the actor applies is one height above the wallet tip it
  is connected to and has its hash as parent; the channel holds only the newest supervisor's
  events; and after a restore, nothing of the old generations is left or will be sent.
* `uncommitted_below_twelve`: with no restore since the last commit, at most
  `wallet_tip.height % 12` blocks, so fewer than 12, have been applied since it;
  `uncommitted_across_restore` runs the wallet sync through a restore to fifteen uncommitted
  blocks.
-/

namespace Spaced

variable {H : Type}

/-! ## Chains, split and read back -/

namespace Chain

variable {p q q' : BlockId H} {l : List (Sent H)}

/-- A chain splits at any point of its list. -/
theorem split {l₁ l₂ : List (Sent H)} (h : Chain p (l₁ ++ l₂) q) :
    ∃ m, Chain p l₁ m ∧ Chain m l₂ q := by
  induction l₁ generalizing p with
  | nil => exact ⟨p, .nil p, h⟩
  | cons x l₁ ih =>
    rw [List.cons_append] at h
    generalize hl : x :: (l₁ ++ l₂) = l at h
    cases h with
    | nil => cases hl
    | error _ e =>
      simp only [List.cons.injEq, List.append_eq_nil] at hl
      obtain ⟨rfl, rfl, rfl⟩ := hl
      exact ⟨_, .error _ e, .nil _⟩
    | block h₁ h₂ h₃ hr =>
      simp only [List.cons.injEq] at hl
      obtain ⟨rfl, rfl⟩ := hl
      obtain ⟨m, hm, hm'⟩ := ih hr
      exact ⟨m, .block h₁ h₂ h₃ hm, hm'⟩

/-- A chain's end is fixed by its start and its events. -/
theorem unique (h : Chain p l q) (h' : Chain p l q') : q = q' := by
  induction h with
  | nil => cases h'; rfl
  | error => cases h'; rfl
  | block _ _ _ _ ih => cases h' with | block _ _ _ hr => exact ih hr

theorem block_inv {id : BlockId H} {b : Block H} {tip : Nat}
    (h : Chain p (.block id b tip :: l) q) :
    id.height = p.height + 1 ∧ b.prevBlockhash = p.hash ∧ id.height ≤ tip ∧ Chain id l q := by
  cases h with
  | block h₁ h₂ h₃ h => exact ⟨h₁, h₂, h₃, h⟩

/-- Nothing follows an error. -/
theorem error_inv {e : BlockFetchError} (h : Chain p (.error e :: l) q) : l = [] := by
  cases h; rfl

end Chain

/-! ## Retired supervisors and the newest one -/

namespace Supervisor

/-- Past its last send: at most the final increment of `job_id` is left. -/
def Retired (s : Supervisor H) : Prop := s.pc = .bump ∨ s.pc = .done

/-- The supervisor `s` feeds an actor at `tip` through a channel holding `chan`: its log is the
events the actor took, a chain of blocks from its origin to `tip`, then the channel's contents. -/
def Feeds (s : Supervisor H) (tip : BlockId H) (chan : List (BlockEvent H)) : Prop :=
  ∃ taken pending, s.sent = taken ++ pending ∧ pending.map Sent.event = chan ∧
    (∀ e, Sent.error e ∉ taken) ∧ Chain s.origin taken tip

theorem feeds_spawn (b : BlockId H) : (spawn b).Feeds b [] :=
  ⟨[], [], rfl, rfl, by simp, .nil b⟩

/-- What a supervisor sends goes on its feed. -/
theorem Feeds.append {s s' : Supervisor H} {tip : BlockId H} {chan : List (BlockEvent H)}
    (hs : s.Feeds tip chan) (ho : s'.origin = s.origin) {new : List (Sent H)}
    (hsent : s'.sent = s.sent ++ new) : s'.Feeds tip (chan ++ new.map Sent.event) := by
  obtain ⟨taken, pending, h₁, h₂, h₃, h₄⟩ := hs
  exact ⟨taken, pending ++ new, by rw [hsent, h₁, List.append_assoc], by simp [h₂], h₃, ho ▸ h₄⟩

/-- The event at the head of the channel is a block one above the wallet tip with its hash as
parent, and the feed goes on from that block; or it is an error, the supervisor's last event. -/
theorem Feeds.take {s : Supervisor H} {tip : BlockId H} {e : BlockEvent H}
    {rest : List (BlockEvent H)} (hi : s.Inv) (hs : s.Feeds tip (e :: rest)) :
    (∃ id b, e = .block id b ∧ id.height = tip.height + 1 ∧ b.prevBlockhash = tip.hash ∧
        s.Feeds id rest) ∨
      (∃ err, e = .error err ∧ rest = [] ∧ s.Retired) := by
  obtain ⟨taken, pending, hsent, hmap, hne, hch⟩ := hs
  obtain ⟨x, pending, rfl, rfl, rfl⟩ := List.map_eq_cons_iff.1 hmap
  obtain ⟨q, hq, -⟩ := hi.chain
  rw [hsent] at hq
  obtain ⟨m, hm, hm'⟩ := hq.split
  obtain rfl := hm.unique hch
  rcases x with ⟨id, b, t⟩ | err
  · obtain ⟨h₁, h₂, h₃, -⟩ := hm'.block_inv
    refine .inl ⟨id, b, rfl, h₁, h₂, taken ++ [.block id b t], pending, by simp [hsent], rfl,
      fun e he => ?_, hch.append_block hne h₁ h₂ h₃⟩
    simp only [List.mem_append, List.mem_singleton, reduceCtorEq, or_false] at he
    exact hne e he
  · refine .inr ⟨err, rfl, by simp [hm'.error_inv], hi.error_last err ?_⟩
    simp [hsent]

variable [DecidableEq H]

/-- A retired supervisor stays retired and sends nothing. -/
theorem Retired.step {sh sh' : Shared H} {s s' : Supervisor H} {a : SupAct H} (hs : s.Retired)
    (h : s.step sh a = some (sh', s')) : s'.Retired ∧ sh'.chan = sh.chan := by
  obtain ⟨hsent, hpc⟩ := step_of_retiring hs h
  obtain ⟨-, new, hnew, hchan⟩ := step_chan h
  obtain rfl : new = [] := by simpa [hsent] using hnew
  exact ⟨.inr hpc, by simpa using hchan⟩

end Supervisor

/-! ## The invariant -/

namespace WalletSync

/-- The wallet sync invariant. -/
structure Inv (w : WalletSync H) : Prop where
  /-- While the actor takes events, every supervisor but the newest has retired, and the newest
  feeds the actor. -/
  feed : w.actor.pc = .loop ∨ w.actor.pc = .receiving →
    ∃ old s, w.fetcher.sups = old ++ [s] ∧ (∀ t ∈ old, t.Retired) ∧
      s.Feeds w.actor.walletTip w.fetcher.shared.chan
  /-- Between a restore and the restart, the channel is empty and every supervisor has
  retired. -/
  restart : ∀ r, w.actor.pc = .restarting r →
    w.fetcher.shared.chan = [] ∧ ∀ t ∈ w.fetcher.sups, t.Retired
  /-- Every block the actor applied continues the wallet tip it was connected to. -/
  applied : ∀ h b c ok, Did.applyBlock h b c ok ∈ w.actor.log →
    h = c.height + 1 ∧ b.prevBlockhash = c.hash
  /-- With no restore since the last commit, at most `wallet_tip.height % 12` blocks were
  applied since it. -/
  commit : w.actor.pc.live ∨ w.actor.pc = .stopped → (sinceCommit w.actor.log).2 = false →
    (sinceCommit w.actor.log).1 ≤ w.actor.walletTip.height % 12

theorem inv_init (chain : LocalChain H) : (init chain).Inv where
  feed _ := ⟨[], _, rfl, by simp, Supervisor.feeds_spawn _⟩
  restart r h := by cases h
  applied := by simp [init, Actor.init]
  commit _ _ := by simp [init, Actor.init]

/-- Calls added to the log keep every applied block as it was. -/
theorem applied_calls {log : List (Did H)} (calls : List TxCall)
    (h : ∀ h b c ok, Did.applyBlock h b c ok ∈ log → h = c.height + 1 ∧ b.prevBlockhash = c.hash) :
    ∀ h b c ok, Did.applyBlock h b c ok ∈ log ++ calls.map .call →
      h = c.height + 1 ∧ b.prevBlockhash = c.hash := by
  intro h' b c ok hm
  rcases List.mem_append.1 hm with hm | hm
  · exact h h' b c ok hm
  · simp at hm

/-- Once `wallet_sync` has failed or panicked, only the blocks it applied are left to check. -/
theorem inv_of_ended {w : WalletSync H} (hpc : w.actor.pc = .panicked ∨ ∃ e, w.actor.pc = .failed e)
    (happlied : ∀ h b c ok, Did.applyBlock h b c ok ∈ w.actor.log →
      h = c.height + 1 ∧ b.prevBlockhash = c.hash) : w.Inv where
  feed h := by rcases hpc with hp | ⟨e, hp⟩ <;> simp [hp] at h
  restart r h := by rcases hpc with hp | ⟨e, hp⟩ <;> simp [hp] at h
  applied := happlied
  commit h := by rcases hpc with hp | ⟨e, hp⟩ <;> simp [hp, ActorPc.live] at h

variable (feeRate : String → Option Nat) (debug : BitcoinRpcError → String) [DecidableEq H]
variable {w w' : WalletSync H}

theorem inv_fetch {k : Nat} {a : SupAct H} (hi : w.Inv)
    (h : w.step feeRate debug (.fetch k a) = some w') : w'.Inv := by
  obtain ⟨f, hf, rfl⟩ := Option.map_eq_some'.1 h
  obtain ⟨s, sh, s', hs, hst, rfl⟩ := BlockFetcher.step_sup hf
  have hlen : k < w.fetcher.sups.length := (List.getElem?_eq_some_iff.1 hs).1
  -- a retired supervisor's step changes neither the channel nor who has retired
  have retired (hr : s.Retired) (rs : List (Supervisor H)) (hrs : ∀ t ∈ rs, t.Retired) :
      sh.chan = w.fetcher.shared.chan ∧ ∀ t ∈ rs.set k s', t.Retired := by
    obtain ⟨hr', hchan⟩ := hr.step hst
    exact ⟨hchan, fun t ht => (List.mem_or_eq_of_mem_set ht).elim (hrs t) (· ▸ hr')⟩
  refine ⟨fun hpc => ?_, fun r hpc => ?_, hi.applied, hi.commit⟩
  · obtain ⟨old, s₀, hsups, hold, hfeed⟩ := hi.feed hpc
    rw [hsups] at hs hlen ⊢
    by_cases hk : k < old.length
    · rw [List.getElem?_append_left hk] at hs
      obtain ⟨hchan, hold'⟩ := retired (hold s (List.getElem?_mem hs)) old hold
      exact ⟨old.set k s', s₀, List.set_append_left _ _ hk, hold', hchan ▸ hfeed⟩
    · have hk' : k = old.length := by simp at hlen; omega
      subst hk'
      obtain rfl : s₀ = s := by simpa using hs
      obtain ⟨ho, new, hsent, hchan⟩ := Supervisor.step_chan hst
      exact ⟨old, s', by simp, hold, hchan ▸ hfeed.append ho hsent⟩
  · obtain ⟨hchan, hall⟩ := hi.restart r hpc
    obtain ⟨hchan', hall'⟩ := retired (hall s (List.getElem?_mem hs)) _ hall
    exact ⟨hchan'.trans hchan, hall'⟩

theorem inv_poll {shutdown : Bool} {command : Option WalletCommand} (hi : w.Inv)
    (h : w.step feeRate debug (.poll shutdown command) = some w') : w'.Inv := by
  obtain ⟨hpc, ha, hsups, hchan⟩ := step_poll feeRate debug h
  obtain ⟨htip, ⟨calls, hlog⟩, hpc'⟩ := Actor.poll_cases feeRate debug w.actor shutdown command
  rw [← ha] at htip hlog hpc'
  refine ⟨fun _ => ?_, fun r h => ?_, by simpa [hlog] using applied_calls calls hi.applied,
    fun _ hnr => ?_⟩
  · obtain ⟨old, s, h₁, h₂, h₃⟩ := hi.feed (.inl hpc)
    exact ⟨old, s, hsups.trans h₁, h₂, by rwa [htip, hchan]⟩
  · rcases hpc' with h' | h' | h' <;> simp [h'] at h
  · simp only [hlog, htip] at hnr ⊢
    rcases sinceCommit_calls w.actor.log calls with hc | hc <;> rw [hc] at hnr ⊢
    · exact hi.commit (by simp [hpc, ActorPc.live]) hnr
    · exact Nat.zero_le _

theorem inv_recv {ap : Apply H} (hf : w.fetcher.Inv) (hi : w.Inv)
    (h : w.step feeRate debug (.recv ap) = some w') : w'.Inv := by
  rcases w' with ⟨f', a'⟩
  obtain ⟨hpc, hsups', ⟨hchan, rfl, hchan'⟩ | ⟨e, rest, hchan, rfl, hchan'⟩⟩ :=
    step_recv feeRate debug h
  · obtain ⟨old, s, hsups, hold, hfeed⟩ := hi.feed (.inr hpc)
    refine ⟨fun _ => ⟨old, s, hsups'.trans hsups, hold, ?_⟩, fun r h => (by cases h), hi.applied,
      fun _ => hi.commit (by simp [hpc, ActorPc.live])⟩
    rwa [hchan', ← hchan]
  obtain ⟨old, s, hsups, hold, hfeed⟩ := hi.feed (.inr hpc)
  have hs : s.Inv := hf s (by simp [hsups])
  rw [hchan] at hfeed
  dsimp only at hsups' hchan' ⊢
  rcases hfeed.take hs with ⟨id, b, rfl, h₁, h₂, hfeed'⟩ | ⟨err, rfl, rfl, hret⟩
  · obtain ⟨⟨ok, calls, hlog⟩, hend⟩ := Actor.applyBlock_cases w.actor ap id b
    have happlied : ∀ h b' c ok, Did.applyBlock h b' c ok ∈ (w.actor.applyBlock ap id b).log →
        h = c.height + 1 ∧ b'.prevBlockhash = c.hash := by
      intro h' b' c ok' hm
      simp only [hlog, List.mem_append, List.mem_cons, Did.applyBlock.injEq, List.mem_map,
        reduceCtorEq, and_false, exists_false, or_false] at hm
      rcases hm with hm | ⟨rfl, rfl, rfl, -⟩
      · exact hi.applied h' b' c ok' hm
      · exact ⟨h₁, h₂⟩
    rcases hend with ⟨err, hpc'⟩ | ⟨hpc', htip, hc⟩
    · exact inv_of_ended (.inr ⟨err, hpc'⟩) happlied
    · refine ⟨fun _ => ⟨old, s, hsups'.trans hsups, hold, ?_⟩, fun r h => ?_, happlied,
        fun _ hnr => ?_⟩
      · simpa [Actor.receive, htip, hchan'] using hfeed'
      · simp [Actor.receive, hpc'] at h
      · simp only [Actor.receive, htip] at hnr ⊢
        rcases hc with hc | ⟨hmod, hc⟩ <;> rw [hc] at hnr ⊢
        · exact Nat.zero_le _
        · have := hi.commit (by simp [hpc, ActorPc.live]) hnr
          omega
  · cases err with
    | blockMismatch =>
      rcases Actor.recover_cases w.actor with ⟨r, hr⟩ | hr
      · have hall : ∀ t ∈ f'.sups, t.Retired := by
          rw [hsups', hsups]
          exact List.forall_mem_append.2 ⟨hold, List.forall_mem_singleton.2 hret⟩
        refine ⟨fun h => ?_, fun r' _ => ⟨hchan', hall⟩, ?_, fun _ hnr => ?_⟩
        · simp [Actor.receive, hr] at h
        · simpa [Actor.receive, hr] using applied_calls [] hi.applied
        · simp [Actor.receive, hr, countUncommitted] at hnr
      · exact inv_of_ended (.inl (by simp [Actor.receive, hr]))
          (by simpa [Actor.receive, hr] using hi.applied)
    | rpcError e => exact inv_of_ended (.inr ⟨_, rfl⟩) hi.applied
    | channelClosed => exact inv_of_ended (.inr ⟨_, rfl⟩) hi.applied

theorem inv_restart (hi : w.Inv) (h : w.step feeRate debug .restart = some w') : w'.Inv := by
  rcases w' with ⟨f', a'⟩
  obtain ⟨⟨r, hpc⟩, rfl, rfl⟩ := step_restart feeRate debug h
  obtain ⟨hchan, hall⟩ := hi.restart r hpc
  refine ⟨fun _ => ⟨w.fetcher.sups, _, rfl, hall, ?_⟩, fun r h => (by cases h), hi.applied,
    fun _ => hi.commit (by simp [hpc, ActorPc.live])⟩
  simpa [BlockFetcher.start, BlockFetcher.stop, hchan] using Supervisor.feeds_spawn w.actor.walletTip

theorem inv_step {act : SyncAct H} (hf : w.fetcher.Inv) (hi : w.Inv)
    (h : w.step feeRate debug act = some w') : w'.Inv := by
  cases act with
  | fetch k a => exact inv_fetch feeRate debug hi h
  | poll shutdown command => exact inv_poll feeRate debug hi h
  | recv ap => exact inv_recv feeRate debug hf hi h
  | restart => exact inv_restart feeRate debug hi h

theorem inv_reachable (hw : Reachable feeRate debug w) : w.Inv := by
  induction hw with
  | init chain => exact inv_init chain
  | step _ hw h ih =>
    exact inv_step feeRate debug (BlockFetcher.inv_reachable (reachable_fetcher feeRate debug hw)) ih h

/-! ## A run across a restore

Every height's block has the height as its hash and the height below as its parent. The first
generation sends 101 to 107 and the actor applies them; the node then reports a tip of 108,
whose block names `999` as its parent, so the batch reports a mismatch; the actor restores to 87
and restarts the fetcher, and the new generation sends 88 to 95, which the actor applies. The
wallet calls succeed, leaving the local chain at `hashedChain`: the checkpoints BDK would add
above 100 are within 12 blocks of 107 and do not change the restore point. -/

/-- A local chain at heights 100, 87 and 0, each hash the height. -/
def hashedChain : LocalChain Nat where
  checkpoints := [⟨100, 100⟩, ⟨87, 87⟩, ⟨0, 0⟩]
  nonempty := by decide
  sorted := by decide

/-- The batch of supervisor `k` hands on block `h`: the job delivers it and ends, and
`run_workers` takes it in, sends it, and comes back to its loop; after the `last` block it
returns. -/
def sendBlock (k h : Nat) (last : Bool) : List (SyncAct Nat) :=
  [.fetch k (.pool (.deliver h)), .fetch k (.pool (.finish h))] ++
    List.replicate (if last then 7 else 9) (.fetch k .advance)

/-- Supervisor `k`, at its loop top, asks for the tip, opens a batch to `tip`, queues `heights`,
has the pool fetch them, and sends them in order. -/
def batchRun (k tip : Nat) (heights : List Nat) : List (SyncAct Nat) :=
  [.fetch k .advance, .fetch k (.count (.ok tip))] ++
    List.replicate (heights.length + 3) (.fetch k .advance) ++
    heights.map (fun _ => .fetch k (.pool .pickup)) ++
    heights.map (fun h => .fetch k (.pool (.work h (.ok (h, ⟨h - 1⟩))))) ++
    (heights.dropLast.flatMap fun h => sendBlock k h false) ++
    heights.getLast?.toList.flatMap fun h => sendBlock k h true

/-- The actor takes `n` blocks off the channel and applies them. -/
def applyBlocks (n : Nat) : List (SyncAct Nat) :=
  (List.replicate n [.poll false none, .recv ⟨.ok hashedChain, .ok ()⟩]).flatten

/-- The first generation sends 101 to 107, and the actor applies them. -/
def sevenApplied : List (SyncAct Nat) :=
  .fetch 0 .advance :: batchRun 0 107 (List.range' 101 7) ++ applyBlocks 7

/-- Then the mismatch at 108, the restore to 87 and the restart, and 88 to 95. -/
def acrossRestore : List (SyncAct Nat) :=
  sevenApplied ++
    [.fetch 0 .advance, .fetch 0 (.count (.ok 108))] ++ List.replicate 4 (.fetch 0 .advance) ++
    [.fetch 0 (.pool .pickup), .fetch 0 (.pool (.work 108 (.ok (108, ⟨999⟩)))),
     .fetch 0 (.pool (.deliver 108)), .fetch 0 (.pool (.finish 108))] ++
    List.replicate 6 (.fetch 0 .advance) ++
    [.poll false none, .recv noApply, .restart] ++
    .fetch 1 .advance :: batchRun 1 95 (List.range' 88 8) ++ applyBlocks 8

/-- The log entry of the block at `h` applied on the block below it. -/
def appliedAt (h : Nat) : Did Nat := .applyBlock h ⟨h - 1⟩ ⟨h - 1, h - 1⟩ true

theorem sevenApplied_run :
    ∃ w, (init hashedChain).run (fun _ => none) (fun _ => "") sevenApplied = some w ∧
      w.actor.pc = .loop ∧ w.actor.walletTip = ⟨107, 107⟩ ∧
      w.actor.log = (List.range' 101 7).map appliedAt := by
  have h : ((init hashedChain).run (fun _ => none) (fun _ => "") sevenApplied).map
      (fun w => (w.actor.pc, w.actor.walletTip, w.actor.log)) =
      some (.loop, ⟨107, 107⟩, (List.range' 101 7).map appliedAt) := by
    rfl
  obtain ⟨w, hw, hsum⟩ := Option.map_eq_some'.1 h
  simp only [Prod.mk.injEq] at hsum
  exact ⟨w, hw, hsum⟩

set_option maxRecDepth 2000 in
theorem acrossRestore_run :
    ∃ w, (init hashedChain).run (fun _ => none) (fun _ => "") acrossRestore = some w ∧
      w.actor.pc = .loop ∧ w.actor.walletTip = ⟨95, 95⟩ ∧
      w.actor.log = (List.range' 101 7).map appliedAt ++
        .restore ⟨87, 87⟩ :: (List.range' 88 8).map appliedAt := by
  have h : ((init hashedChain).run (fun _ => none) (fun _ => "") acrossRestore).map
      (fun w => (w.actor.pc, w.actor.walletTip, w.actor.log)) =
      some (.loop, ⟨95, 95⟩, (List.range' 101 7).map appliedAt ++
        .restore ⟨87, 87⟩ :: (List.range' 88 8).map appliedAt) := by
    rfl
  obtain ⟨w, hw, hsum⟩ := Option.map_eq_some'.1 h
  simp only [Prod.mk.injEq] at hsum
  exact ⟨w, hw, hsum⟩

/-! ## The blocks the actor applies -/

/-- Under every interleaving of the actor with every supervisor and batch thread of every
generation, across any number of restarts: every block the actor applies has the height one
above the wallet tip it is connected to and that tip's hash as parent. While the actor takes
events, the channel holds only a tail of the newest supervisor's log, every older supervisor
having retired; and once the actor has restored its wallet tip, the channel is empty and every
supervisor has retired, so no event of the generation that reported the mismatch reaches it. -/
theorem applied_blocks_connect (hw : Reachable feeRate debug w) :
    (∀ h b c ok, Did.applyBlock h b c ok ∈ w.actor.log →
      h = c.height + 1 ∧ b.prevBlockhash = c.hash) ∧
    (w.actor.pc = .loop ∨ w.actor.pc = .receiving →
      ∃ old s, w.fetcher.sups = old ++ [s] ∧ (∀ t ∈ old, t.pc = .bump ∨ t.pc = .done) ∧
        ∃ pending, pending <:+ s.sent ∧ w.fetcher.shared.chan = pending.map Sent.event) ∧
    (∀ r, w.actor.pc = .restarting r →
      w.fetcher.shared.chan = [] ∧ ∀ t ∈ w.fetcher.sups, t.pc = .bump ∨ t.pc = .done) := by
  have hi := inv_reachable feeRate debug hw
  refine ⟨hi.applied, fun hpc => ?_, hi.restart⟩
  obtain ⟨old, s, hsups, hold, taken, pending, hsent, hmap, -, -⟩ := hi.feed hpc
  exact ⟨old, s, hsups, hold, pending, hsent ▸ List.suffix_append taken pending, hmap.symm⟩

/-- At the end of the run across a restore, the actor has applied fifteen blocks on both sides of
the restore, each on the wallet tip it held. -/
theorem applied_blocks_connect_restored :
    ∃ w, (init hashedChain).run (fun _ => none) (fun _ => "") acrossRestore = some w ∧
      w.actor.log = (List.range' 101 7).map appliedAt ++
        .restore ⟨87, 87⟩ :: (List.range' 88 8).map appliedAt ∧
      ∀ h b c ok, Did.applyBlock h b c ok ∈ w.actor.log →
        h = c.height + 1 ∧ b.prevBlockhash = c.hash := by
  obtain ⟨w, hw, -, -, hlog⟩ := acrossRestore_run
  exact ⟨w, hw, hlog,
    (applied_blocks_connect (fun _ => none) (fun _ => "") (reachable_run _ _ (.init _) hw)).1⟩

/-- While `wallet_sync` runs, and after it has left its loop on shutdown: with no restore since
the last successful commit, the blocks applied since that commit number at most
`wallet_tip.height % 12`, so fewer than 12. -/
theorem uncommitted_below_twelve (hw : Reachable feeRate debug w)
    (hrun : w.actor.pc.live ∨ w.actor.pc = .stopped) (hnr : (sinceCommit w.actor.log).2 = false) :
    (sinceCommit w.actor.log).1 ≤ w.actor.walletTip.height % 12 ∧
      (sinceCommit w.actor.log).1 < 12 := by
  have h := (inv_reachable feeRate debug hw).commit hrun hnr
  exact ⟨h, h.trans_lt (Nat.mod_lt _ (by norm_num))⟩

/-- After the first generation's seven blocks, seven blocks are uncommitted, as many as
`107 % 12` allows. -/
theorem uncommitted_below_twelve_seven :
    ∃ w, (init hashedChain).run (fun _ => none) (fun _ => "") sevenApplied = some w ∧
      w.actor.log = (List.range' 101 7).map appliedAt ∧
      (sinceCommit w.actor.log).1 ≤ w.actor.walletTip.height % 12 ∧
      (sinceCommit w.actor.log).1 < 12 := by
  obtain ⟨w, hw, hpc, -, hlog⟩ := sevenApplied_run
  exact ⟨w, hw, hlog, uncommitted_below_twelve (fun _ => none) (fun _ => "")
    (reachable_run _ _ (.init _) hw) (.inl (by rw [hpc]; rfl)) (by rw [hlog]; rfl)⟩

/-- Across the restore, fifteen blocks are applied with no commit: the restore to 87 moves the
wallet tip back past no multiple of 12, so `id.height % 12 == 0` never holds from 101 to 95. -/
theorem uncommitted_across_restore :
    ∃ w, (init hashedChain).run (fun _ => none) (fun _ => "") acrossRestore = some w ∧
      w.actor.pc = .loop ∧ (∀ ok, Did.call (.commit ok) ∉ w.actor.log) ∧
      sinceCommit w.actor.log = (15, true) ∧
      w.actor.walletTip.height % 12 < (sinceCommit w.actor.log).1 := by
  obtain ⟨w, hw, hpc, htip, hlog⟩ := acrossRestore_run
  exact ⟨w, hw, hpc, by rw [hlog]; decide, by rw [hlog]; rfl, by rw [hlog, htip]; decide⟩

end WalletSync

end Spaced
