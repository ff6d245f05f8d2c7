import Spaced.Wallet.Sync
import Spaced.Fetcher.Emission

/-!
# The wallet sync: the actor and the fetcher it owns

`WalletSync` puts `wallet_sync` together with its `BlockFetcher`. The supervisors and their
batches run as in the fetcher model, and the actor takes the events off the consumer channel. An
action is a step of a fetcher thread or of the actor, in any interleaving. The actor's steps act
on the fetcher as its code does: `poll` calls `fetcher.stop()` on shutdown, `recv` takes the
channel's oldest event, `restart` calls `fetcher.start(wallet_tip)`, and when `wallet_sync`
returns, its receiver is dropped.

## Main results

* `Supervisor.step_chan`: a supervisor's step appends to the channel exactly what it appends to
  its log.
* `step_fetcher`: a step of the wallet sync is a run of fetcher actions, so
  `reachable_fetcher`: every fetcher the wallet sync reaches is `BlockFetcher.Reachable`, and the
  facts proved of those hold of it.
-/

namespace Spaced

variable {H : Type}

/-- The channel event a logged event was sent as. -/
def Sent.event : Sent H → BlockEvent H
  | .block id b _ => .block id b
  | .error e => .error e

/-- `wallet_sync` and the fetcher it owns. -/
structure WalletSync (H : Type) where
  fetcher : BlockFetcher H
  actor : Actor H

/-- An action of the wallet sync. -/
inductive SyncAct (H : Type) where
  /-- A step of the supervisor at index `k` or of its batch. -/
  | fetch (k : Nat) (a : SupAct H)
  /-- The actor's shutdown and command checks. -/
  | poll (shutdown : Bool) (command : Option WalletCommand)
  /-- The actor's `try_recv` on the block channel, and the handling of what it takes. -/
  | recv (w : Apply H)
  /-- The actor's `fetcher.start(wallet_tip)`. -/
  | restart

namespace WalletSync

/-- `wallet_sync` entered: a new fetcher, started at the local chain's tip. -/
def init (chain : LocalChain H) : WalletSync H :=
  ⟨BlockFetcher.new.start chain.tip, Actor.init chain⟩

/-- The receiver is dropped once `wallet_sync` has returned. -/
def release (a : Actor H) (f : BlockFetcher H) : BlockFetcher H :=
  if a.pc.live then f else { f with shared := { f.shared with receiverOpen := false } }

@[simp] theorem release_sups (a : Actor H) (f : BlockFetcher H) :
    (release a f).sups = f.sups := by
  unfold release; split <;> rfl

@[simp] theorem release_chan (a : Actor H) (f : BlockFetcher H) :
    (release a f).shared.chan = f.shared.chan := by
  unfold release; split <;> rfl

section Steps

variable (feeRate : String → Option Nat) (debug : BitcoinRpcError → String) [DecidableEq H]

/-- One action of the wallet sync. -/
def step (w : WalletSync H) : SyncAct H → Option (WalletSync H)
  | .fetch k a => (w.fetcher.step (.sup k a)).map fun f => { w with fetcher := f }
  | .poll shutdown command =>
    (w.actor.step feeRate debug (.poll shutdown command)).map fun a =>
      ⟨release a (if shutdown then w.fetcher.stop else w.fetcher), a⟩
  | .recv ap =>
    match w.fetcher.shared.chan with
    | [] => (w.actor.step feeRate debug (.recv none ap)).map fun a => { w with actor := a }
    | e :: rest =>
      (w.actor.step feeRate debug (.recv (some e) ap)).map fun a =>
        ⟨release a { w.fetcher with shared := { w.fetcher.shared with chan := rest } }, a⟩
  | .restart =>
    (w.actor.step feeRate debug .restart).map fun a => ⟨w.fetcher.start a.walletTip, a⟩

/-- The actions `acts`, one after another. -/
def run (w : WalletSync H) : List (SyncAct H) → Option (WalletSync H)
  | [] => some w
  | act :: acts => (w.step feeRate debug act).bind fun w' => run w' acts

/-- The states `wallet_sync` reaches from any local chain, under any interleaving. -/
inductive Reachable : WalletSync H → Prop
  | init (chain : LocalChain H) : Reachable (init chain)
  | step {w w' : WalletSync H} (act : SyncAct H) :
      Reachable w → w.step feeRate debug act = some w' → Reachable w'

/-- The states reachable from `w`. -/
inductive Steps : WalletSync H → WalletSync H → Prop
  | refl (w : WalletSync H) : Steps w w
  | tail {w v v' : WalletSync H} (act : SyncAct H) :
      Steps w v → v.step feeRate debug act = some v' → Steps w v'

theorem reachable_run {w w' : WalletSync H} {acts : List (SyncAct H)}
    (hw : Reachable feeRate debug w) (h : w.run feeRate debug acts = some w') :
    Reachable feeRate debug w' := by
  induction acts generalizing w with
  | nil => cases h; exact hw
  | cons act acts ih =>
    simp only [run, Option.bind_eq_some] at h
    obtain ⟨v, hv, h⟩ := h
    exact ih (hw.step act hv) h

/-! ## The fetcher inside the wallet sync -/

theorem release_steps {f g : BlockFetcher H} (a : Actor H) (h : f.Steps g) :
    f.Steps (release a g) := by
  unfold release
  split
  · exact h
  · exact h.tail .close rfl

/-- Each step of the wallet sync moves its fetcher by fetcher actions. -/
theorem step_fetcher {w w' : WalletSync H} {act : SyncAct H}
    (h : w.step feeRate debug act = some w') : w.fetcher.Steps w'.fetcher := by
  cases act with
  | fetch k a =>
    obtain ⟨f, hf, rfl⟩ := Option.map_eq_some'.1 h
    exact (BlockFetcher.Steps.refl _).tail _ hf
  | poll shutdown command =>
    obtain ⟨a, -, rfl⟩ := Option.map_eq_some'.1 h
    refine release_steps a ?_
    cases shutdown
    · exact .refl _
    · exact (BlockFetcher.Steps.refl _).tail .stop rfl
  | recv ap =>
    simp only [step] at h
    split at h
    · obtain ⟨a, -, rfl⟩ := Option.map_eq_some'.1 h
      exact .refl _
    · rename_i e rest hchan
      obtain ⟨a, -, rfl⟩ := Option.map_eq_some'.1 h
      exact release_steps a ((BlockFetcher.Steps.refl _).tail .recv (by simp [BlockFetcher.step, hchan]))
  | restart =>
    obtain ⟨a, -, rfl⟩ := Option.map_eq_some'.1 h
    exact (BlockFetcher.Steps.refl _).tail (.start _) rfl

/-! ## What each action of the actor does -/

variable {w w' : WalletSync H}

/-- The shutdown and command checks leave the supervisors and the channel alone. -/
theorem step_poll {shutdown : Bool} {command : Option WalletCommand}
    (h : w.step feeRate debug (.poll shutdown command) = some w') :
    w.actor.pc = .loop ∧ w'.actor = w.actor.poll feeRate debug shutdown command ∧
      w'.fetcher.sups = w.fetcher.sups ∧ w'.fetcher.shared.chan = w.fetcher.shared.chan := by
  obtain ⟨a, ha, rfl⟩ := Option.map_eq_some'.1 h
  simp only [Actor.step] at ha
  split_ifs at ha with hpc
  cases ha
  refine ⟨hpc, rfl, ?_, ?_⟩ <;> cases shutdown <;> simp [BlockFetcher.stop]

/-- The `try_recv`: on an empty channel the actor goes back to its loop top; otherwise it takes
the channel's oldest event and handles it. -/
theorem step_recv {ap : Apply H} (h : w.step feeRate debug (.recv ap) = some w') :
    w.actor.pc = .receiving ∧ w'.fetcher.sups = w.fetcher.sups ∧
      ((w.fetcher.shared.chan = [] ∧ w'.actor = { w.actor with pc := .loop } ∧
          w'.fetcher.shared.chan = []) ∨
        ∃ e rest, w.fetcher.shared.chan = e :: rest ∧ w'.actor = w.actor.receive ap e ∧
          w'.fetcher.shared.chan = rest) := by
  simp only [step] at h
  split at h <;> obtain ⟨a, ha, rfl⟩ := Option.map_eq_some'.1 h <;> simp only [Actor.step] at ha <;>
    split_ifs at ha with hpc <;> cases ha
  · exact ⟨hpc, rfl, .inl ⟨‹_›, rfl, ‹_›⟩⟩
  · exact ⟨hpc, by simp, .inr ⟨_, _, ‹_›, rfl, by simp⟩⟩

/-- The restart: `fetcher.start(wallet_tip)`, and back to the loop top. -/
theorem step_restart (h : w.step feeRate debug .restart = some w') :
    (∃ r, w.actor.pc = .restarting r) ∧ w'.actor = { w.actor with pc := .loop } ∧
      w'.fetcher = w.fetcher.start w.actor.walletTip := by
  obtain ⟨a, ha, rfl⟩ := Option.map_eq_some'.1 h
  simp only [Actor.step] at ha
  split at ha
  · cases ha
    exact ⟨⟨_, ‹_›⟩, rfl, rfl⟩
  · cases ha

/-- The wallet sync refines the fetcher model: its fetcher is always a reachable fetcher. -/
theorem reachable_fetcher {w : WalletSync H} (hw : Reachable feeRate debug w) :
    w.fetcher.Reachable := by
  induction hw with
  | init chain => exact .step (.start chain.tip) .new rfl
  | step _ _ h ih => exact (step_fetcher feeRate debug h).reachable ih

end Steps

end WalletSync

/-! ## What a supervisor sends -/

namespace Supervisor

theorem afterBatch_chan (sh : Shared H) (s : Supervisor H) (b : Batch H)
    (out : Option (BlockId H × Block H)) (next : BatchNext H) :
    (afterBatch sh s b out next).2.origin = s.origin ∧
      ∃ new, (afterBatch sh s b out next).2.sent = s.sent ++ new ∧
        (afterBatch sh s b out next).1.chan = sh.chan ++ new.map Sent.event := by
  rcases out with _ | ⟨id, block⟩
  · refine ⟨?_, [], ?_⟩ <;> rcases next with _ | (_ | _) | _ <;> simp [afterBatch]
  · refine ⟨?_, [.block id block b.endHeight], ?_⟩ <;> rcases next with _ | (_ | _) | _ <;>
      simp [afterBatch, Sent.event]

variable [DecidableEq H]

/-- A supervisor's step appends the same events to its log and to the consumer channel. -/
theorem step_chan {sh sh' : Shared H} {s s' : Supervisor H} {a : SupAct H}
    (h : s.step sh a = some (sh', s')) :
    s'.origin = s.origin ∧ ∃ new, s'.sent = s.sent ++ new ∧ sh'.chan = sh.chan ++ new.map Sent.event := by
  have quiet : sh'.chan = sh.chan → s'.sent = s.sent → s'.origin = s.origin →
      s'.origin = s.origin ∧ ∃ new, s'.sent = s.sent ++ new ∧ sh'.chan = sh.chan ++ new.map Sent.event :=
    fun h₁ h₂ h₃ => ⟨h₃, [], by simp [h₂], by simp [h₁]⟩
  cases a with
  | advance =>
    simp only [step] at h
    split at h
    · cases h; exact quiet rfl rfl rfl
    · cases h; exact quiet rfl rfl rfl
    · rename_i b _
      obtain ⟨⟨out, next⟩, -, h⟩ := Option.map_eq_some'.1 h
      have hc := afterBatch_chan sh s b out next
      dsimp only at h
      rwa [h] at hc
    · rename_i e bump _
      split_ifs at h <;> cases h <;>
        first | exact quiet rfl rfl rfl | exact ⟨rfl, [.error e], rfl, by simp [Sent.event]⟩
    · cases h; exact quiet rfl rfl rfl
    · cases h
  | count reply =>
    simp only [step] at h
    split at h
    · split_ifs at h <;> cases h <;> exact quiet rfl rfl rfl
    · cases h; exact quiet rfl rfl rfl
    · cases h; exact quiet rfl rfl rfl
    · cases h
  | pool a =>
    simp only [step] at h
    split at h
    · obtain ⟨b', -, h⟩ := Option.map_eq_some'.1 h
      cases h; exact quiet rfl rfl rfl
    · cases h

end Supervisor

end Spaced
