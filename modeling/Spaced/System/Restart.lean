import Spaced.System.Feed

/-!
# The restart race

A supervisor whose batch reports `BlockMismatch` sends the error and only then increments
`job_id` itself. The actor reacts to the error with `fetcher.start(wallet_tip)`, which increments
`job_id` and spawns a supervisor that loads the counter when its thread begins. When the new
supervisor loads the counter between the actor's increment and the old supervisor's, the old
supervisor's increment makes the new one exit at its first generation check, and the actor is
left running with nothing to feed it.

## Main results

* `stalled_steps`: once the channel is empty, every supervisor has retired and no restart is
  pending, no event ever reaches the actor again.
* `restart_race_stalls`: a run of the wallet sync from a chain at heights 100, 87 and 0 ends in
  that state, the new supervisor having exited silently.
-/

namespace Spaced

variable {H : Type}

namespace WalletSync

/-- No event will reach the actor: the channel is empty, every supervisor has retired, and no
restart is pending. -/
def Stalled (w : WalletSync H) : Prop :=
  w.fetcher.shared.chan = [] ∧ (∀ t ∈ w.fetcher.sups, t.Retired) ∧
    ∀ r, w.actor.pc ≠ .restarting r

variable (feeRate : String → Option Nat) (debug : BitcoinRpcError → String) [DecidableEq H]
variable {w w' : WalletSync H}

theorem stalled_step {act : SyncAct H} (hs : w.Stalled) (h : w.step feeRate debug act = some w') :
    w'.Stalled := by
  obtain ⟨hchan, hall, hpc⟩ := hs
  cases act with
  | fetch k a =>
    obtain ⟨f, hf, rfl⟩ := Option.map_eq_some'.1 h
    obtain ⟨s, sh, s', hk, hst, rfl⟩ := BlockFetcher.step_sup hf
    obtain ⟨hr', hchan'⟩ := (hall s (List.getElem?_mem hk)).step hst
    exact ⟨hchan'.trans hchan,
      fun t ht => (List.mem_or_eq_of_mem_set ht).elim (hall t) (· ▸ hr'), hpc⟩
  | poll shutdown command =>
    obtain ⟨-, ha, hsups, hchan'⟩ := step_poll feeRate debug h
    obtain ⟨-, -, hpc'⟩ := Actor.poll_cases feeRate debug w.actor shutdown command
    refine ⟨hchan'.trans hchan, hsups ▸ hall, fun r h => ?_⟩
    rw [ha] at h
    rcases hpc' with h' | h' | h' <;> simp [h'] at h
  | recv ap =>
    obtain ⟨-, hsups, ⟨-, ha, hchan'⟩ | ⟨e, rest, hchan'', -⟩⟩ := step_recv feeRate debug h
    · exact ⟨hchan', hsups ▸ hall, fun r h => by simp [ha] at h⟩
    · simp [hchan] at hchan''
  | restart =>
    obtain ⟨⟨r, hr⟩, -⟩ := step_restart feeRate debug h
    exact absurd hr (hpc r)

/-- A stalled wallet sync stays stalled, whatever its threads do. -/
theorem stalled_steps (hs : w.Stalled) (h : w.Steps feeRate debug w') : w'.Stalled := by
  induction h with
  | refl => exact hs
  | tail _ _ h ih => exact stalled_step feeRate debug ih h

/-- The first supervisor fetches block 101, whose parent is not the block at 100, and reports
the mismatch; the actor restores to 87 and restarts the fetcher; the new supervisor loads
`job_id`, the old one increments it, and the new one meets the moved counter at its loop top. -/
def restartRace : List (SyncAct Nat) :=
  [.fetch 0 .advance, .fetch 0 .advance, .fetch 0 (.count (.ok 101)),
   .fetch 0 .advance, .fetch 0 .advance, .fetch 0 .advance, .fetch 0 .advance,
   .fetch 0 (.pool .pickup), .fetch 0 (.pool (.work 101 (.ok (7, ⟨5⟩)))),
   .fetch 0 (.pool (.deliver 101)),
   .fetch 0 .advance, .fetch 0 .advance, .fetch 0 .advance, .fetch 0 .advance, .fetch 0 .advance,
   .poll false none, .recv noApply, .restart,
   .fetch 1 .advance, .fetch 0 .advance, .fetch 1 .advance]

/-- After the restart race, the supervisor the actor started at 87 has exited at its generation
check while the actor still runs, and from then on no event reaches the actor, under any
interleaving. -/
theorem restart_race_stalls :
    ∃ w, (WalletSync.init thirteenBelow).run (fun _ => none) (fun _ => "") restartRace = some w ∧
      w.actor.pc = .loop ∧ w.actor.walletTip = ⟨87, 2⟩ ∧
      w.fetcher.sups.map (fun s => (s.origin, s.jobId, s.pc)) =
        [(⟨100, 1⟩, 1, .done), (⟨87, 2⟩, 2, .done)] ∧
      w.fetcher.shared.jobId = 3 ∧
      ∀ w', w.Steps (fun _ => none) (fun _ => "") w' →
        w'.fetcher.shared.chan = [] ∧ ∀ r, w'.actor.pc ≠ .restarting r := by
  have hrun : ((WalletSync.init thirteenBelow).run (fun _ => none) (fun _ => "") restartRace).map
      (fun w => (w.actor.pc, w.actor.walletTip, w.fetcher.sups.map (fun s => (s.origin, s.jobId, s.pc)),
        w.fetcher.shared.jobId, w.fetcher.shared.chan)) =
      some (.loop, ⟨87, 2⟩, [(⟨100, 1⟩, 1, .done), (⟨87, 2⟩, 2, .done)], 3, []) := by
    rfl
  obtain ⟨w, hw, hsum⟩ := Option.map_eq_some'.1 hrun
  simp only [Prod.mk.injEq] at hsum
  obtain ⟨hpc, htip, hsups, hjob, hchan⟩ := hsum
  have hall : ∀ t ∈ w.fetcher.sups, t.Retired := fun t ht => by
    have := List.mem_map_of_mem (fun s => (s.origin, s.jobId, s.pc)) ht
    rw [hsups] at this
    simp only [List.mem_cons, Prod.mk.injEq, List.not_mem_nil, or_false] at this
    rcases this with ⟨-, -, h⟩ | ⟨-, -, h⟩ <;> exact .inr h
  have hs : w.Stalled := ⟨hchan, hall, fun r h => by simp [hpc] at h⟩
  exact ⟨w, hw, hpc, htip, hsups, hjob, fun w' h =>
    ⟨(stalled_steps _ _ hs h).1, (stalled_steps _ _ hs h).2.2⟩⟩

end WalletSync

end Spaced
