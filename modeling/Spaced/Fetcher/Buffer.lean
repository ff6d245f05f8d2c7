import Spaced.Fetcher.Emission

/-!
# The reorder buffer and the end of a batch

`run_workers` keeps the blocks that arrive ahead of `next_emit_height` in `parsed_blocks`, one
per height. The batch invariant places every height the batch holds between its first height and
`end_height`, so the buffer never holds more blocks than the batch has heights. Nothing else
bounds it: the enqueue loop tops the pool's queue up to `concurrency` whatever the distance to
`next_emit_height`, so a job stalled at `next_emit_height` lets the other workers fill the buffer
with the rest of the batch.

The loop's exit test reads the number of active jobs and the buffer, but neither the pool's
queue nor the internal channel's slot, so it can exit while a queued job has not been picked up.

## Main results

* `Batch.Inv.parsed_length`, `buffer_within_batch`: the buffer holds at most
  `end_height - start_block.height` blocks.
* `stalled_job_buffers`: with concurrency 8, a job stalled at the first height of a batch of 18
  heights leaves 17 blocks in the buffer.
* `run_workers_returns_early`: a batch of one height returns `Ok` at its start block while the job
  for that height is still queued.
-/

namespace Spaced

variable {H : Type}

/-- The buffer holds at most one block per height of the batch from `lo` on. -/
theorem Batch.Inv.parsed_length {lo : Nat} {b : Batch H} (hb : b.Inv lo) :
    b.parsedBlocks.length ≤ b.endHeight + 1 - lo := by
  have hsub : (b.parsedBlocks.map (·.1)).toFinset ⊆ Finset.Icc lo b.endHeight := by
    intro k hk
    obtain ⟨e, he, rfl⟩ := List.mem_map.1 (List.mem_toFinset.1 hk)
    exact Finset.mem_Icc.2 (hb.parsed e he).2
  calc b.parsedBlocks.length
      = (b.parsedBlocks.map (·.1)).toFinset.card := by
        rw [List.toFinset_card_of_nodup hb.parsed_nodup, List.length_map]
    _ ≤ (Finset.Icc lo b.endHeight).card := Finset.card_le_card hsub
    _ = b.endHeight + 1 - lo := Nat.card_Icc _ _

theorem eq_singleton_of_map {α β : Type} {f : α → β} {l : List α} {b : β} (h : l.map f = [b]) :
    ∃ a, l = [a] ∧ f a = b := by
  obtain ⟨a, rest, rfl, rfl, hr⟩ := List.map_eq_cons_iff.1 h
  exact ⟨a, by simpa using hr, rfl⟩

namespace BlockFetcher

variable [DecidableEq H]

/-- Under every schedule of every batch, the reorder buffer holds at most as many blocks as the
batch has heights, `end_height - start_block.height`. -/
theorem buffer_within_batch {f : BlockFetcher H} (hf : f.Reachable) {s : Supervisor H}
    (hs : s ∈ f.sups) {b : Batch H} (hb : s.pc = .batch b) :
    b.parsedBlocks.length ≤ b.endHeight - s.startBlock.height := by
  have := ((inv_reachable hf s hs).batch b hb).parsed_length
  omega

/-! ## A stalled job -/

/-- The supervisor opens a batch from height 0 to 18, with concurrency 8, queues heights 1 to 8,
and the pool picks up the job at 1, which never returns. -/
def stallSetup : List (FetchAct Nat) :=
  [.sup 0 .advance, .sup 0 .advance, .sup 0 (.count (.ok 18))] ++
    List.replicate 11 (.sup 0 .advance) ++ [.sup 0 (.pool .pickup)]

/-- The pool runs the job at `h` to its end, and the batch buffers its block and tops the queue
up with `refill` heights. -/
def stallRound (h refill : Nat) : List (FetchAct Nat) :=
  [.sup 0 (.pool .pickup), .sup 0 (.pool (.work h (.ok (h, ⟨h - 1⟩)))),
   .sup 0 (.pool (.deliver h)), .sup 0 (.pool (.finish h))] ++
    List.replicate (6 + refill) (.sup 0 .advance)

/-- Every height but the stalled first one is fetched and buffered. -/
def stallSchedule : List (FetchAct Nat) :=
  stallSetup ++ stallRound 2 2 ++ ((List.range 8).flatMap fun i => stallRound (i + 3) 1) ++
    ((List.range 8).flatMap fun i => stallRound (i + 11) 0)

theorem stall_run :
    ∃ f b, (new.start (⟨0, 0⟩ : BlockId Nat)).run stallSchedule = some f ∧
      f.sups.map (fun s => (s.startBlock, s.pc)) = [(⟨0, 0⟩, .batch b)] ∧
      b.concurrency = 8 ∧ b.endHeight = 18 ∧ b.parsedBlocks.length = 17 := by
  have hrun : ((new.start (⟨0, 0⟩ : BlockId Nat)).run stallSchedule).map
      (fun f => (f.sups.map (fun s => s.startBlock), f.sups.map fun s => match s.pc with
        | .batch b => (b.concurrency, b.endHeight, b.parsedBlocks.length)
        | _ => (0, 0, 0))) = some ([⟨0, 0⟩], [(8, 18, 17)]) := by
    rfl
  obtain ⟨f, hf, hsum⟩ := Option.map_eq_some'.1 hrun
  obtain ⟨s, hs⟩ : ∃ s, f.sups = [s] := by
    simp only [Prod.mk.injEq] at hsum
    exact (eq_singleton_of_map hsum.1).imp fun s h => h.1
  rw [hs] at hsum
  simp only [List.map_cons, List.map_nil, Prod.mk.injEq, List.cons.injEq, and_true] at hsum
  obtain ⟨hstart, hpc⟩ := hsum
  split at hpc
  · rename_i b hb
    simp only [Prod.mk.injEq] at hpc
    exact ⟨f, b, hf, by simp [hs, hstart, hb], hpc.1, hpc.2.1, hpc.2.2⟩
  · exact absurd hpc (by decide)

/-- With concurrency 8, a job stalled at the first height of a batch of 18 heights leaves the
other 17 blocks in the buffer, more than twice the concurrency. -/
theorem stalled_job_buffers :
    ∃ f b, (new.start (⟨0, 0⟩ : BlockId Nat)).run stallSchedule = some f ∧
      f.sups.map (fun s => (s.startBlock, s.pc)) = [(⟨0, 0⟩, .batch b)] ∧
      b.concurrency = 8 ∧ 2 * b.concurrency < b.parsedBlocks.length := by
  obtain ⟨f, b, hf, hs, hc, -, hl⟩ := stall_run
  exact ⟨f, b, hf, hs, hc, by omega⟩

theorem buffer_within_batch_stalled :
    ∃ (f : BlockFetcher Nat) (s : Supervisor Nat) (b : Batch Nat),
      f.Reachable ∧ s ∈ f.sups ∧ s.pc = .batch b ∧
        b.parsedBlocks.length ≤ b.endHeight - s.startBlock.height := by
  obtain ⟨f, b, hf, hs, -⟩ := stall_run
  obtain ⟨s, hsups, hsb⟩ := eq_singleton_of_map hs
  have hr : f.Reachable := reachable_run (.step (.start ⟨0, 0⟩) .new rfl) hf
  have hpc : s.pc = .batch b := (Prod.mk.injEq _ _ _ _ ▸ hsb).2
  exact ⟨f, s, b, hr, by simp [hsups], hpc, buffer_within_batch hr (by simp [hsups]) hpc⟩

/-! ## A queued job the exit test does not see -/

/-- The supervisor opens a batch of the one height 1, queues its job, finds the internal channel
empty, and comes back to the loop's exit test before the pool has picked the job up. -/
def queuedNotPicked : List (FetchAct Nat) :=
  [.sup 0 .advance, .sup 0 .advance, .sup 0 (.count (.ok 1))] ++ List.replicate 5 (.sup 0 .advance)

/-- At the exit test, with height 1 still queued, `run_workers` returns `Ok` at its start
block, height 0, though `end_height` is 1. -/
theorem run_workers_returns_early :
    ∃ f b, (new.start (⟨0, 0⟩ : BlockId Nat)).run queuedNotPicked = some f ∧
      f.sups.map (·.pc) = [.batch b] ∧ b.endHeight = 1 ∧ b.queue = [1] ∧ b.running = [] ∧
      b.advance f.shared 1 = some (none, .returned (.ok ⟨0, 0⟩)) := by
  have hrun : ((new.start (⟨0, 0⟩ : BlockId Nat)).run queuedNotPicked).map
      (fun f => f.sups.map fun s => match s.pc with
        | .batch b => (b.endHeight, b.queue, b.running.length, b.advance f.shared 1)
        | _ => (0, [], 0, none)) =
      some [(1, [1], 0, some (none, .returned (.ok ⟨0, 0⟩)))] := by
    rfl
  obtain ⟨f, hf, hsum⟩ := Option.map_eq_some'.1 hrun
  obtain ⟨s, hs, hpc⟩ := eq_singleton_of_map hsum
  split at hpc
  · rename_i b hb
    simp only [Prod.mk.injEq] at hpc
    exact ⟨f, b, hf, by simp [hs, hb], hpc.1, hpc.2.1, List.eq_nil_of_length_eq_zero hpc.2.2.1,
      hpc.2.2.2⟩
  · simp only [Prod.mk.injEq] at hpc
    exact absurd hpc.1 (by decide)

end BlockFetcher

end Spaced
