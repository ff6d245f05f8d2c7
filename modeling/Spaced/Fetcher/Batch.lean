import Spaced.Rpc.Error

/-!
# One batch of the block fetcher: `BlockFetcher::run_workers`

A batch fetches the heights `start_block.height + 1 ..= end_height` on a pool of
`concurrency` threads and emits the blocks in height order on the consumer channel. Three kinds
of thread take part, and each step below is one atomic action of one of them:

* the thread running `run_workers` (`Batch.advance`), whose program counter `BatchPc` names the
  statements of its loop: the `while` condition, the generation checks, the enqueue loop,
  `try_recv`, the insertion into `parsed_blocks`, the removal at `next_emit_height`, the hazard
  check and the send;
* the pool's threads, which take queued jobs in order (`PoolAct.pickup`), and the jobs they run,
  which check the generation, fetch, send their result into the one-slot channel, and return
  (`PoolAct.work`, `deliver`, `finish`);
* everything else, through `Shared`: the generation counter `job_id` and the consumer channel.

The pool is modelled through its two counters: `queue` is what `queued_count()` counts and
`running` what `active_count()` counts. A job leaves the queue and becomes active in one step.
A job whose fetch panics disappears from `running` without sending, as the pool's sentinel
lowers `active_count` when a job panics.

`u32` arithmetic on heights panics on overflow; `BatchNext.panicked` records it.
-/

namespace Spaced

/-- `RpcBlockId`. -/
structure BlockId (H : Type) where
  height : Nat
  hash : H
  deriving DecidableEq, Repr

/-- A block, as far as the fetcher reads it: the `prev_blockhash` of its header. -/
structure Block (H : Type) where
  prevBlockhash : H
  deriving DecidableEq, Repr

/-- `BlockEvent`. -/
inductive BlockEvent (H : Type) where
  | block (id : BlockId H) (b : Block H)
  | error (e : BlockFetchError)
  deriving DecidableEq, Repr

/-- `u32::MAX + 1`. -/
def u32Limit : Nat := 2 ^ 32

/-- The capacity of the consumer channel, `sync_channel(12)`. -/
def channelCapacity : Nat := 12

/-- What the fetcher's threads and its consumer share. -/
structure Shared (H : Type) where
  /-- `job_id`, the generation counter. -/
  jobId : Nat
  /-- The events in the consumer channel, oldest first. -/
  chan : List (BlockEvent H)
  /-- Whether the consumer still holds the `Receiver`. -/
  receiverOpen : Bool
  deriving DecidableEq, Repr

/-- What a job sends to `run_workers`: `Ok((height, id, block))` or the RPC error. -/
abbrev JobResult (H : Type) := Except BitcoinRpcError (Nat × BlockId H × Block H)

/-- Where a job run by a pool thread stands. -/
inductive JobPhase (H : Type) where
  /-- Taken by a thread; the closure's generation check comes next. -/
  | started
  /-- Fetched; `tx.send(result)` comes next. -/
  | fetched (r : JobResult H)
  /-- The closure has returned; `active_count` still counts it. -/
  | returned
  deriving DecidableEq, Repr

/-- A job of the pool, identified by the height it fetches. -/
structure Job (H : Type) where
  height : Nat
  phase : JobPhase H
  deriving DecidableEq, Repr

/-- The statement of `run_workers` its thread executes next. -/
inductive BatchPc (H : Type) where
  /-- The condition of the main `while`. -/
  | loop
  /-- The generation check at the top of the loop body. -/
  | check
  /-- The inner `while` that queues heights on the pool. -/
  | enqueue
  /-- `rx.try_recv()`. -/
  | poll
  /-- A result was received: the generation check, then `result?` and the insertion. -/
  | received (r : JobResult H)
  /-- `parsed_blocks.remove(&next_emit_height)`. -/
  | emit
  /-- A block was removed: the generation check, then the hazard check. -/
  | removed (id : BlockId H) (b : Block H)
  /-- The block passed both checks: `sender.send(BlockEvent::Block(id, block))`. -/
  | sending (id : BlockId H) (b : Block H)
  deriving DecidableEq, Repr

/-- The locals of `run_workers`, with its pool and its one-slot channel. -/
structure Batch (H : Type) where
  /-- `end_height`, the tip the batch was opened for. -/
  endHeight : Nat
  concurrency : Nat
  queuedHeight : Nat
  nextEmitHeight : Nat
  previousHash : H
  /-- `parsed_blocks`, keyed by height. -/
  parsedBlocks : List (Nat × BlockId H × Block H)
  /-- The pool's queued jobs, oldest first; `pool.queued_count()` is its length. -/
  queue : List Nat
  /-- The pool's active jobs; `pool.active_count()` is its length. -/
  running : List (Job H)
  /-- The channel `sync_channel(1)` from the jobs to `run_workers`. -/
  slot : Option (JobResult H)
  pc : BatchPc H
  deriving DecidableEq, Repr

/-- What one step of `run_workers`' own thread leads to. -/
inductive BatchNext (H : Type) where
  | next (b : Batch H)
  | returned (r : Except BlockFetchError (BlockId H))
  | panicked
  deriving DecidableEq, Repr

/-- A step of a pool thread or of the job it runs. -/
inductive PoolAct (H : Type) where
  /-- An idle thread takes the oldest queued job. -/
  | pickup
  /-- The job at `height` checks the generation and, if it is current, fetches: `reply` is what
  `get_block_hash` followed by `fetch_block` ends in. -/
  | work (height : Nat) (reply : Outcome BitcoinRpcError (H × Block H))
  /-- The job at `height` sends its result into the one-slot channel. -/
  | deliver (height : Nat)
  /-- The pool records the end of the job at `height`. -/
  | finish (height : Nat)
  deriving DecidableEq, Repr

variable {H : Type}

/-! ## The reorder buffer and the job list -/

/-- `BTreeMap::get` on `parsed_blocks`. -/
def lookupParsed (m : List (Nat × BlockId H × Block H)) (k : Nat) :
    Option (BlockId H × Block H) :=
  (m.find? fun e => e.1 = k).map (·.2)

/-- `parsed_blocks` without its entry at `k`. -/
def eraseParsed (m : List (Nat × BlockId H × Block H)) (k : Nat) :
    List (Nat × BlockId H × Block H) :=
  m.filter fun e => e.1 ≠ k

/-- `BTreeMap::insert`: the new entry replaces any entry at the same height. -/
def insertParsed (m : List (Nat × BlockId H × Block H)) (k : Nat) (v : BlockId H × Block H) :
    List (Nat × BlockId H × Block H) :=
  (k, v) :: eraseParsed m k

/-- The phase of the active job at `height`. -/
def jobPhase (running : List (Job H)) (height : Nat) : Option (JobPhase H) :=
  (running.find? fun j => j.height = height).map (·.phase)

/-- The active jobs, with the one at `height` moved to `phase`. -/
def setJob (running : List (Job H)) (height : Nat) (phase : JobPhase H) : List (Job H) :=
  running.map fun j => if j.height = height then ⟨height, phase⟩ else j

/-- The active jobs without the one at `height`. -/
def removeJob (running : List (Job H)) (height : Nat) : List (Job H) :=
  running.filter fun j => j.height ≠ height

theorem mem_of_lookupParsed {m : List (Nat × BlockId H × Block H)} {k : Nat}
    {v : BlockId H × Block H} (h : lookupParsed m k = some v) : (k, v) ∈ m := by
  simp only [lookupParsed, Option.map_eq_some'] at h
  obtain ⟨e, he, rfl⟩ := h
  have hk := List.find?_some he
  simp only [decide_eq_true_eq] at hk
  subst hk
  exact List.mem_of_find?_eq_some he

@[simp] theorem mem_eraseParsed {m : List (Nat × BlockId H × Block H)} {k : Nat} {e} :
    e ∈ eraseParsed m k ↔ e ∈ m ∧ e.1 ≠ k := by
  simp [eraseParsed]

@[simp] theorem mem_insertParsed {m : List (Nat × BlockId H × Block H)} {k : Nat} {v e} :
    e ∈ insertParsed m k v ↔ e = (k, v) ∨ (e ∈ m ∧ e.1 ≠ k) := by
  simp [insertParsed]

theorem nodup_eraseParsed {m : List (Nat × BlockId H × Block H)} (k : Nat)
    (h : (m.map (·.1)).Nodup) : ((eraseParsed m k).map (·.1)).Nodup :=
  h.sublist ((List.filter_sublist m).map _)

/-- `parsed_blocks` holds each height once. -/
theorem nodup_insertParsed {m : List (Nat × BlockId H × Block H)} (k : Nat)
    (v : BlockId H × Block H) (h : (m.map (·.1)).Nodup) :
    ((insertParsed m k v).map (·.1)).Nodup := by
  simp only [insertParsed, List.map_cons, List.nodup_cons]
  refine ⟨fun hk => ?_, nodup_eraseParsed k h⟩
  obtain ⟨e, he, rfl⟩ := List.mem_map.1 hk
  exact (mem_eraseParsed.1 he).2 rfl

theorem exists_of_jobPhase {l : List (Job H)} {h : Nat} {p : JobPhase H}
    (hp : jobPhase l h = some p) : ∃ j ∈ l, j.height = h ∧ j.phase = p := by
  simp only [jobPhase, Option.map_eq_some'] at hp
  obtain ⟨j, hj, rfl⟩ := hp
  exact ⟨j, List.mem_of_find?_eq_some hj, by simpa using List.find?_some hj, rfl⟩

theorem mem_setJob {l : List (Job H)} {h : Nat} {p : JobPhase H} {j : Job H}
    (hj : j ∈ setJob l h p) : j ∈ l ∨ (j = ⟨h, p⟩ ∧ ∃ j₀ ∈ l, j₀.height = h) := by
  simp only [setJob, List.mem_map] at hj
  obtain ⟨j₀, hj₀, rfl⟩ := hj
  split
  · exact .inr ⟨rfl, j₀, hj₀, by assumption⟩
  · exact .inl hj₀

@[simp] theorem mem_removeJob {l : List (Job H)} {h : Nat} {j : Job H} :
    j ∈ removeJob l h ↔ j ∈ l ∧ j.height ≠ h := by
  simp [removeJob]

/-! ## Steps -/

namespace Batch

/-- The locals of `run_workers` when it is entered. -/
def init (startBlock : BlockId H) (endHeight concurrency : Nat) : Batch H where
  endHeight := endHeight
  concurrency := concurrency
  queuedHeight := startBlock.height + 1
  nextEmitHeight := startBlock.height + 1
  previousHash := startBlock.hash
  parsedBlocks := []
  queue := []
  running := []
  slot := none
  pc := .loop

variable [DecidableEq H]

/-- One step of the thread running `run_workers`, generation `myJob`. It may deliver a block on
the consumer channel (the first component); it is blocked (`none`) while that channel is full. -/
def advance (sh : Shared H) (myJob : Nat) (b : Batch H) :
    Option (Option (BlockId H × Block H) × BatchNext H) :=
  match b.pc with
  | .loop =>
    if b.queuedHeight ≤ b.endHeight ∨ 0 < b.running.length ∨ b.parsedBlocks.isEmpty = false then
      some (none, .next { b with pc := .check })
    else some (none, .returned (.ok ⟨b.nextEmitHeight - 1, b.previousHash⟩))
  | .check =>
    if sh.jobId ≠ myJob then some (none, .returned (.error .channelClosed))
    else some (none, .next { b with pc := .enqueue })
  | .enqueue =>
    if b.queue.length < b.concurrency ∧ b.queuedHeight ≤ b.endHeight then
      if b.queuedHeight + 1 < u32Limit then
        some (none, .next { b with queue := b.queue ++ [b.queuedHeight],
                                   queuedHeight := b.queuedHeight + 1 })
      else some (none, .panicked)
    else some (none, .next { b with pc := .poll })
  | .poll =>
    match b.slot with
    | some r => some (none, .next { b with slot := none, pc := .received r })
    | none => some (none, .next { b with pc := .loop })
  | .received r =>
    if sh.jobId ≠ myJob then some (none, .returned (.error .channelClosed))
    else
      match r with
      | .error e => some (none, .returned (.error (.rpcError e)))
      | .ok (h, id, block) =>
        some (none, .next { b with parsedBlocks := insertParsed b.parsedBlocks h (id, block),
                                   pc := .emit })
  | .emit =>
    match lookupParsed b.parsedBlocks b.nextEmitHeight with
    | some (id, block) =>
      some (none, .next { b with parsedBlocks := eraseParsed b.parsedBlocks b.nextEmitHeight,
                                 pc := .removed id block })
    | none => some (none, .next { b with pc := .loop })
  | .removed id block =>
    if sh.jobId ≠ myJob then some (none, .returned (.error .channelClosed))
    else if block.prevBlockhash ≠ b.previousHash then
      some (none, .returned (.error .blockMismatch))
    else some (none, .next { b with pc := .sending id block })
  | .sending id block =>
    if sh.receiverOpen = false then some (none, .returned (.error .channelClosed))
    else if sh.chan.length < channelCapacity then
      some (some (id, block),
        if b.nextEmitHeight + 1 < u32Limit then
          .next { b with previousHash := id.hash, nextEmitHeight := b.nextEmitHeight + 1,
                         pc := .emit }
        else .panicked)
    else none

end Batch

namespace Batch

/-- One step of a pool thread or of a job of the batch; `jobId` is the shared counter and
`myJob` the generation the jobs were queued for. -/
def poolStep (jobId myJob : Nat) (b : Batch H) : PoolAct H → Option (Batch H)
  | .pickup =>
    match b.queue with
    | h :: rest =>
      if b.running.length < b.concurrency then
        some { b with queue := rest, running := b.running ++ [⟨h, .started⟩] }
      else none
    | [] => none
  | .work h reply =>
    match jobPhase b.running h with
    | some .started =>
      if jobId ≠ myJob then some { b with running := setJob b.running h .returned }
      else
        match reply with
        | .ok (hash, block) =>
          some { b with running := setJob b.running h (.fetched (.ok (h, ⟨h, hash⟩, block))) }
        | .err e => some { b with running := setJob b.running h (.fetched (.error e)) }
        | .panic => some { b with running := removeJob b.running h }
    | _ => none
  | .deliver h =>
    match jobPhase b.running h, b.slot with
    | some (.fetched r), none => some { b with slot := some r, running := setJob b.running h .returned }
    | _, _ => none
  | .finish h =>
    match jobPhase b.running h with
    | some .returned => some { b with running := removeJob b.running h }
    | _ => none

end Batch

end Spaced
