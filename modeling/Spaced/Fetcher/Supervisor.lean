import Spaced.Fetcher.Batch

/-!
# The block fetcher: `BlockFetcher::start`, `stop` and the supervisor threads

`start(start_block)` bumps `job_id` and spawns a supervisor thread. The supervisor loads the
counter, then loops: it exits if the counter has moved, asks the node for its tip, runs a
batch when the tip is above `start_block`, and carries the batch's last block into the next
round. An error from `getblockcount` is reported; an error from a batch is reported and then
the supervisor bumps `job_id` itself.

`BlockFetcher` holds the shared state and every supervisor ever spawned, in spawn order.
Its actions are the steps of those threads and of their batches, and the calls its owner makes:
`start`, `stop`, a receive on the consumer channel, and dropping the receiver. `Reachable`
closes `BlockFetcher.new` under all of them, in any order.

Each supervisor carries two ghost fields: the block it was started from (`origin`) and the
events it has delivered to the consumer channel (`sent`), each block with the tip of the batch
that emitted it.

The supervisor's one-second wait between rounds is not modelled: waiting only re-enters the
loop top, which is `SupPc.top`.
-/

namespace Spaced

variable {H : Type}

/-- The statement a supervisor executes next. -/
inductive SupPc (H : Type) where
  /-- Spawned: `let job_id = current_task.load(..)` comes next. -/
  | load
  /-- The generation check at the loop top. -/
  | top
  /-- `getblockcount`. -/
  | count
  /-- Inside `run_workers`. -/
  | batch (b : Batch H)
  /-- `task_sender.send(BlockEvent::Error(e))`, followed by the increment of `job_id` when
  `bump` holds, and by `return`. -/
  | report (e : BlockFetchError) (bump : Bool)
  /-- `current_task.fetch_add(1, ..)` after a failed batch. -/
  | bump
  /-- The thread has returned. -/
  | done
  /-- The thread has panicked. -/
  | panicked
  deriving DecidableEq, Repr

/-- An event a supervisor delivered, with the tip of the batch for a block. -/
inductive Sent (H : Type) where
  | block (id : BlockId H) (b : Block H) (tip : Nat)
  | error (e : BlockFetchError)
  deriving DecidableEq, Repr

/-- A supervisor thread. -/
structure Supervisor (H : Type) where
  /-- The block `start` was called with (ghost). -/
  origin : BlockId H
  /-- The generation it loaded. -/
  jobId : Nat
  startBlock : BlockId H
  pc : SupPc H
  /-- The events it delivered, oldest first (ghost). -/
  sent : List (Sent H)
  deriving DecidableEq, Repr

/-- A step of a supervisor thread or of one of the threads of its batch. -/
inductive SupAct (H : Type) where
  /-- The supervisor's own next step, other than `getblockcount`. -/
  | advance
  /-- `getblockcount`, ending in `reply`. -/
  | count (reply : Outcome BitcoinRpcError Nat)
  /-- A step of the pool of its batch. -/
  | pool (a : PoolAct H)
  deriving DecidableEq, Repr

/-- `BlockFetcher` with every supervisor it has spawned. -/
structure BlockFetcher (H : Type) where
  shared : Shared H
  sups : List (Supervisor H)
  deriving DecidableEq, Repr

/-- An action of the fetcher or of its owner. -/
inductive FetchAct (H : Type) where
  | sup (k : Nat) (a : SupAct H)
  | start (b : BlockId H)
  | stop
  /-- The consumer takes the oldest event. -/
  | recv
  /-- The consumer drops the receiver. -/
  | close
  deriving DecidableEq, Repr

namespace Supervisor

/-- The supervisor `start(b)` spawns. -/
def spawn (b : BlockId H) : Supervisor H :=
  { origin := b, jobId := 0, startBlock := b, pc := .load, sent := [] }

/-- What follows a step of `run_workers`: the delivered block, if any, goes to the channel and to
the ghost log; `Ok(new_tip)` becomes `start_block`; an error is reported. -/
def afterBatch (sh : Shared H) (s : Supervisor H) (b : Batch H)
    (out : Option (BlockId H × Block H)) (next : BatchNext H) : Shared H × Supervisor H :=
  let sh' := match out with
    | some (id, block) => { sh with chan := sh.chan ++ [.block id block] }
    | none => sh
  let sent := match out with
    | some (id, block) => s.sent ++ [.block id block b.endHeight]
    | none => s.sent
  match next with
  | .next b' => (sh', { s with pc := .batch b', sent := sent })
  | .returned (.ok tip) => (sh', { s with startBlock := tip, pc := .top, sent := sent })
  | .returned (.error e) => (sh', { s with pc := .report e true, sent := sent })
  | .panicked => (sh', { s with pc := .panicked, sent := sent })

/-- The batch a supervisor opens when the node reports `tip` above its start block, with
`concurrency = min(tip - start_block.height, 8)`. -/
def openBatch (s : Supervisor H) (tip : Nat) : Batch H :=
  Batch.init s.startBlock tip (min (tip - s.startBlock.height) 8)

variable [DecidableEq H]

/-- One step of a supervisor or of its batch. -/
def step (sh : Shared H) (s : Supervisor H) : SupAct H → Option (Shared H × Supervisor H)
  | .advance =>
    match s.pc with
    | .load => some (sh, { s with jobId := sh.jobId, pc := .top })
    | .top => some (sh, { s with pc := if sh.jobId = s.jobId then .count else .done })
    | .batch b => (b.advance sh s.jobId).map fun (out, next) => afterBatch sh s b out next
    | .report e bump =>
      let pc : SupPc H := if bump then .bump else .done
      if sh.receiverOpen then
        if sh.chan.length < channelCapacity then
          some ({ sh with chan := sh.chan ++ [.error e] },
            { s with pc := pc, sent := s.sent ++ [.error e] })
        else none
      else some (sh, { s with pc := pc })
    | .bump => some ({ sh with jobId := sh.jobId + 1 }, { s with pc := .done })
    | _ => none
  | .count reply =>
    match s.pc, reply with
    | .count, .ok tip =>
      if tip < u32Limit then
        some (sh, { s with pc := if s.startBlock.height < tip then .batch (s.openBatch tip)
                                 else .top })
      else none
    | .count, .err e => some (sh, { s with pc := .report (.rpcError e) false })
    | .count, .panic => some (sh, { s with pc := .panicked })
    | _, _ => none
  | .pool a =>
    match s.pc with
    | .batch b => (b.poolStep sh.jobId s.jobId a).map fun b' => (sh, { s with pc := .batch b' })
    | _ => none

end Supervisor

namespace BlockFetcher

/-- `BlockFetcher::new`: generation `0`, an empty channel, no thread. -/
def new : BlockFetcher H := ⟨⟨0, [], true⟩, []⟩

/-- `BlockFetcher::stop`. -/
def stop (f : BlockFetcher H) : BlockFetcher H :=
  { f with shared := { f.shared with jobId := f.shared.jobId + 1 } }

/-- `BlockFetcher::start`: `stop`, then spawn a supervisor. -/
def start (f : BlockFetcher H) (b : BlockId H) : BlockFetcher H :=
  { f.stop with sups := f.sups ++ [Supervisor.spawn b] }

variable [DecidableEq H]

/-- One action of the fetcher's threads or of its owner. -/
def step (f : BlockFetcher H) : FetchAct H → Option (BlockFetcher H)
  | .sup k a =>
    match f.sups[k]? with
    | some s => (s.step f.shared a).map fun (sh, s') => ⟨sh, f.sups.set k s'⟩
    | none => none
  | .start b => some (f.start b)
  | .stop => some f.stop
  | .recv =>
    match f.shared.chan with
    | _ :: rest => some { f with shared := { f.shared with chan := rest } }
    | [] => none
  | .close => some { f with shared := { f.shared with receiverOpen := false } }

/-- A supervisor's action: the supervisor at `k` takes its step, and the fetcher keeps the shared
state it leaves and its new value at `k`. -/
theorem step_sup {f f' : BlockFetcher H} {k : Nat} {a : SupAct H}
    (h : f.step (.sup k a) = some f') :
    ∃ s sh s', f.sups[k]? = some s ∧ s.step f.shared a = some (sh, s') ∧
      f' = ⟨sh, f.sups.set k s'⟩ := by
  simp only [step] at h
  split at h
  · obtain ⟨⟨sh, s'⟩, hst, rfl⟩ := Option.map_eq_some'.1 h
    exact ⟨_, sh, s', ‹_›, hst, rfl⟩
  · cases h

/-- The actions `acts`, one after another. -/
def run (f : BlockFetcher H) : List (FetchAct H) → Option (BlockFetcher H)
  | [] => some f
  | a :: acts => (f.step a).bind fun f' => run f' acts

/-- The fetcher states reachable from `new` under any interleaving. -/
inductive Reachable : BlockFetcher H → Prop
  | new : Reachable new
  | step {f f' : BlockFetcher H} (a : FetchAct H) : Reachable f → f.step a = some f' → Reachable f'

/-- The states reachable from `f`. -/
inductive Steps : BlockFetcher H → BlockFetcher H → Prop
  | refl (f : BlockFetcher H) : Steps f f
  | tail {f g g' : BlockFetcher H} (a : FetchAct H) : Steps f g → g.step a = some g' → Steps f g'

theorem reachable_run {f f' : BlockFetcher H} {acts : List (FetchAct H)} (hf : Reachable f)
    (h : f.run acts = some f') : Reachable f' := by
  induction acts generalizing f with
  | nil => cases h; exact hf
  | cons a acts ih =>
    simp only [run, Option.bind_eq_some] at h
    obtain ⟨g, hg, h⟩ := h
    exact ih (hf.step a hg) h

theorem Steps.reachable {f f' : BlockFetcher H} (hs : Steps f f') (hf : Reachable f) :
    Reachable f' := by
  induction hs with
  | refl => exact hf
  | tail a _ h ih => exact ih.step a h

end BlockFetcher

end Spaced
