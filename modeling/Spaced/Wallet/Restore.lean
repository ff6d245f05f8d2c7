import Spaced.Fetcher.Batch

/-!
# The restore point of the mismatch recovery

On `BlockFetchError::BlockMismatch`, `wallet_sync` walks the coins wallet's local chain from the
tip down and restores `wallet_tip` to the first checkpoint more than 12 blocks below it, or to the
oldest checkpoint when there is none:

```
local_chain.iter_checkpoints()
    .find_map(|x| if wallet_tip.height - x.height() > 12 { Some(x.clone()) } else { None })
    .unwrap_or(local_chain.iter_checkpoints().last().expect("a checkpoint"))
```

The subtraction is on `u32` and panics when a checkpoint lies above `wallet_tip`;
`restorePoint` is `none` then.

## Main results

* `restorePoint_spec`: with `wallet_tip` at or above every checkpoint, the restore point is the
  highest checkpoint whose height is below `wallet_tip.height - 12`, or the oldest one.
* `restorePoint_skips_twelve`: a checkpoint exactly 12 blocks below the tip is passed over.
-/

namespace Spaced

variable {H : Type}

/-- The checkpoints of a BDK `LocalChain`, from the tip down. There is always one, and the
heights strictly decrease. -/
structure LocalChain (H : Type) where
  checkpoints : List (BlockId H)
  nonempty : checkpoints ≠ []
  sorted : checkpoints.Pairwise fun a b => b.height < a.height

namespace LocalChain

/-- `local_chain.tip()`. -/
def tip (c : LocalChain H) : BlockId H := c.checkpoints.head c.nonempty

/-- `iter_checkpoints().last()`: the oldest checkpoint. -/
def oldest (c : LocalChain H) : BlockId H := c.checkpoints.getLast c.nonempty

end LocalChain

/-- `u32` subtraction; `none` when it underflows, which panics. -/
def u32Sub (a b : Nat) : Option Nat := if b ≤ a then some (a - b) else none

/-- The `find_map` over the checkpoints: the first one more than 12 blocks below `tipHeight`,
`some none` when there is none, and `none` when a subtraction underflows first. -/
def findRestore (tipHeight : Nat) : List (BlockId H) → Option (Option (BlockId H))
  | [] => some none
  | x :: xs =>
    match u32Sub tipHeight x.height with
    | none => none
    | some d => if d > 12 then some (some x) else findRestore tipHeight xs

/-- The point the mismatch recovery restores `wallet_tip` to; `none` when it panics. -/
def restorePoint (walletTip : BlockId H) (chain : LocalChain H) : Option (BlockId H) :=
  (findRestore walletTip.height chain.checkpoints).map fun r => r.getD chain.oldest

/-- Below the tip, the `find_map` is the first checkpoint more than 12 blocks down. -/
theorem findRestore_of_le (t : Nat) (l : List (BlockId H)) (hle : ∀ c ∈ l, c.height ≤ t) :
    findRestore t l = some (l.find? fun c => decide (c.height + 12 < t)) := by
  induction l with
  | nil => rfl
  | cons x xs ih =>
    have hx := hle x (List.mem_cons_self _ _)
    simp only [findRestore, u32Sub, hx, if_true, List.find?_cons]
    by_cases h : x.height + 12 < t
    · simp [h, show t - x.height > 12 by omega]
    · simp [h, show ¬ t - x.height > 12 by omega, ih fun c hc => hle c (List.mem_cons_of_mem _ hc)]

/-- In a list of strictly decreasing heights, the first element whose height satisfies a
predicate is the highest that does. -/
theorem find?_highest (p : Nat → Bool) {l : List (BlockId H)}
    (hs : l.Pairwise fun a b => b.height < a.height) {x : BlockId H}
    (hx : l.find? (fun c => p c.height) = some x) :
    x ∈ l ∧ p x.height ∧ ∀ c ∈ l, p c.height → c.height ≤ x.height := by
  induction l with
  | nil => cases hx
  | cons a l ih =>
    rw [List.pairwise_cons] at hs
    by_cases ha : p a.height
    · simp only [List.find?_cons, ha, Option.some.injEq] at hx
      subst hx
      refine ⟨List.mem_cons_self _ _, ha, fun c hc _ => ?_⟩
      rcases List.mem_cons.1 hc with rfl | hc
      · exact le_rfl
      · exact (hs.1 c hc).le
    · simp only [List.find?_cons, ha] at hx
      obtain ⟨h₁, h₂, h₃⟩ := ih hs.2 hx
      refine ⟨List.mem_cons_of_mem _ h₁, h₂, fun c hc hpc => ?_⟩
      rcases List.mem_cons.1 hc with rfl | hc
      · exact absurd hpc ha
      · exact h₃ c hc hpc

/-- With `wallet_tip` at or above every checkpoint, the recovery does not panic. It restores to
the highest checkpoint more than 12 blocks below `wallet_tip`, or to the oldest checkpoint when
none is that far down. -/
theorem restorePoint_spec (walletTip : BlockId H) (chain : LocalChain H)
    (hle : ∀ c ∈ chain.checkpoints, c.height ≤ walletTip.height) :
    ∃ r, restorePoint walletTip chain = some r ∧
      ((r ∈ chain.checkpoints ∧ r.height + 12 < walletTip.height ∧
          ∀ c ∈ chain.checkpoints, c.height + 12 < walletTip.height → c.height ≤ r.height) ∨
        ((∀ c ∈ chain.checkpoints, walletTip.height ≤ c.height + 12) ∧ r = chain.oldest)) := by
  rw [restorePoint, findRestore_of_le _ _ hle]
  cases hf : chain.checkpoints.find? fun c => decide (c.height + 12 < walletTip.height) with
  | none =>
    refine ⟨chain.oldest, rfl, .inr ⟨fun c hc => ?_, rfl⟩⟩
    have := List.find?_eq_none.1 hf c hc
    simp only [decide_eq_true_eq] at this
    omega
  | some x =>
    obtain ⟨h₁, h₂, h₃⟩ := find?_highest (fun h => decide (h + 12 < walletTip.height)) chain.sorted hf
    exact ⟨x, rfl, .inl ⟨h₁, by simpa using h₂, fun c hc hc' => h₃ c hc (by simpa using hc')⟩⟩

/-- A chain at heights 100, 88 and 0. -/
def twelveBelow : LocalChain Nat where
  checkpoints := [⟨100, 1⟩, ⟨88, 2⟩, ⟨0, 3⟩]
  nonempty := by decide
  sorted := by decide

theorem restorePoint_spec_twelveBelow :
    (∀ c ∈ twelveBelow.checkpoints, c.height ≤ (⟨100, 1⟩ : BlockId Nat).height) ∧
      ∃ r, restorePoint ⟨100, 1⟩ twelveBelow = some r :=
  have hle : ∀ c ∈ twelveBelow.checkpoints, c.height ≤ (⟨100, 1⟩ : BlockId Nat).height := by
    decide
  ⟨hle, (restorePoint_spec _ _ hle).imp fun _ h => h.1⟩

/-- At the tip of `twelveBelow`, the checkpoint at 88, exactly 12 blocks down and the highest
that is at least 12 blocks down, is passed over for the oldest one. -/
theorem restorePoint_skips_twelve :
    restorePoint ⟨100, 1⟩ twelveBelow = some ⟨0, 3⟩ ∧ (⟨88, 2⟩ : BlockId Nat) ∈ twelveBelow.checkpoints ∧
      88 ≤ 100 - 12 ∧ 0 < 88 := by
  decide

end Spaced
