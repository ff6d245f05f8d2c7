import Spaced.Rpc.Error

/-!
# Hex decoding in place: `hex_to_bytes`

`fetch_block` turns the hex payload of a `getblock` reply into bytes with `hex_to_bytes`, the
`hex` crate's decoder rewritten to reuse its input vector:

```
let len = hex_data.len() / 2;
for i in 0..len {
    let byte = val(hex_data[2 * i], 2 * i)? << 4 | val(hex_data[2 * i + 1], 2 * i + 1)?;
    hex_data[i] = byte;
}
hex_data.truncate(len);
```

Iteration `i` writes position `i` and reads positions `2 * i` and `2 * i + 1`, which no earlier
iteration has written: the reads always see the input.

## Main definitions

* `val`, `decodeStep`, `hexToBytes`: the source, the vector as a list updated with `set`.
* `decodePairs`: the decoder without the buffer, two digits at a time, left to right.
* `isHexDigit`, `hexEncode`: ASCII hex digits, and `hex::encode` / `hex::encode_upper`.

## Main results

* `foldlM_decodeStep`: after `k` iterations the buffer is the first `k` decoded bytes followed
  by the input from position `k` on.
* `hexToBytes_eq_decodePairs`: the loop over the buffer computes `decodePairs` on every input.
* `hexToBytes_spec`: on an even-length input, `hex_to_bytes` succeeds exactly when every byte is
  a hex digit, and then returns half as many bytes, each the value of its two digits; otherwise
  it names the lowest index holding a non-digit; and it inverts `hex_encode` in either case.
-/

namespace Spaced

/-- `hex::FromHexError`, of which `val` only raises `InvalidHexCharacter`. -/
inductive FromHexError where
  | invalidHexCharacter (c : Char) (index : Nat)
  deriving DecidableEq, Repr

/-- `val`: the value of the hex digit `c`, found at index `idx`. -/
def val (c : UInt8) (idx : Nat) : Except FromHexError UInt8 :=
  if 65 ≤ c ∧ c ≤ 70 then .ok (c - 65 + 10)
  else if 97 ≤ c ∧ c ≤ 102 then .ok (c - 97 + 10)
  else if 48 ≤ c ∧ c ≤ 57 then .ok (c - 48)
  else .error (.invalidHexCharacter (Char.ofNat c.toNat) idx)

/-- Iteration `i` of the loop of `hex_to_bytes`. Both reads are in bounds, since
`2 * i + 1 < 2 * len ≤ hex_data.len()`. -/
def decodeStep (hexData : List UInt8) (i : Nat) : Except FromHexError (List UInt8) := do
  let hi ← val (hexData.getD (2 * i) 0) (2 * i)
  let lo ← val (hexData.getD (2 * i + 1) 0) (2 * i + 1)
  pure (hexData.set i (hi <<< 4 ||| lo))

/-- `hex_to_bytes`: decode `hex_data` in place, then truncate it to half its length. -/
def hexToBytes (hexData : List UInt8) : Except FromHexError (List UInt8) :=
  let len := hexData.length / 2
  (·.take len) <$> (List.range len).foldlM decodeStep hexData

/-- Decoding two digits at a time without a buffer; `idx` is the index of the first digit. -/
def decodePairs : List UInt8 → Nat → Except FromHexError (List UInt8)
  | a :: b :: rest, idx => do
    let hi ← val a idx
    let lo ← val b (idx + 1)
    let tail ← decodePairs rest (idx + 2)
    pure ((hi <<< 4 ||| lo) :: tail)
  | _, _ => pure []

/-- An ASCII hex digit: `0`-`9`, `a`-`f` or `A`-`F`. -/
def isHexDigit (c : UInt8) : Bool :=
  (48 ≤ c && c ≤ 57) || (97 ≤ c && c ≤ 102) || (65 ≤ c && c ≤ 70)

/-! ## Single digits -/

theorem uint8_le_iff (a b : UInt8) : a ≤ b ↔ a.toNat ≤ b.toNat := Iff.rfl

theorem uint8_lt_iff (a b : UInt8) : a < b ↔ a.toNat < b.toNat := Iff.rfl

theorem uint8_eq_iff (a b : UInt8) : a = b ↔ a.toNat = b.toNat :=
  ⟨congrArg UInt8.toNat, UInt8.toNat.inj⟩

theorem val_ok {c : UInt8} (h : isHexDigit c = true) (idx : Nat) :
    ∃ v, val c idx = .ok v ∧ v.toNat < 16 := by
  have hc := c.toNat_lt
  simp only [isHexDigit, Bool.or_eq_true, Bool.and_eq_true, decide_eq_true_eq, uint8_le_iff,
    UInt8.toNat_ofNat, UInt8.size, Nat.reduceMod] at h
  unfold val
  simp only [uint8_le_iff, UInt8.toNat_ofNat, UInt8.size, Nat.reduceMod]
  split_ifs <;> first
    | exact ⟨_, rfl, by
        simp only [UInt8.toNat_add, UInt8.toNat_sub, UInt8.toNat_ofNat, UInt8.size]; omega⟩
    | omega

theorem val_error {c : UInt8} (h : isHexDigit c = false) (idx : Nat) :
    val c idx = .error (.invalidHexCharacter (Char.ofNat c.toNat) idx) := by
  simp only [isHexDigit, Bool.or_eq_false_iff, Bool.and_eq_false_iff, decide_eq_false_iff_not,
    uint8_le_iff, UInt8.toNat_ofNat, UInt8.size, Nat.reduceMod] at h
  unfold val
  simp only [uint8_le_iff, UInt8.toNat_ofNat, UInt8.size, Nat.reduceMod]
  split_ifs <;> first | rfl | omega

/-- The value of a digit does not depend on the index it is reported at. -/
theorem val_idx {c v : UInt8} {idx : Nat} (h : val c idx = .ok v) (idx' : Nat) :
    val c idx' = .ok v := by
  unfold val at h ⊢
  split_ifs at h ⊢ <;> exact h

theorem isHexDigit_of_val {c v : UInt8} {idx : Nat} (h : val c idx = .ok v) :
    isHexDigit c = true ∧ v.toNat < 16 := by
  cases hc : isHexDigit c
  · rw [val_error hc] at h; cases h
  · obtain ⟨v', h', hv'⟩ := val_ok hc idx
    rw [h'] at h; cases h; exact ⟨rfl, hv'⟩

theorem nibbles_toNat : ∀ a < 16, ∀ b < 16,
    (UInt8.ofNat a <<< 4 ||| UInt8.ofNat b).toNat = 16 * a + b := by
  decide

/-- `hi << 4 | lo` is `16 * hi + lo` for two digit values. -/
theorem byte_toNat {hi lo : UInt8} (hh : hi.toNat < 16) (hl : lo.toNat < 16) :
    (hi <<< 4 ||| lo).toNat = 16 * hi.toNat + lo.toNat := by
  have := nibbles_toNat _ hh _ hl
  rwa [show UInt8.ofNat hi.toNat = hi from
      UInt8.ext (UInt8.toNat_ofNat_of_lt (by unfold UInt8.size; omega)),
    show UInt8.ofNat lo.toNat = lo from
      UInt8.ext (UInt8.toNat_ofNat_of_lt (by unfold UInt8.size; omega))] at this

/-! ## The decoder without a buffer -/

theorem decodePairs_cons_ok {a b : UInt8} {rest : List UInt8} {idx : Nat} {d : List UInt8} :
    decodePairs (a :: b :: rest) idx = .ok d ↔ ∃ hi lo t, val a idx = .ok hi ∧
      val b (idx + 1) = .ok lo ∧ decodePairs rest (idx + 2) = .ok t ∧
        d = (hi <<< 4 ||| lo) :: t := by
  simp only [decodePairs, except_bind_eq_ok, except_pure_eq_ok, exists_and_left, eq_comm (b := d)]

theorem decodePairs_append {l : List UInt8} (hl : l.length % 2 = 0) (rest : List UInt8)
    (idx : Nat) :
    decodePairs (l ++ rest) idx =
      (decodePairs l idx >>= fun d => (d ++ ·) <$> decodePairs rest (idx + l.length)) := by
  induction l, idx using decodePairs.induct with
  | case1 a b l idx ih =>
    simp only [List.length_cons] at hl
    simp only [List.cons_append, decodePairs, List.append_eq, ih (by omega), bind_assoc,
      bind_map_left, List.length_cons, show idx + 2 + l.length = idx + (l.length + 1 + 1) by omega]
    simp only [pure_bind, map_eq_bind_pure_comp, Function.comp_def, List.cons_append]
  | case2 l idx hne =>
    rcases l with _ | ⟨x, _ | ⟨y, l⟩⟩
    · simp [decodePairs]
    · simp at hl
    · exact absurd rfl (hne x y l)

theorem length_decodePairs : ∀ {l : List UInt8} {idx : Nat} {d : List UInt8},
    decodePairs l idx = .ok d → d.length = l.length / 2
  | [], _, _, h => by cases h; rfl
  | [_], _, _, h => by cases h; simp
  | _ :: _ :: rest, _, _, h => by
    obtain ⟨hi, lo, t, -, -, ht, rfl⟩ := decodePairs_cons_ok.1 h
    simp only [List.length_cons, length_decodePairs ht]
    omega

theorem getElem_decodePairs : ∀ {l : List UInt8} {idx : Nat} {d : List UInt8},
    decodePairs l idx = .ok d → ∀ j (hj : j < d.length),
      ∃ hi lo, val (l.getD (2 * j) 0) (idx + 2 * j) = .ok hi ∧
        val (l.getD (2 * j + 1) 0) (idx + 2 * j + 1) = .ok lo ∧ d[j] = hi <<< 4 ||| lo
  | [], _, _, h, _, hj => by cases h; simp at hj
  | [_], _, _, h, _, hj => by cases h; simp at hj
  | a :: b :: rest, idx, d, h, j, hj => by
    obtain ⟨hi, lo, t, h₁, h₂, ht, rfl⟩ := decodePairs_cons_ok.1 h
    cases j with
    | zero => exact ⟨hi, lo, h₁, h₂, rfl⟩
    | succ j =>
      obtain ⟨x, y, hx, hy, hd⟩ := getElem_decodePairs ht j (by simpa using hj)
      rw [show idx + 2 + 2 * j = idx + 2 * (j + 1) by omega] at hx hy
      exact ⟨x, y, hx, hy, hd⟩

theorem decodePairs_ok_iff : ∀ {l : List UInt8}, l.length % 2 = 0 → ∀ idx : Nat,
    (∃ d, decodePairs l idx = .ok d) ↔ ∀ c ∈ l, isHexDigit c = true
  | [], _, _ => ⟨fun _ _ h => absurd h (List.not_mem_nil _), fun _ => ⟨[], rfl⟩⟩
  | [_], hl, _ => by simp at hl
  | a :: b :: rest, hl, idx => by
    have ih := decodePairs_ok_iff (l := rest) (by simp at hl; omega) (idx + 2)
    simp only [decodePairs_cons_ok, List.mem_cons, forall_eq_or_imp]
    constructor
    · rintro ⟨_, hi, lo, t, h₁, h₂, ht, -⟩
      exact ⟨(isHexDigit_of_val h₁).1, (isHexDigit_of_val h₂).1, ih.1 ⟨t, ht⟩⟩
    · rintro ⟨ha, hb, hr⟩
      obtain ⟨hi, h₁, -⟩ := val_ok ha idx
      obtain ⟨lo, h₂, -⟩ := val_ok hb (idx + 1)
      obtain ⟨t, ht⟩ := ih.2 hr
      exact ⟨_, hi, lo, t, h₁, h₂, ht, rfl⟩

/-- A failure names the first non-digit, at its index. -/
theorem decodePairs_error : ∀ {l : List UInt8} {idx : Nat} {e : FromHexError},
    decodePairs l idx = .error e → ∃ j, j < l.length ∧ isHexDigit (l.getD j 0) = false ∧
      (∀ m < j, isHexDigit (l.getD m 0) = true) ∧
      e = .invalidHexCharacter (Char.ofNat (l.getD j 0).toNat) (idx + j)
  | [], _, _, h => by cases h
  | [_], _, _, h => by cases h
  | a :: b :: rest, idx, e, h => by
    cases ha : isHexDigit a
    · simp only [decodePairs, val_error ha, except_error_bind, Except.error.injEq] at h
      exact ⟨0, Nat.zero_lt_succ _, ha, fun m hm => absurd hm (Nat.not_lt_zero m), h.symm⟩
    obtain ⟨hi, h₁, -⟩ := val_ok ha idx
    cases hb : isHexDigit b
    · simp only [decodePairs, h₁, val_error hb, except_ok_bind, except_error_bind,
        Except.error.injEq] at h
      refine ⟨1, Nat.succ_lt_succ (Nat.zero_lt_succ _), hb, fun m hm => ?_, h.symm⟩
      obtain rfl : m = 0 := by omega
      exact ha
    obtain ⟨lo, h₂, -⟩ := val_ok hb (idx + 1)
    cases hr : decodePairs rest (idx + 2) with
    | ok t => simp [decodePairs, h₁, h₂, hr] at h
    | error e' =>
      simp only [decodePairs, h₁, h₂, hr, except_ok_bind, except_error_bind,
        Except.error.injEq] at h
      obtain ⟨j, hj, hbad, hgood, rfl⟩ := decodePairs_error hr
      refine ⟨j + 2, Nat.add_lt_add_right hj 2, hbad, fun m hm => ?_, by rw [← h]; congr 1; omega⟩
      match m, hm with
      | 0, _ => exact ha
      | 1, _ => exact hb
      | m + 2, hm => exact hgood m (by omega)

/-! ## The buffer -/

theorem take_add_two {l : List UInt8} {n : Nat} (h : n + 2 ≤ l.length) :
    l.take (n + 2) = l.take n ++ [l.getD n 0, l.getD (n + 1) 0] := by
  rw [show n + 2 = n + 1 + 1 from rfl, List.take_succ, List.take_succ,
    List.getElem?_eq_getElem (by omega), List.getElem?_eq_getElem (by omega),
    List.getD_eq_getElem _ _ (by omega), List.getD_eq_getElem _ _ (by omega)]
  simp only [Option.toList_some, List.append_assoc, List.singleton_append]

/-- After `k` iterations, the buffer holds the bytes of the first `k` pairs, followed by the
input from position `k` on, which no iteration has written yet. -/
theorem foldlM_decodeStep (h : List UInt8) :
    ∀ k, k ≤ h.length / 2 →
      (List.range k).foldlM decodeStep h = (· ++ h.drop k) <$> decodePairs (h.take (2 * k)) 0 := by
  intro k hk
  induction k with
  | zero => simp [decodePairs]
  | succ k ih =>
    rw [List.range_succ, List.foldlM_append, ih (by omega),
      show 2 * (k + 1) = 2 * k + 2 by omega, take_add_two (by omega),
      decodePairs_append (by simp; omega)]
    cases hd : decodePairs (h.take (2 * k)) 0 with
    | error e => rfl
    | ok d =>
      have hlen : d.length = k := by
        rw [length_decodePairs hd, List.length_take]; omega
      -- the reads land in the part no iteration has written
      have hget : ∀ n, (d ++ h.drop k).getD (k + n) 0 = h.getD (k + n) 0 := fun n => by
        rw [List.getD_append_right _ _ _ _ (by omega), List.getD_eq_getElem?_getD,
          List.getD_eq_getElem?_getD, List.getElem?_drop]
        congr 2; omega
      have hset : ∀ x, (d ++ h.drop k).set k x = d ++ [x] ++ h.drop (k + 1) := fun x => by
        rw [List.set_append, if_neg (by omega), hlen, Nat.sub_self,
          List.drop_eq_getElem_cons (by omega)]
        simp only [List.set_cons_zero, List.append_assoc, List.singleton_append]
      simp only [List.foldlM_cons, List.foldlM_nil, decodeStep, bind_pure, except_map_ok,
        except_ok_bind, show 2 * k = k + k by omega, show k + k + 1 = k + (k + 1) by omega, hget,
        Nat.zero_add, decodePairs, List.length_take_of_le (show k + k ≤ h.length by omega),
        pure_bind, map_bind, map_pure, hset, List.append_assoc, List.singleton_append]

/-- The loop over the buffer computes what the decoder without a buffer computes, on every
input. -/
theorem hexToBytes_eq_decodePairs (h : List UInt8) : hexToBytes h = decodePairs h 0 := by
  have hsplit : h = h.take (2 * (h.length / 2)) ++ h.drop (2 * (h.length / 2)) :=
    (List.take_append_drop _ _).symm
  have hshort : decodePairs (h.drop (2 * (h.length / 2))) (2 * (h.length / 2)) = .ok [] := by
    rcases hr : h.drop (2 * (h.length / 2)) with _ | ⟨x, _ | ⟨y, r⟩⟩
    · rfl
    · rfl
    · have := congrArg List.length hr; simp at this; omega
  dsimp only [hexToBytes]
  rw [foldlM_decodeStep h _ le_rfl]
  conv_rhs => rw [hsplit, decodePairs_append (by simp; omega)]
  cases hd : decodePairs (h.take (2 * (h.length / 2))) 0 with
  | error e => rfl
  | ok d =>
    have hlen : d.length = h.length / 2 := by rw [length_decodePairs hd, List.length_take]; omega
    simp only [except_map_ok, except_ok_bind, Nat.zero_add, hshort, List.append_nil,
      List.length_take_of_le (show 2 * (h.length / 2) ≤ h.length by omega), List.take_left' hlen]

/-! ## Encoding -/

/-- A hex digit of a value below 16, in lower or upper case. -/
def hexDigit (upper : Bool) (n : Nat) : UInt8 :=
  if n < 10 then UInt8.ofNat (48 + n) else UInt8.ofNat ((if upper then 65 else 97) + n - 10)

/-- `hex::encode` (`upper = false`) and `hex::encode_upper` (`upper = true`): two digits per
byte, the high half first. -/
def hexEncode (upper : Bool) (b : List UInt8) : List UInt8 :=
  b.flatMap fun x => [hexDigit upper (x.toNat / 16), hexDigit upper (x.toNat % 16)]

theorem val_hexDigit : ∀ (upper : Bool), ∀ n < 16,
    val (hexDigit upper n) 0 = .ok (UInt8.ofNat n) := by
  decide

theorem decodePairs_hexEncode (upper : Bool) :
    ∀ (b : List UInt8) (idx : Nat), decodePairs (hexEncode upper b) idx = .ok b
  | [], _ => rfl
  | x :: b, idx => by
    have hx := x.toNat_lt
    have hhi := val_idx (val_hexDigit upper (x.toNat / 16) (by omega)) idx
    have hlo := val_idx (val_hexDigit upper (x.toNat % 16) (by omega)) (idx + 1)
    have hb : UInt8.ofNat (x.toNat / 16) <<< 4 ||| UInt8.ofNat (x.toNat % 16) = x :=
      UInt8.ext (by rw [nibbles_toNat _ (by omega) _ (by omega)]; omega)
    have := decodePairs_hexEncode upper b (idx + 2)
    simp only [hexEncode, List.flatMap_cons, List.cons_append, List.nil_append] at this ⊢
    simp only [decodePairs, hhi, hlo, this, except_ok_bind, hb]
    rfl

/-! ## `hex_to_bytes` -/

/-- On an even-length input, `hex_to_bytes` succeeds exactly when every byte is a hex digit;
it then returns half as many bytes, byte `i` being `16 * val(h[2i]) + val(h[2i+1])`; otherwise
it reports the lowest index holding a non-digit, with that byte; and it inverts `hex_encode`,
in lower and in upper case. -/
theorem hexToBytes_spec (h : List UInt8) (heven : h.length % 2 = 0) :
    ((∃ d, hexToBytes h = .ok d) ↔ ∀ c ∈ h, isHexDigit c = true) ∧
    (∀ d, hexToBytes h = .ok d → d.length = h.length / 2 ∧
      ∀ i (hi : i < d.length), ∃ x y, val (h.getD (2 * i) 0) (2 * i) = .ok x ∧
        val (h.getD (2 * i + 1) 0) (2 * i + 1) = .ok y ∧ d[i].toNat = 16 * x.toNat + y.toNat) ∧
    (∀ e, hexToBytes h = .error e → ∃ i, i < h.length ∧ isHexDigit (h.getD i 0) = false ∧
      (∀ j < i, isHexDigit (h.getD j 0) = true) ∧
      e = .invalidHexCharacter (Char.ofNat (h.getD i 0).toNat) i) ∧
    ∀ (upper : Bool) (b : List UInt8), hexToBytes (hexEncode upper b) = .ok b := by
  simp only [hexToBytes_eq_decodePairs]
  refine ⟨decodePairs_ok_iff heven 0, fun d hd => ⟨length_decodePairs hd, fun i hi => ?_⟩,
    fun e he => by simpa using decodePairs_error he,
    fun upper b => decodePairs_hexEncode upper b 0⟩
  obtain ⟨x, y, hx, hy, hd⟩ := getElem_decodePairs hd i hi
  refine ⟨x, y, by simpa using hx, by simpa using hy, ?_⟩
  rw [hd, byte_toNat (isHexDigit_of_val hx).2 (isHexDigit_of_val hy).2]

/-- On `"aB09"`, decoded in place over two pairs, byte `i` comes from the digits at `2i` and
`2i + 1`. -/
theorem hexToBytes_spec_aB09 :
    ([0xab, 0x09] : List UInt8).length = ([0x61, 0x42, 0x30, 0x39] : List UInt8).length / 2 ∧
      ∀ i (hi : i < ([0xab, 0x09] : List UInt8).length), ∃ x y,
        val (([0x61, 0x42, 0x30, 0x39] : List UInt8).getD (2 * i) 0) (2 * i) = .ok x ∧
        val (([0x61, 0x42, 0x30, 0x39] : List UInt8).getD (2 * i + 1) 0) (2 * i + 1) = .ok y ∧
        ([0xab, 0x09] : List UInt8)[i].toNat = 16 * x.toNat + y.toNat :=
  (hexToBytes_spec [0x61, 0x42, 0x30, 0x39] (by decide)).2.1 [0xab, 0x09] (by decide)

example : hexToBytes [0x61, 0x67, 0x7a, 0x30] = .error (.invalidHexCharacter 'g' 1) := by
  decide

end Spaced
