import Spaced.Rpc.Json

/-!
# Fetching a block: `BlockFetcher::fetch_block`

`fetch_block` sends one `getblock` request for the block's hex and decodes the reply. Before
it reaches for `serde_json`, it peeks at the body: if the body starts with `start_needle` and
ends with `end_needle`, the bytes between the two are taken as the hex of the block.

```
let start_needle = "{\"result\":\"";
let end_needle = format!("\",\"error\":null,\"id\":\"{}\"}}\n", id.to_string());
let hex_block =
    if raw.starts_with(start_needle.as_bytes()) && raw.ends_with(end_needle.as_bytes()) {
        raw.drain(0..start_needle.len());
        raw.truncate(raw.len() - end_needle.len());
        raw
    } else { /* serde_json::from_slice, its error, result.unwrap() */ };
```

The request is modelled from its reply on: the body, or the transport error of sending it, of
its status, or of reading it. The texts that `serde_json`, `hex` and the consensus decoder give
their errors are parameters; the texts this function adds to them are the source's.

## Main results

* `fastPath_agrees_with_json`: whenever the fast path yields a block, the body is the envelope
  `{"result":"P","error":null,"id":"I"}` with the payload `P` it handed on, `serde_json` reads
  that body as `result = Some(P)`, `error = None`, and the fallback yields the same block.
* `needles_overlap_panics`: for every request id, the body whose start and end needles share
  their quote passes both tests and is shorter than the two needles, so `truncate`'s length
  underflows and `fetch_block` panics.
-/

namespace Spaced

/-- `start_needle`. -/
def startNeedle : List UInt8 := ascii "\x7b\"result\":\""

/-- `end_needle` for the request `id`. -/
def endNeedle (id : Nat) : List UInt8 :=
  ascii "\",\"error\":null,\"id\":\"" ++ ascii (toString id) ++ ascii "\"\x7d\n"

/-- The fast path: `raw.drain(0..start_needle.len())`, then
`raw.truncate(raw.len() - end_needle.len())`, whose `usize` subtraction panics below zero. -/
def fastPath (id : Nat) (raw : List UInt8) : Outcome BitcoinRpcError (List UInt8) :=
  let drained := raw.drop startNeedle.length
  if drained.length < (endNeedle id).length then .panic
  else .ok (drained.take (drained.length - (endNeedle id).length))

/-- The fallback: `serde_json::from_slice`, with its error as `BitcoinRpcError::Other`, then the
envelope's error, then `hex_block.result.unwrap()`. -/
def jsonFallback (jsonText : JsonError → String) (raw : List UInt8) :
    Outcome BitcoinRpcError (List UInt8) :=
  match fromSlice raw with
  | .error e => .err (.other (jsonText e))
  | .ok r =>
    match r.error with
    | some e => .err (.rpc e)
    | none =>
      match r.result with
      | some h => .ok h
      | none => .panic

/-- `hex_block`: the fast path when both needles are in place, the fallback otherwise. -/
def hexBlock (jsonText : JsonError → String) (id : Nat) (raw : List UInt8) :
    Outcome BitcoinRpcError (List UInt8) :=
  if startNeedle.isPrefixOf raw && (endNeedle id).isSuffixOf raw then fastPath id raw
  else jsonFallback jsonText raw

variable {Block : Type}

/-- The end of `fetch_block`: the length check, `hex_to_bytes`, and the consensus decoding
`deserialize`, each error with the source's text in front of the library's. -/
def decodeBlock (hexText : FromHexError → String) (deserialize : List UInt8 → Except String Block)
    (hexBlock : List UInt8) : Outcome BitcoinRpcError Block :=
  if hexBlock.length % 2 ≠ 0 then .err (.other "Parse error: could not hex decode block")
  else
    match hexToBytes hexBlock with
    | .error e => .err (.other ("Hex deserialize error: " ++ hexText e))
    | .ok rawBlock =>
      match deserialize rawBlock with
      | .error msg => .err (.other ("Block Deserialize error: " ++ msg))
      | .ok block => .ok block

/-- `fetch_block` for the request `id`, from the reply to it on. -/
def fetchBlock (jsonText : JsonError → String) (hexText : FromHexError → String)
    (deserialize : List UInt8 → Except String Block) (id : Nat)
    (reply : Except TransportError (List UInt8)) : Outcome BitcoinRpcError Block :=
  match reply with
  | .error e => .err (.transport e)
  | .ok raw => (hexBlock jsonText id raw).bind (decodeBlock hexText deserialize)

/-! ## The request id in the end needle -/

theorem mem_toDigitsCore {fuel n : Nat} {ds : List Char} {c : Char}
    (h : c ∈ Nat.toDigitsCore 10 fuel n ds) : c ∈ ds ∨ ∃ d < 10, c = Nat.digitChar d := by
  induction fuel generalizing n ds with
  | zero => exact .inl h
  | succ fuel ih =>
    have hd : c ∈ Nat.digitChar (n % 10) :: ds → c ∈ ds ∨ ∃ d < 10, c = Nat.digitChar d :=
      fun h => (List.mem_cons.1 h).elim (fun h => .inr ⟨_, Nat.mod_lt _ (by decide), h⟩) .inl
    simp only [Nat.toDigitsCore] at h
    split at h
    · exact hd h
    · exact (ih h).elim hd .inr

theorem isPlain_digitChar : ∀ d < 10, isPlain (UInt8.ofNat (Nat.digitChar d).toNat) = true := by
  decide

/-- `id.to_string()` is plain ASCII: decimal digits. -/
theorem isPlain_toString (n : Nat) : ∀ b ∈ ascii (toString n), isPlain b = true := by
  intro b hb
  obtain ⟨c, hc, rfl⟩ := List.mem_map.1 hb
  rcases mem_toDigitsCore hc with h | ⟨d, hd, rfl⟩
  · exact absurd h (List.not_mem_nil _)
  · exact isPlain_digitChar d hd

/-! ## The fast path against the fallback -/

theorem isPlain_of_isHexDigit {c : UInt8} (h : isHexDigit c = true) : isPlain c = true := by
  simp only [isHexDigit, isPlain, Bool.or_eq_true, Bool.and_eq_true, bne_iff_ne, ne_eq,
    decide_eq_true_eq, uint8_le_iff, uint8_lt_iff, uint8_eq_iff, UInt8.toNat_ofNat, UInt8.size,
    Nat.reduceMod] at h ⊢
  omega

/-- A payload that decodes to a block is hex: even, and made of hex digits. -/
theorem decodeBlock_ok {hexText : FromHexError → String}
    {deserialize : List UInt8 → Except String Block} {h : List UInt8} {block : Block}
    (hok : decodeBlock hexText deserialize h = .ok block) : ∀ c ∈ h, isHexDigit c = true := by
  unfold decodeBlock at hok
  split at hok
  · cases hok
  · rename_i heven
    cases hx : hexToBytes h with
    | error e => simp [hx] at hok
    | ok d =>
      rw [hexToBytes_eq_decodePairs] at hx
      exact (decodePairs_ok_iff (by omega) 0).1 ⟨d, hx⟩

/-- When the fast path does not panic, the body is its start needle, the payload it hands on,
and its end needle. -/
theorem fastPath_ok {id : Nat} {raw p : List UInt8} (hpre : startNeedle.isPrefixOf raw = true)
    (hsuf : (endNeedle id).isSuffixOf raw = true) (hp : fastPath id raw = .ok p) :
    raw = startNeedle ++ p ++ endNeedle id := by
  obtain ⟨t, rfl⟩ := List.isPrefixOf_iff_prefix.1 hpre
  have hd := List.suffix_iff_eq_drop.1 (List.isSuffixOf_iff_suffix.1 hsuf)
  simp only [fastPath, List.drop_left] at hp
  split at hp
  · cases hp
  · cases hp
    rw [List.length_append, Nat.add_sub_assoc (by omega), List.drop_append] at hd
    rw [List.append_assoc]
    conv_lhs => rw [← List.take_append_drop (t.length - (endNeedle id).length) t, ← hd]

/-- The envelope around a hex payload reads as that payload, no error and the request's id. -/
theorem fromSlice_fast {id : Nat} {p : List UInt8} (hp : ∀ c ∈ p, isHexDigit c = true) :
    fromSlice (startNeedle ++ p ++ endNeedle id) = .ok ⟨some p, none, ascii (toString id)⟩ := by
  have := fromSlice_envelope (fun c hc => isPlain_of_isHexDigit (hp c hc)) (isPlain_toString id)
  simpa only [endNeedle, startNeedle, List.append_assoc] using this

/-- Whenever both needles are in place and the fast path yields a block, the body is the
envelope around the payload the fast path hands on, `serde_json` reads it as that payload with
no error and the request's id, and the fallback yields the same block. -/
theorem fastPath_agrees_with_json (jsonText : JsonError → String)
    (hexText : FromHexError → String) (deserialize : List UInt8 → Except String Block) (id : Nat)
    (raw : List UInt8) (block : Block) (hpre : startNeedle.isPrefixOf raw = true)
    (hsuf : (endNeedle id).isSuffixOf raw = true)
    (hok : fetchBlock jsonText hexText deserialize id (.ok raw) = .ok block) :
    ∃ p, fastPath id raw = .ok p ∧ raw = startNeedle ++ p ++ endNeedle id ∧
      fromSlice raw = .ok ⟨some p, none, ascii (toString id)⟩ ∧
      (jsonFallback jsonText raw).bind (decodeBlock hexText deserialize) = .ok block := by
  rw [fetchBlock, hexBlock, if_pos (by rw [hpre, hsuf]; rfl)] at hok
  cases hf : fastPath id raw with
  | ok p =>
    rw [hf, Outcome.ok_bind] at hok
    have hraw := fastPath_ok hpre hsuf hf
    have hjson : fromSlice raw = .ok ⟨some p, none, ascii (toString id)⟩ :=
      hraw ▸ fromSlice_fast (decodeBlock_ok hok)
    exact ⟨p, rfl, hraw, hjson, by rw [jsonFallback, hjson]; exact hok⟩
  | err e => rw [hf] at hok; cases hok
  | panic => rw [hf] at hok; cases hok

/-- The body `{"result":"ab","error":null,"id":"7"}` and a newline. -/
def abEnvelope : List UInt8 := startNeedle ++ ascii "ab" ++ endNeedle 7

theorem fastPath_agrees_with_json_ab :
    fetchBlock (fun _ => "") (fun _ => "") (fun b => .ok b) 7 (.ok abEnvelope) = .ok [0xab] ∧
    ∃ p, fastPath 7 abEnvelope = .ok p ∧ abEnvelope = startNeedle ++ p ++ endNeedle 7 ∧
      fromSlice abEnvelope = .ok ⟨some p, none, ascii (toString 7)⟩ ∧
      (jsonFallback (fun _ => "") abEnvelope).bind (decodeBlock (fun _ => "") (fun b => .ok b)) =
        .ok [0xab] :=
  have hok : fetchBlock (fun _ => "") (fun _ => "") (fun b => .ok b) 7 (.ok abEnvelope) =
      .ok [0xab] := by decide
  ⟨hok, fastPath_agrees_with_json _ _ _ 7 _ _ (by decide) (by decide) hok⟩

/-! ## Overlapping needles -/

/-- The body `{"result":` followed by the end needle: the start needle's closing quote is the
end needle's opening one. -/
def overlapBody (id : Nat) : List UInt8 := startNeedle.dropLast ++ endNeedle id

theorem overlapBody_eq (id : Nat) : overlapBody id = startNeedle ++ (endNeedle id).tail := rfl

/-- For every request id, a body that passes both tests of the fast path is one byte shorter
than the two needles, and `fetch_block` panics on it where `truncate`'s length underflows. -/
theorem needles_overlap_panics (jsonText : JsonError → String) (hexText : FromHexError → String)
    (deserialize : List UInt8 → Except String Block) (id : Nat) :
    startNeedle.isPrefixOf (overlapBody id) = true ∧
      (endNeedle id).isSuffixOf (overlapBody id) = true ∧
      (overlapBody id).length < startNeedle.length + (endNeedle id).length ∧
      fetchBlock jsonText hexText deserialize id (.ok (overlapBody id)) = .panic := by
  have hpre : startNeedle.isPrefixOf (overlapBody id) = true := by
    rw [overlapBody_eq, List.isPrefixOf_iff_prefix]; exact List.prefix_append _ _
  have hsuf : (endNeedle id).isSuffixOf (overlapBody id) = true :=
    List.isSuffixOf_iff_suffix.2 (List.suffix_append _ _)
  have hstart : startNeedle.length = 11 := rfl
  have hend : 0 < (endNeedle id).length := by simp [endNeedle, ascii]
  have hlen : (overlapBody id).length = 10 + (endNeedle id).length := by
    simp [overlapBody, hstart]
  refine ⟨hpre, hsuf, by omega, ?_⟩
  rw [fetchBlock, hexBlock, if_pos (by rw [hpre, hsuf]; rfl), fastPath,
    if_pos (by rw [List.length_drop, hlen, hstart]; omega)]
  rfl

end Spaced
