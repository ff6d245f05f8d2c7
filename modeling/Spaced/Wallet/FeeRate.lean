import Spaced.Wallet.BatchTx

/-!
# The fee rate to beat, read from a rejected replacement

When bitcoind refuses to replace a transaction because the replacement pays too little, its
error message names both fee rates. The comment on `fee_rate_from_message` quotes it:

  `insufficient fee, rejecting replacement <txid>;`
  `new feerate <new> BTC/kvB <= old feerate <old> BTC/kvB`

`fee_rate_from_message` takes the piece after the first `;`, trims it, takes the piece after the
first `<=`, and reads its third word. `batch_tx` puts the rate it reads into the hint of a bid
whose broadcast failed (`errorData`).

Strings are lists of characters; `str::split` on a character is `List.splitOn`, and on `<=` it is
`splitPair`. What the code does with the word it finds (`parse::<f64>()`, the change of unit,
`FeeRate::from_sat_per_vb` and `to_sat_per_vb_ceil`) is the parameter `parseRate`.

## Main results

* `feeRateFromMessage_replacementRejection`: on every message of the quoted shape whose txid and
  rates hold no `;` or `<` and whose old rate is one word, `fee_rate_from_message` reads the old
  rate.
* `bid_rejection_hint`: the error map of a bid rejected with such a message carries the hint
  with that rate, whatever else the message holds.
-/

namespace Spaced

/-! ## The string functions of `core` -/

/-- `char::is_whitespace`: the Unicode `White_Space` property. -/
def isWhitespace (c : Char) : Bool :=
  let n := c.toNat
  (9 ≤ n && n ≤ 13) || n == 32 || n == 0x85 || n == 0xA0 || n == 0x1680 ||
    (0x2000 ≤ n && n ≤ 0x200A) || n == 0x2028 || n == 0x2029 || n == 0x202F || n == 0x205F ||
    n == 0x3000

/-- `str::trim`. -/
def trim (s : List Char) : List Char :=
  ((s.dropWhile isWhitespace).reverse.dropWhile isWhitespace).reverse

/-- `str::split` on the two-character pattern `a b`: matches are found from the left and do not
overlap. -/
def splitPair (a b : Char) : List Char → List (List Char)
  | [] => [[]]
  | [c] => [[c]]
  | c :: d :: rest =>
    if c = a ∧ d = b then [] :: splitPair a b rest
    else (splitPair a b (d :: rest)).modifyHead (c :: ·)

/-- `str::split_whitespace`: the pieces between runs of whitespace. -/
def splitWhitespace (s : List Char) : List (List Char) :=
  (s.splitOnP isWhitespace).filter fun w => !w.isEmpty

/-- `fee_rate_from_message`. -/
def feeRateFromMessage {α : Type} (parseRate : String → Option α) (message : String) :
    Option α :=
  if strContains message "insufficient fee, rejecting replacement" then
    (message.toList.splitOn ';')[1]? >>= fun feePart =>
    (splitPair '<' '=' (trim feePart))[1]? >>= fun oldFeeStr =>
    (splitWhitespace oldFeeStr)[2]? >>= fun word => parseRate (String.mk word)
  else none

/-! ## Splitting a text with known separators -/

theorem dropWhile_append_of_all {p : Char → Bool} {rest : List Char} :
    ∀ {l : List Char}, (∀ x ∈ l, p x = true) → (l ++ rest).dropWhile p = rest.dropWhile p
  | [], _ => rfl
  | x :: l, hl => by
    rw [List.forall_mem_cons] at hl
    rw [List.cons_append, List.dropWhile_cons, if_pos hl.1, dropWhile_append_of_all hl.2]

theorem trim_append_cons {l mid : List Char} {c d : Char} (hl : ∀ x ∈ l, isWhitespace x = true)
    (hc : isWhitespace c = false) (hd : isWhitespace d = false) :
    trim (l ++ c :: (mid ++ [d])) = c :: (mid ++ [d]) := by
  simp [trim, dropWhile_append_of_all hl, List.dropWhile_cons, hc, hd]

theorem splitPair_of_not_mem {a b : Char} :
    ∀ {xs : List Char}, a ∉ xs → splitPair a b xs = [xs]
  | [], _ => rfl
  | [_], _ => rfl
  | c :: d :: rest, h => by
    simp only [List.mem_cons, not_or] at h
    rw [splitPair, if_neg fun hc => h.1 hc.1.symm,
      @splitPair_of_not_mem a b (d :: rest) (by simp [h.2.1, h.2.2])]
    rfl

theorem splitPair_append {a b : Char} {ys : List Char} :
    ∀ {xs : List Char}, a ∉ xs → splitPair a b (xs ++ a :: b :: ys) = xs :: splitPair a b ys
  | [], _ => by simp [splitPair]
  | c :: xs, h => by
    simp only [List.mem_cons, not_or] at h
    cases xs with
    | nil => simp [splitPair, Ne.symm h.1, List.modifyHead]
    | cons d xs =>
      rw [List.cons_append, List.cons_append, splitPair, if_neg fun hc => h.1 hc.1.symm,
        ← List.cons_append, splitPair_append h.2]
      rfl

theorem splitOnP_words {p : Char → Bool} {xs ys : List Char} {sep : Char}
    (hxs : ∀ x ∈ xs, p x = false) (hsep : p sep = true) :
    (xs ++ sep :: ys).splitOnP p = xs :: ys.splitOnP p :=
  List.splitOnP_first p xs (fun x hx => by simp [hxs x hx]) sep hsep ys

/-! ## The rejection of an underpaying replacement -/

/-- The text bitcoind rejects an underpaying replacement with, as the comment on
`fee_rate_from_message` quotes it: the replaced transaction's id and the two fee rates. -/
def replacementRejection (txid newRate oldRate : String) : String :=
  "insufficient fee, rejecting replacement " ++ txid ++ "; new feerate " ++ newRate ++
    " BTC/kvB <= old feerate " ++ oldRate ++ " BTC/kvB"

section Rejection

variable {txid newRate oldRate : String}

/-- The rates' part of the message, after the `;`. -/
theorem replacementRejection_split (htxid : ';' ∉ txid.toList) (hnew : ';' ∉ newRate.toList)
    (hold : ';' ∉ oldRate.toList) :
    ((replacementRejection txid newRate oldRate).toList.splitOn ';')[1]? =
      some (" new feerate ".toList ++ newRate.toList ++ " BTC/kvB <= old feerate ".toList ++
        oldRate.toList ++ " BTC/kvB".toList) := by
  have hA : ';' ∉ "insufficient fee, rejecting replacement ".toList ++ txid.toList := by
    simp only [List.mem_append, not_or]
    exact ⟨by decide, htxid⟩
  have hB : ';' ∉ " new feerate ".toList ++ newRate.toList ++ " BTC/kvB <= old feerate ".toList ++
      oldRate.toList ++ " BTC/kvB".toList := by
    simp only [List.mem_append, not_or]
    exact ⟨⟨⟨⟨by decide, hnew⟩, by decide⟩, hold⟩, by decide⟩
  have hshape : (replacementRejection txid newRate oldRate).toList = [';'].intercalate
      ["insufficient fee, rejecting replacement ".toList ++ txid.toList,
        " new feerate ".toList ++ newRate.toList ++ " BTC/kvB <= old feerate ".toList ++
          oldRate.toList ++ " BTC/kvB".toList] := by
    simp [replacementRejection, List.intercalate]
  rw [hshape, List.splitOn_intercalate _ ';'
    (List.forall_mem_cons.2 ⟨hA, List.forall_mem_singleton.2 hB⟩) (List.cons_ne_nil _ _)]
  rfl

/-- The old rate's part: after the `<=` of the trimmed rates' part. -/
theorem replacementRejection_oldPart (hnew : '<' ∉ newRate.toList)
    (hold : '<' ∉ oldRate.toList) :
    (splitPair '<' '=' (trim (" new feerate ".toList ++ newRate.toList ++
      " BTC/kvB <= old feerate ".toList ++ oldRate.toList ++ " BTC/kvB".toList)))[1]? =
      some (" old feerate ".toList ++ oldRate.toList ++ " BTC/kvB".toList) := by
  have hpad : " new feerate ".toList ++ newRate.toList ++ " BTC/kvB <= old feerate ".toList ++
      oldRate.toList ++ " BTC/kvB".toList = [' '] ++ 'n' :: (("ew feerate ".toList ++
        newRate.toList ++ " BTC/kvB <= old feerate ".toList ++ oldRate.toList ++
          " BTC/kv".toList) ++ ['B']) := by
    simp
  have hsep : 'n' :: (("ew feerate ".toList ++ newRate.toList ++
      " BTC/kvB <= old feerate ".toList ++ oldRate.toList ++ " BTC/kv".toList) ++ ['B']) =
      ("new feerate ".toList ++ newRate.toList ++ " BTC/kvB ".toList) ++ '<' :: '=' ::
        (" old feerate ".toList ++ oldRate.toList ++ " BTC/kvB".toList) := by
    simp
  have hC : '<' ∉ "new feerate ".toList ++ newRate.toList ++ " BTC/kvB ".toList := by
    simp only [List.mem_append, not_or]
    exact ⟨⟨by decide, hnew⟩, by decide⟩
  have hD : '<' ∉ " old feerate ".toList ++ oldRate.toList ++ " BTC/kvB".toList := by
    simp only [List.mem_append, not_or]
    exact ⟨⟨by decide, hold⟩, by decide⟩
  rw [hpad, trim_append_cons (by decide) (by decide) (by decide), hsep, splitPair_append hC,
    splitPair_of_not_mem hD]
  rfl

/-- The third word of the old rate's part is the old rate. -/
theorem replacementRejection_word (hne : oldRate.toList ≠ [])
    (hws : ∀ c ∈ oldRate.toList, isWhitespace c = false) :
    (splitWhitespace (" old feerate ".toList ++ oldRate.toList ++ " BTC/kvB".toList))[2]? =
      some oldRate.toList := by
  have hshape : " old feerate ".toList ++ oldRate.toList ++ " BTC/kvB".toList =
      [] ++ ' ' :: ("old".toList ++ ' ' :: ("feerate".toList ++ ' ' ::
        (oldRate.toList ++ ' ' :: "BTC/kvB".toList))) := by
    simp
  rw [splitWhitespace, hshape, splitOnP_words (by decide) (by decide),
    splitOnP_words (by decide) (by decide), splitOnP_words (by decide) (by decide),
    splitOnP_words hws (by decide), List.splitOnP_eq_single _ _ (by decide)]
  simp only [String.toList] at hne
  simp [hne]

/-- On every message of the quoted shape whose txid and rates hold no `;` or `<` and whose old
rate is one word, `fee_rate_from_message` reads the old rate. -/
theorem feeRateFromMessage_replacementRejection {α : Type} (parseRate : String → Option α)
    (htxid : ';' ∉ txid.toList) (hnew : ';' ∉ newRate.toList ∧ '<' ∉ newRate.toList)
    (hold : oldRate.toList ≠ [] ∧
      ∀ c ∈ oldRate.toList, c ≠ ';' ∧ c ≠ '<' ∧ isWhitespace c = false) :
    feeRateFromMessage parseRate (replacementRejection txid newRate oldRate) =
      parseRate oldRate := by
  have hcontains : strContains (replacementRejection txid newRate oldRate)
      "insufficient fee, rejecting replacement" = true := by
    refine decide_eq_true (List.IsPrefix.isInfix ⟨" ".toList ++ txid.toList ++
      "; new feerate ".toList ++ newRate.toList ++ " BTC/kvB <= old feerate ".toList ++
        oldRate.toList ++ " BTC/kvB".toList, ?_⟩)
    simp [replacementRejection]
  simp only [feeRateFromMessage, if_pos hcontains, Option.bind_eq_bind, Option.some_bind,
    replacementRejection_split htxid hnew.1 fun h => (hold.2 _ h).1 rfl,
    replacementRejection_oldPart hnew.2 fun h => (hold.2 _ h).2.1 rfl,
    replacementRejection_word hold.1 fun c hc => (hold.2 c hc).2.2]
  rfl

theorem lookup_cons_ne {a k b : String} {es : List (String × String)} (h : a ≠ k) :
    ((k, b) :: es).lookup a = es.lookup a := by
  rw [List.lookup, beq_false_of_ne h]

/-- `BTreeMap::get` after `BTreeMap::insert`. -/
theorem lookup_mapInsert (m : List (String × String)) (k v k' : String) :
    (mapInsert m k v).lookup k' = if k' = k then some v else m.lookup k' := by
  by_cases hk : k' = k
  · subst hk; simp [mapInsert]
  · rw [if_neg hk, mapInsert, lookup_cons_ne hk]
    induction m with
    | nil => rfl
    | cons e m ih =>
      obtain ⟨k₀, v₀⟩ := e
      by_cases he : k₀ = k
      · subst he; rw [lookup_cons_ne hk, ← ih]; simp
      · rw [List.filter_cons_of_pos (by simpa using he)]
        by_cases h₀ : k' = k₀
        · subst h₀; simp
        · rw [lookup_cons_ne h₀, lookup_cons_ne h₀, ih]

/-- On bitcoind's rejection of an underpaying replacement, `fee_rate_from_message` reads the old
fee rate; when the broadcast of a bid fails with that message, the hint of the error map names
it, whether or not the message also reports unconfirmed inputs. -/
theorem bid_rejection_hint (parseRate : String → Option Nat) (debug : BitcoinRpcError → String)
    (code : Int) {rate : Nat} (htxid : ';' ∉ txid.toList)
    (hnew : ';' ∉ newRate.toList ∧ '<' ∉ newRate.toList)
    (hold : oldRate.toList ≠ [] ∧
      ∀ c ∈ oldRate.toList, c ≠ ';' ∧ c ≠ '<' ∧ isWhitespace c = false)
    (hrate : parseRate oldRate = some rate) :
    feeRateFromMessage parseRate (replacementRejection txid newRate oldRate) = some rate ∧
      (errorData (feeRateFromMessage parseRate) debug true
        (.rpc ⟨code, replacementRejection txid newRate oldRate⟩)).lookup "hint" =
        some (competingBidHint rate) := by
  have hread : feeRateFromMessage parseRate (replacementRejection txid newRate oldRate) =
      some rate := (feeRateFromMessage_replacementRejection parseRate htxid hnew hold).trans hrate
  refine ⟨hread, ?_⟩
  simp only [errorData, hread, lookup_mapInsert]
  simp

/-- The message quoted on `fee_rate_from_message`. -/
def quotedRejection : String :=
  replacementRejection "96bb0d5fa00a35e888ff8afb5b41903955b8f34b5b2de01d874ae579a4d1eba0"
    "0.01000000" "0.01000000"

/-- The rate the code makes of `0.01000000` BTC/kvB: 1000 sat/vB. -/
def quotedRate (s : String) : Option Nat := if s = "0.01000000" then some 1000 else none

theorem bid_rejection_hint_at :
    feeRateFromMessage quotedRate quotedRejection = some 1000 ∧
      (errorData (feeRateFromMessage quotedRate) (fun _ => "") true
        (.rpc ⟨-26, quotedRejection⟩)).lookup "hint" = some (competingBidHint 1000) :=
  bid_rejection_hint quotedRate (fun _ => "") (-26) (by decide) (by decide) (by decide) rfl

end Rejection

end Spaced
