import Spaced.Rpc.Hex

/-!
# Reading a JSON-RPC reply: `serde_json::from_slice::<JsonRpcResponse<String>>`

When its fast path does not apply, `fetch_block` decodes the body of a `getblock` reply with
`serde_json`. Modelled from `serde_json` and from the derived `Deserialize`, not from this
repository: the reader of JSON text over bytes, with `serde_json`'s recursion limit of 128
nested arrays and objects, its escapes (surrogate pairs included), its number grammar, and its
refusal of control bytes in strings and of anything but whitespace after the value; then the
deserialisation of a `JsonRpcResponse<String>`: unknown fields ignored, a repeated field
refused, `result` and `error` optional with `null` read as `None`, `id` required, and every
`String` checked to be UTF-8.

The model reads the whole value and then deserialises it, where `serde_json` does both in one
pass; the two accept the same bodies and return the same values. The texts of the errors are
not modelled: `JsonError` names their kinds.

## Main definitions

* `JsonValue`, `parseValue`, `readJson`: the reader.
* `JsonRpcResponse`, `deResponse`, `fromSlice`: the deserialisation.

## Main results

* `scanString_plain`: a string literal with no quote, backslash or control byte reads back as
  its bytes.
* `fromSlice_envelope`: `{"result":"P","error":null,"id":"I"}` followed by a newline reads as
  `result = Some(P)`, `error = None`, `id = I` when `P` and `I` are plain ASCII.
-/

namespace Spaced

/-- A JSON value as `serde_json` reads it: a number keeps its text, a string its decoded
bytes. -/
inductive JsonValue where
  | null
  | bool (b : Bool)
  | number (text : List UInt8)
  | string (s : List UInt8)
  | array (xs : List JsonValue)
  | object (fields : List (List UInt8 × JsonValue))

/-- The bytes of an ASCII text. -/
def ascii (s : String) : List UInt8 := s.toList.map fun c => UInt8.ofNat c.toNat

/-- JSON whitespace: space, tab, line feed and carriage return. -/
def isWs (b : UInt8) : Bool := b == 32 || b == 9 || b == 10 || b == 13

/-- `parse_whitespace`. -/
def skipWs : List UInt8 → List UInt8
  | b :: rest => if isWs b then skipWs rest else b :: rest
  | [] => []

/-- The input after the bytes `lit`, if it starts with them. -/
def expectLit : List UInt8 → List UInt8 → Option (List UInt8)
  | [], xs => some xs
  | c :: cs, x :: xs => if c = x then expectLit cs xs else none
  | _ :: _, [] => none

/-- An ASCII decimal digit. -/
def isDigit (b : UInt8) : Bool := 48 ≤ b && b ≤ 57

/-- `char::encode_utf8` of the code point `n`. -/
def utf8Encode (n : Nat) : List UInt8 :=
  if n < 0x80 then [UInt8.ofNat n]
  else if n < 0x800 then [UInt8.ofNat (0xC0 + n / 0x40), UInt8.ofNat (0x80 + n % 0x40)]
  else if n < 0x10000 then
    [UInt8.ofNat (0xE0 + n / 0x1000), UInt8.ofNat (0x80 + n / 0x40 % 0x40),
      UInt8.ofNat (0x80 + n % 0x40)]
  else
    [UInt8.ofNat (0xF0 + n / 0x40000), UInt8.ofNat (0x80 + n / 0x1000 % 0x40),
      UInt8.ofNat (0x80 + n / 0x40 % 0x40), UInt8.ofNat (0x80 + n % 0x40)]

/-- `decode_hex_escape`: the code unit of four hex digits. -/
def hexEscape (h₁ h₂ h₃ h₄ : UInt8) : Option Nat :=
  match val h₁ 0, val h₂ 0, val h₃ 0, val h₄ 0 with
  | .ok a, .ok b, .ok c, .ok d =>
    some (4096 * a.toNat + 256 * b.toNat + 16 * c.toNat + d.toNat)
  | _, _, _, _ => none

/-- The byte of a one-character escape: `\"`, `\\`, `\/`, `\b`, `\f`, `\n`, `\r`, `\t`. -/
def simpleEscape (e : UInt8) : Option UInt8 :=
  if e = 34 then some 34 else if e = 92 then some 92 else if e = 47 then some 47
  else if e = 98 then some 8 else if e = 102 then some 12 else if e = 110 then some 10
  else if e = 114 then some 13 else if e = 116 then some 9 else none

/-- Bytes read in front of what the rest of a string reads. -/
def prepend (bytes : List UInt8) (r : List UInt8 × List UInt8) : List UInt8 × List UInt8 :=
  (bytes ++ r.1, r.2)

mutual

/-- A string literal after its opening quote: its decoded bytes, and the input after the closing
quote. -/
def scanString : List UInt8 → Option (List UInt8 × List UInt8)
  | [] => none
  | b :: rest =>
    if b = 34 then some ([], rest)
    else if b = 92 then scanEscape rest
    else if b < 32 then none
    else prepend [b] <$> scanString rest

/-- A string literal after a backslash. A `\u` escape of a high surrogate must be followed by one
of a low surrogate, and a low surrogate may not come alone. -/
def scanEscape : List UInt8 → Option (List UInt8 × List UInt8)
  | [] => none
  | e :: rest =>
    if e = 117 then
      match rest with
      | h₁ :: h₂ :: h₃ :: h₄ :: rest₁ =>
        match hexEscape h₁ h₂ h₃ h₄ with
        | none => none
        | some n =>
          if 0xDC00 ≤ n ∧ n ≤ 0xDFFF then none
          else if 0xD800 ≤ n ∧ n ≤ 0xDBFF then
            match rest₁ with
            | b₁ :: b₂ :: l₁ :: l₂ :: l₃ :: l₄ :: rest₂ =>
              match hexEscape l₁ l₂ l₃ l₄ with
              | some m =>
                if b₁ = 92 ∧ b₂ = 117 ∧ 0xDC00 ≤ m ∧ m ≤ 0xDFFF then
                  prepend (utf8Encode ((n - 0xD800) * 0x400 + (m - 0xDC00) + 0x10000)) <$>
                    scanString rest₂
                else none
              | none => none
            | _ => none
          else prepend (utf8Encode n) <$> scanString rest₁
      | _ => none
    else
      match simpleEscape e with
      | some c => prepend [c] <$> scanString rest
      | none => none

end

/-- An optional sign: `-` before a number, `+` or `-` in an exponent. -/
def scanSign (signs : List UInt8) : List UInt8 → List UInt8 × List UInt8
  | b :: rest => if b ∈ signs then ([b], rest) else ([], b :: rest)
  | [] => ([], [])

/-- The digits at the start of the input, at least one. -/
def scanDigits (xs : List UInt8) : Option (List UInt8 × List UInt8) :=
  if (xs.span isDigit).1.isEmpty then none else some (xs.span isDigit)

/-- The integer part of a number: `0` not followed by a digit, or digits from a non-zero one. -/
def scanInt : List UInt8 → Option (List UInt8 × List UInt8)
  | 48 :: rest => if (rest.head?.map isDigit).getD false then none else some ([48], rest)
  | xs => scanDigits xs

/-- An optional fraction: a point and at least one digit. -/
def scanFrac : List UInt8 → Option (List UInt8 × List UInt8)
  | 46 :: rest => prepend [46] <$> scanDigits rest
  | xs => some ([], xs)

/-- An optional exponent: `e` or `E`, an optional sign, and at least one digit. -/
def scanExp : List UInt8 → Option (List UInt8 × List UInt8)
  | e :: rest =>
    if e = 101 ∨ e = 69 then
      prepend (e :: (scanSign [43, 45] rest).1) <$> scanDigits (scanSign [43, 45] rest).2
    else some ([], e :: rest)
  | [] => some ([], [])

/-- A number as `parse_number` reads it, its text and the input after it. -/
def scanNumber (xs : List UInt8) : Option (List UInt8 × List UInt8) :=
  (scanInt (scanSign [45] xs).2).bind fun int =>
    (scanFrac int.2).bind fun frac =>
      (scanExp frac.2).map fun exp => ((scanSign [45] xs).1 ++ int.1 ++ frac.1 ++ exp.1, exp.2)

mutual

/-- A JSON value at the start of the input. `depth` is the nesting `serde_json` still allows
(its `remaining_depth`) and `fuel` bounds the calls: each consumes a byte. -/
def parseValue : Nat → Nat → List UInt8 → Option (JsonValue × List UInt8)
  | 0, _, _ => none
  | _ + 1, _, [] => none
  | fuel + 1, depth, b :: rest =>
    if b = 110 then (JsonValue.null, ·) <$> expectLit [117, 108, 108] rest
    else if b = 116 then (JsonValue.bool true, ·) <$> expectLit [114, 117, 101] rest
    else if b = 102 then (JsonValue.bool false, ·) <$> expectLit [97, 108, 115, 101] rest
    else if b = 34 then (fun r => (JsonValue.string r.1, r.2)) <$> scanString rest
    else if b = 45 ∨ isDigit b then
      (fun r => (JsonValue.number r.1, r.2)) <$> scanNumber (b :: rest)
    else if b = 91 then
      if depth ≤ 1 then none
      else
        if (skipWs rest).head? = some 93 then some (.array [], (skipWs rest).tail)
        else parseElems fuel (depth - 1) [] (skipWs rest)
    else if b = 123 then
      if depth ≤ 1 then none
      else
        if (skipWs rest).head? = some 125 then some (.object [], (skipWs rest).tail)
        else parseMembers fuel (depth - 1) [] (skipWs rest)
    else none

/-- The elements of an array from the next one on; `acc` holds those read. -/
def parseElems : Nat → Nat → List JsonValue → List UInt8 → Option (JsonValue × List UInt8)
  | 0, _, _, _ => none
  | fuel + 1, depth, acc, xs =>
    match parseValue fuel depth xs with
    | none => none
    | some (v, rest) =>
      match skipWs rest with
      | b :: rest₁ =>
        if b = 44 then parseElems fuel depth (acc ++ [v]) (skipWs rest₁)
        else if b = 93 then some (.array (acc ++ [v]), rest₁)
        else none
      | [] => none

/-- The members of an object from the next one on; `acc` holds those read. -/
def parseMembers : Nat → Nat → List (List UInt8 × JsonValue) → List UInt8 →
    Option (JsonValue × List UInt8)
  | 0, _, _, _ => none
  | fuel + 1, depth, acc, xs =>
    match expectLit [34] xs >>= scanString with
    | none => none
    | some (key, rest₁) =>
      match expectLit [58] (skipWs rest₁) with
      | none => none
      | some rest₂ =>
        match parseValue fuel depth (skipWs rest₂) with
        | none => none
        | some (v, rest₃) =>
          match skipWs rest₃ with
          | b :: rest₄ =>
            if b = 44 then parseMembers fuel depth (acc ++ [(key, v)]) (skipWs rest₄)
            else if b = 125 then some (.object (acc ++ [(key, v)]), rest₄)
            else none
          | [] => none

end

/-- `from_slice` reading one value: whitespace, the value, whitespace, and nothing after. -/
def readJson (raw : List UInt8) : Option JsonValue :=
  match parseValue (raw.length + 1) 128 (skipWs raw) with
  | some (v, rest) => if skipWs rest = [] then some v else none
  | none => none

/-! ## Deserialising `JsonRpcResponse<String>` -/

/-- The kinds of `serde_json::Error` this deserialisation raises. -/
inductive JsonError where
  | syntaxError
  | invalidType
  | invalidLength
  | invalidUnicode
  | invalidValue
  | duplicateField (name : String)
  | missingField (name : String)
  deriving DecidableEq, Repr

/-- A continuation byte of UTF-8. -/
def isCont (b : UInt8) : Bool := 0x80 ≤ b && b ≤ 0xBF

mutual

/-- `str::from_utf8`: the characters of well-formed UTF-8, with no overlong form, surrogate or
code point above `0x10FFFF`. -/
def utf8Decode : List UInt8 → Option (List Char)
  | [] => some []
  | b₀ :: rest =>
    if b₀ < 0x80 then (Char.ofNat b₀.toNat :: ·) <$> utf8Decode rest
    else utf8Multi b₀ rest

/-- A character of two to four bytes after its lead byte `b₀`, and the characters after it. -/
def utf8Multi (b₀ : UInt8) : List UInt8 → Option (List Char)
  | [] => none
  | b₁ :: rest₁ =>
    if 0xC2 ≤ b₀ ∧ b₀ ≤ 0xDF then
      if isCont b₁ then
        (Char.ofNat ((b₀.toNat - 0xC0) * 0x40 + (b₁.toNat - 0x80)) :: ·) <$> utf8Decode rest₁
      else none
    else if 0xE0 ≤ b₀ ∧ b₀ ≤ 0xEF then
      match rest₁ with
      | b₂ :: rest₂ =>
        if (if b₀ = 0xE0 then 0xA0 else 0x80) ≤ b₁ ∧ b₁ ≤ (if b₀ = 0xED then 0x9F else 0xBF) ∧
            isCont b₂ then
          (Char.ofNat ((b₀.toNat - 0xE0) * 0x1000 + (b₁.toNat - 0x80) * 0x40 +
            (b₂.toNat - 0x80)) :: ·) <$> utf8Decode rest₂
        else none
      | [] => none
    else if 0xF0 ≤ b₀ ∧ b₀ ≤ 0xF4 then
      match rest₁ with
      | b₂ :: b₃ :: rest₃ =>
        if (if b₀ = 0xF0 then 0x90 else 0x80) ≤ b₁ ∧ b₁ ≤ (if b₀ = 0xF4 then 0x8F else 0xBF) ∧
            isCont b₂ ∧ isCont b₃ then
          (Char.ofNat ((b₀.toNat - 0xF0) * 0x40000 + (b₁.toNat - 0x80) * 0x1000 +
            (b₂.toNat - 0x80) * 0x40 + (b₃.toNat - 0x80)) :: ·) <$> utf8Decode rest₃
        else none
      | _ => none
    else none

end

/-- A `String`: a JSON string of valid UTF-8, kept as its bytes, which is what a Rust `String`
is. -/
def deString : JsonValue → Except JsonError (List UInt8)
  | .string s => if (utf8Decode s).isSome then .ok s else .error .invalidUnicode
  | _ => .error .invalidType

/-- An `Option<T>`: `null` is `None`. -/
def deOption {α : Type} (de : JsonValue → Except JsonError α) : JsonValue → Except JsonError (Option α)
  | .null => .ok none
  | v => some <$> de v

/-- The value of a run of decimal digits. -/
def digitsValue (ds : List UInt8) : Nat := ds.foldl (fun n d => 10 * n + (d.toNat - 48)) 0

/-- An `i32`: an integer that is not `-0` (which `serde_json` reads as a float), within range. -/
def deI32 : JsonValue → Except JsonError Int
  | .number (45 :: ds) =>
    if ds.all isDigit then
      if digitsValue ds ≠ 0 ∧ digitsValue ds ≤ 2 ^ 31 then .ok (-(digitsValue ds : Int))
      else if digitsValue ds = 0 then .error .invalidType else .error .invalidValue
    else .error .invalidType
  | .number ds =>
    if ds.all isDigit then
      if digitsValue ds < 2 ^ 31 then .ok (digitsValue ds) else .error .invalidValue
    else .error .invalidType
  | _ => .error .invalidType

/-- A `String` as Lean's `String`. -/
def deText (v : JsonValue) : Except JsonError String :=
  deString v >>= fun s =>
    match utf8Decode s with
    | some cs => .ok (String.mk cs)
    | none => .error .invalidUnicode

/-- A struct field's name: keys that are not UTF-8 are refused. -/
def fieldKey (k : List UInt8) : Except JsonError (List UInt8) :=
  if (utf8Decode k).isSome then .ok k else .error .invalidUnicode

/-- Setting a field seen for the first time. -/
def setField {α : Type} (name : String) (seen : Option α) (de : Except JsonError α) :
    Except JsonError (Option α) :=
  match seen with
  | some _ => .error (.duplicateField name)
  | none => some <$> de

/-- `JsonRpcError`, from a map `{code, message}` or a sequence `[code, message]`. -/
def deRpcError : JsonValue → Except JsonError JsonRpcError
  | .object fields => do
    let (code, message) ← fields.foldlM (fun (acc : Option Int × Option String) kv => do
        let k ← fieldKey kv.1
        if k = ascii "code" then return (← setField "code" acc.1 (deI32 kv.2), acc.2)
        else if k = ascii "message" then
          return (acc.1, ← setField "message" acc.2 (deText kv.2))
        else return acc) (none, none)
    match code, message with
    | some c, some m => .ok ⟨c, m⟩
    | none, _ => .error (.missingField "code")
    | _, none => .error (.missingField "message")
  | .array [c, m] => do return ⟨← deI32 c, ← deText m⟩
  | .array _ => .error .invalidLength
  | _ => .error .invalidType

/-- `JsonRpcResponse<String>`, its `String`s as their bytes. -/
structure JsonRpcResponse where
  result : Option (List UInt8)
  error : Option JsonRpcError
  id : List UInt8
  deriving DecidableEq, Repr

/-- The fields of a `JsonRpcResponse<String>` read so far, each `none` until seen. -/
abbrev ResponseFields := Option (Option (List UInt8)) × Option (Option JsonRpcError) ×
  Option (List UInt8)

/-- One member of the object a `JsonRpcResponse<String>` is read from. -/
def responseField (acc : ResponseFields) (kv : List UInt8 × JsonValue) :
    Except JsonError ResponseFields := do
  let k ← fieldKey kv.1
  if k = ascii "result" then
    return (← setField "result" acc.1 (deOption deString kv.2), acc.2)
  else if k = ascii "error" then
    return (acc.1, ← setField "error" acc.2.1 (deOption deRpcError kv.2), acc.2.2)
  else if k = ascii "id" then
    return (acc.1, acc.2.1, ← setField "id" acc.2.2 (deString kv.2))
  else return acc

/-- `JsonRpcResponse<String>`, from a map or from a sequence `[result, error, id]`. -/
def deResponse : JsonValue → Except JsonError JsonRpcResponse
  | .object fields => do
    let (result, error, id) ← fields.foldlM responseField (none, none, none)
    match id with
    | some i => .ok ⟨result.getD none, error.getD none, i⟩
    | none => .error (.missingField "id")
  | .array [r, e, i] => do return ⟨← deOption deString r, ← deOption deRpcError e, ← deString i⟩
  | .array _ => .error .invalidLength
  | _ => .error .invalidType

/-- `serde_json::from_slice::<JsonRpcResponse<String>>`. -/
def fromSlice (raw : List UInt8) : Except JsonError JsonRpcResponse :=
  match readJson raw with
  | some v => deResponse v
  | none => .error .syntaxError

/-! ## Reading the envelope of a `getblock` reply

The fast path of `fetch_block` cuts the payload out of a body `{"result":"P","error":null,"id":"I"}`
followed by a newline. When `P` and `I` hold only plain ASCII, `serde_json` reads that body as
`result = Some(P)`, `error = None` and `id = I`: the reader is stepped through the envelope one
member at a time, each step a lemma about one function. -/

/-- A byte that a string literal holds as itself: printable ASCII other than a quote or a
backslash. -/
def isPlain (b : UInt8) : Bool := 32 ≤ b && b < 128 && b != 34 && b != 92

theorem isPlain_lt {b : UInt8} (h : isPlain b = true) : b < 0x80 := by
  simp only [isPlain, Bool.and_eq_true, decide_eq_true_eq] at h
  exact h.1.1.2

theorem skipWs_of_isWs_false {b : UInt8} (hb : isWs b = false) (rest : List UInt8) :
    skipWs (b :: rest) = b :: rest := by
  simp [skipWs, hb]

/-- A string literal of plain bytes reads back as its bytes. -/
theorem scanString_plain {p : List UInt8} (hp : ∀ b ∈ p, isPlain b = true) (rest : List UInt8) :
    scanString (p ++ 34 :: rest) = some (p, rest) := by
  induction p with
  | nil => simp [scanString]
  | cons b p ih =>
    have hb := hp b (List.mem_cons_self _ _)
    simp only [isPlain, Bool.and_eq_true, bne_iff_ne, ne_eq, decide_eq_true_eq] at hb
    rw [List.cons_append, scanString, if_neg hb.2, if_neg hb.1.2,
      if_neg (show ¬ b < 32 from fun h => Nat.not_le.2 h hb.1.1.1),
      ih fun c hc => hp c (List.mem_cons_of_mem _ hc)]
    rfl

theorem utf8Decode_ascii {s : List UInt8} (hs : ∀ b ∈ s, b < 0x80) :
    utf8Decode s = some (s.map fun b => Char.ofNat b.toNat) := by
  induction s with
  | nil => rfl
  | cons b s ih =>
    rw [utf8Decode, if_pos (hs b (List.mem_cons_self _ _)),
      ih fun c hc => hs c (List.mem_cons_of_mem _ hc)]
    rfl

theorem parseValue_string {p : List UInt8} (hp : ∀ b ∈ p, isPlain b = true) (fuel depth : Nat)
    (rest : List UInt8) :
    parseValue (fuel + 1) depth (34 :: (p ++ 34 :: rest)) = some (.string p, rest) := by
  simp [parseValue, scanString_plain hp]

theorem parseValue_null (fuel depth : Nat) (rest : List UInt8) :
    parseValue (fuel + 1) depth (110 :: 117 :: 108 :: 108 :: rest) = some (.null, rest) := by
  simp [parseValue, expectLit]

theorem parseValue_object {fuel depth : Nat} {xs : List UInt8} (hd : 1 < depth)
    (hxs : skipWs xs = xs) (hne : xs.head? ≠ some 125) :
    parseValue (fuel + 1) depth (123 :: xs) = parseMembers fuel (depth - 1) [] xs := by
  simp [parseValue, isDigit, hxs, hne, Nat.not_le.2 hd]

/-- One member `"key":value` with a plain key, and what follows the byte `b` after its value. -/
theorem parseMembers_member {key xs : List UInt8} (hk : ∀ b ∈ key, isPlain b = true)
    (hxs : skipWs xs = xs) {fuel depth : Nat} {acc : List (List UInt8 × JsonValue)} {v : JsonValue}
    {b : UInt8} {rest : List UInt8} (hv : parseValue fuel depth xs = some (v, b :: rest))
    (hb : isWs b = false) :
    parseMembers (fuel + 1) depth acc (34 :: (key ++ 34 :: 58 :: xs)) =
      if b = 44 then parseMembers fuel depth (acc ++ [(key, v)]) (skipWs rest)
      else if b = 125 then some (.object (acc ++ [(key, v)]), rest) else none := by
  simp [parseMembers, expectLit, scanString_plain hk, skipWs_of_isWs_false (b := 58) rfl, hxs, hv,
    skipWs_of_isWs_false hb]

theorem readJson_envelope {p i : List UInt8} (hp : ∀ b ∈ p, isPlain b = true)
    (hi : ∀ b ∈ i, isPlain b = true) :
    readJson (ascii "\x7b\"result\":\"" ++ p ++ ascii "\",\"error\":null,\"id\":\"" ++ i ++
      ascii "\"\x7d\n") =
      some (.object [(ascii "result", .string p), (ascii "error", .null), (ascii "id", .string i)]) := by
  have hraw : ascii "\x7b\"result\":\"" ++ p ++ ascii "\",\"error\":null,\"id\":\"" ++ i ++
      ascii "\"\x7d\n" = 123 :: 34 :: (ascii "result" ++ 34 :: 58 :: 34 :: (p ++ 34 :: 44 ::
        34 :: (ascii "error" ++ 34 :: 58 :: 110 :: 117 :: 108 :: 108 :: 44 ::
        34 :: (ascii "id" ++ 34 :: 58 :: 34 :: (i ++ 34 :: 125 :: [10]))))) := by
    simp only [List.append_assoc]; rfl
  -- the fuel is the body's length plus one, and five calls nest
  obtain ⟨n, hn⟩ : ∃ n, (ascii "\x7b\"result\":\"" ++ p ++ ascii "\",\"error\":null,\"id\":\"" ++
      i ++ ascii "\"\x7d\n").length + 1 = n + 5 := ⟨p.length + i.length + 31, by simp [ascii]; omega⟩
  rw [readJson, hn, hraw, skipWs_of_isWs_false (b := 123) rfl,
    parseValue_object (by decide) (skipWs_of_isWs_false (b := 34) rfl _) (by simp),
    parseMembers_member (b := 44) (by decide) (skipWs_of_isWs_false (b := 34) rfl _)
      (parseValue_string hp _ _ _) rfl,
    if_pos rfl, skipWs_of_isWs_false (b := 34) rfl,
    parseMembers_member (b := 44) (by decide) (skipWs_of_isWs_false (b := 110) rfl _)
      (parseValue_null _ _ _) rfl,
    if_pos rfl, skipWs_of_isWs_false (b := 34) rfl,
    parseMembers_member (b := 125) (by decide) (skipWs_of_isWs_false (b := 34) rfl _)
      (parseValue_string hi _ _ _) rfl,
    if_neg (by decide), if_pos rfl]
  rfl

theorem deString_ascii {s : List UInt8} (hs : ∀ b ∈ s, b < 0x80) :
    deString (.string s) = .ok s := by
  rw [deString, utf8Decode_ascii hs]; rfl

/-- With the two strings read, what is left of the deserialisation runs on the fixed keys. -/
theorem deResponse_envelope {p i : List UInt8} (hp : ∀ b ∈ p, b < 0x80) (hi : ∀ b ∈ i, b < 0x80) :
    deResponse (.object [(ascii "result", .string p), (ascii "error", .null), (ascii "id", .string i)]) =
      .ok ⟨some p, none, i⟩ := by
  simp only [deResponse, List.foldlM_cons, List.foldlM_nil, responseField, deOption,
    deString_ascii hp, deString_ascii hi]
  rfl

theorem fromSlice_envelope {p i : List UInt8} (hp : ∀ b ∈ p, isPlain b = true)
    (hi : ∀ b ∈ i, isPlain b = true) :
    fromSlice (ascii "\x7b\"result\":\"" ++ p ++ ascii "\",\"error\":null,\"id\":\"" ++ i ++
      ascii "\"\x7d\n") = .ok ⟨some p, none, i⟩ := by
  rw [fromSlice, readJson_envelope hp hi]
  exact deResponse_envelope (fun b hb => isPlain_lt (hp b hb)) fun b hb => isPlain_lt (hi b hb)

end Spaced
