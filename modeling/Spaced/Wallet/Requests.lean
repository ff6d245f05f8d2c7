import Spaced.Wallet.Outputs

/-!
# Checking the requests of a batch: the start of `RpcWallet::batch_tx`

Before it builds a transaction, `batch_tx` settles the fee rate and walks the request list,
turning each request into calls on the transaction builder after checking it against the
snapshot of the spaces chain, the mempool and the wallet:

* `SendCoins` resolves its recipient (`resolve`: an address, a space address, or the script of a
  space name's holder) and adds a coin transfer;
* `Transfer` parses every name, resolves a recipient that must not be a plain address, and adds
  one space transfer per name, each for a space the wallet owns;
* `Open` adds an open, refusing, unless `force`, a name that exists or has an open in the mempool;
* `Bid` adds a bid on an existing space;
* `Register` adds the registration of a space whose script is the wallet's, refusing, unless
  `force`, a space in pre-auctions or before its claim height;
* `Execute` adds one execution over spaces whose scripts are the wallet's.

The first refused request ends `batch_tx` with its error, before anything is built or sent. The
snapshot, the mempool, the wallet and the parsers of addresses and names are the parameters in
`RequestEnv`; names and addresses are their display texts, and the error texts are the source's.
`next_unused_space_address()` is a recipient the builder is told to ask the wallet for.

## Main results

* `handleRequest_eq_ok`, `prepareRequests_eq_ok`: the checks let a request list through exactly
  when every request is `Admitted`, and the builder then receives the admitted calls, request by
  request. Every call that reaches the builder is `Checked` (`prepareRequests_checked`).
* `prepareRequests_spends_own`: every space the builder is asked to act on as its holder is the
  snapshot's record of a space and is held by a script of the wallet; a transferred space is
  also owned.
* `prepareRequests_unforced`: without `force`, every open is for a name with no space and no open
  in the mempool, and every registration is for a space past its claim height.
* `prepareRequests_transfer_recipient`: a space is never sent to a plain address.
* `prepareRequests_panic_iff`: the checks panic exactly when, without `force`, a `Register` names
  a record of the wallet's with no space in it after every earlier request was admitted; no other
  check panics.
* `batchTxRequest_refused`: a batch with a refused request returns its error and sends nothing.
* `coins_avoid_spaces`: the coins offered to the builder never include the outpoint of a space it
  is asked to move.
-/

namespace Spaced

/-- The part of a protocol `Space` that `batch_tx` reads. -/
structure Space where
  /-- `is_owned()`: the space's auction is over and it has a holder. -/
  owned : Bool
  /-- `claim_height()`: from when the winning bid may register, once the auction has started. -/
  claimHeight : Option Nat
  deriving DecidableEq, Repr

/-- A protocol `SpaceOut`: the space it carries, if any, and its script. -/
structure Spaceout where
  space : Option Space
  scriptPubkey : String
  deriving DecidableEq, Repr

/-- The open `mempool.get_open(name)` finds, as the error text shows it. -/
structure MempoolOpen where
  txid : String
  seen : String
  deriving DecidableEq, Repr

/-- What the request checks ask of the libraries, the snapshot, the mempool and the wallet. -/
structure RequestEnv where
  /-- `Address::from_str(to).ok()`. -/
  parseAddress : String → Option String
  /-- `address.require_network(network.fallback_network())`. -/
  requireNetwork : String → Except AnyError String
  /-- `SpaceAddress::from_str(to).ok()`, as its address. -/
  parseSpaceAddress : String → Option String
  /-- `SName::from_str`, as the name it displays. -/
  parseSName : String → Except AnyError String
  /-- `store.get_space_info(&SpaceHash::from(Sha256::hash(name.to_bytes())))`. -/
  spaceInfo : String → Except AnyError (Option (FullSpaceOut Spaceout))
  /-- `Address::from_script(script, network.fallback_network())`. -/
  fromScript : String → Except AnyError String
  /-- `wallet.spaces.is_mine(script)`. -/
  isMine : String → Bool
  /-- `wallet.spaces.local_chain().tip().height()`. -/
  tipHeight : Nat
  /-- `mempool.get_open(name)`. -/
  mempoolOpen : String → Option MempoolOpen

/-- `RpcWalletRequest`, with the parameters `batch_tx` reads. -/
inductive WalletRequest where
  | sendCoins (target : String) (amount : Nat)
  | transfer (spaces : List String) (target : String)
  | «open» (name : String) (amount : Nat)
  | bid (name : String) (amount : Nat)
  | register (name : String) (target : Option String)
  | execute (context : List String) (spaceScript : String)
  deriving DecidableEq, Repr

/-- Where a registered or executed space goes. -/
inductive Recipient where
  /-- `wallet.next_unused_space_address()`. -/
  | nextUnused
  | address (a : String)
  deriving DecidableEq, Repr

/-- A call `batch_tx` makes on the transaction builder. -/
inductive BuilderCall where
  /-- `add_transfer(TransferRequest::Coin(..))`. -/
  | coinTransfer (amount : Nat) (recipient : String)
  /-- `add_transfer(TransferRequest::Space(..))`. -/
  | spaceTransfer (space : FullSpaceOut Spaceout) (recipient : String)
  | «open» (name : String) (amount : Nat)
  | bid (space : FullSpaceOut Spaceout) (amount : Nat)
  | register (space : FullSpaceOut Spaceout) (target : Recipient)
  | execute (spaces : List (FullSpaceOut Spaceout × Recipient)) (spaceScript : String)
  deriving DecidableEq, Repr

/-! ## Two shapes of Rust control flow -/

namespace Outcome

variable {ε α β : Type}

/-- `match x { None => return Err(e), Some(a) => a }`. -/
def orErr (e : ε) : Option α → Outcome ε α
  | some a => ok a
  | none => err e

@[simp] theorem orErr_some (e : ε) (a : α) : orErr e (some a) = ok a := rfl

@[simp] theorem orErr_eq_ok {e : ε} {x : Option α} {a : α} :
    orErr e x = ok a ↔ x = some a := by
  cases x <;> simp [orErr]

@[simp] theorem bind_orErr_eq_ok {x : Outcome ε (Option α)} {e : ε} {a : α} :
    x.bind (orErr e) = ok a ↔ x = ok (some a) := by
  cases x <;> simp

@[simp] theorem ite_err_eq_ok {c : Prop} [Decidable c] {x : Outcome ε α} {e : ε} {b : α} :
    (if c then x else err e) = ok b ↔ c ∧ x = ok b := by
  split <;> simp_all

@[simp] theorem orErr_ne_panic (e : ε) (x : Option α) : orErr e x ≠ panic := by
  cases x <;> simp [orErr]

/-- A loop `for x in xs { ys.push(f(x)?) }`: the results in order, or how the first call that
returns no value ends. -/
def traverse (f : α → Outcome ε β) : List α → Outcome ε (List β)
  | [] => ok []
  | x :: xs => (f x).bind fun y => (traverse f xs).bind fun ys => ok (y :: ys)

theorem traverse_eq_ok {f : α → Outcome ε β} :
    ∀ {xs : List α} {ys : List β},
      traverse f xs = ok ys ↔ List.Forall₂ (fun x y => f x = ok y) xs ys
  | [], ys => by cases ys <;> simp [traverse]
  | x :: xs, ys => by
    simp only [traverse, bind_eq_ok, traverse_eq_ok, ok.injEq, List.forall₂_cons_left_iff]
    exact ⟨fun ⟨y, hy, ys', hys', h⟩ => ⟨y, ys', hy, hys', h.symm⟩,
      fun ⟨y, ys', hy, hys', h⟩ => ⟨y, hy, ys', hys', h.symm⟩⟩

/-- The loop stops at the first call that fails, after every call before it has returned. -/
theorem traverse_append_err {f : α → Outcome ε β} {x : α} {e : ε} (post : List α)
    (hx : f x = err e) : ∀ {pre : List α}, (∀ p ∈ pre, ∃ y, f p = ok y) →
      traverse f (pre ++ x :: post) = err e
  | [], _ => by simp [traverse, hx]
  | p :: pre, h => by
    obtain ⟨y, hy⟩ := h p (List.mem_cons_self ..)
    simp [traverse, hy, traverse_append_err post hx fun q hq => h q (List.mem_cons_of_mem _ hq)]

/-- The loop panics exactly at a call that panics, after every call before it has returned. -/
theorem traverse_eq_panic {f : α → Outcome ε β} {xs : List α} :
    traverse f xs = panic ↔ ∃ pre x post ys, xs = pre ++ x :: post ∧
      List.Forall₂ (fun p y => f p = ok y) pre ys ∧ f x = panic := by
  induction xs with
  | nil => exact ⟨nofun, fun ⟨pre, x, post, _, h, _⟩ => by simp at h⟩
  | cons x xs ih =>
    simp only [traverse, bind_eq_panic, reduceCtorEq, and_false, exists_false, or_false, ih]
    constructor
    · rintro (h | ⟨y, hy, pre, x', post, ys, rfl, hpre, hx'⟩)
      · exact ⟨[], x, xs, [], rfl, .nil, h⟩
      · exact ⟨x :: pre, x', post, y :: ys, rfl, .cons hy hpre, hx'⟩
    · rintro ⟨_ | ⟨p, pre⟩, x', post, ys, h, hpre, hx'⟩
      · obtain ⟨rfl, rfl⟩ := List.cons.inj h
        exact .inl hx'
      · obtain ⟨rfl, rfl⟩ := List.cons.inj h
        obtain ⟨y, ys', hy, hpre', rfl⟩ := List.forall₂_cons_left_iff.1 hpre
        exact .inr ⟨y, hy, pre, x', post, ys', rfl, hpre', hx'⟩

theorem traverse_ne_panic {f : α → Outcome ε β} (hf : ∀ x, f x ≠ panic) (xs : List α) :
    traverse f xs ≠ panic := fun h =>
  let ⟨_, x, _, _, _, _, hx⟩ := traverse_eq_panic.1 h
  hf x hx

end Outcome

open Outcome (orErr traverse)

section Checks

variable (env : RequestEnv)

/-- `resolve`: the address a request's `to` names. A plain address is refused where a space
address is required; a space name resolves to the address of its holder's script, or to nothing
when the snapshot has no such space. -/
def resolve (target : String) (requireSpaceAddress : Bool) : Except AnyError (Option String) :=
  match env.parseAddress target with
  | some address =>
    if requireSpaceAddress then .error (.msg "recipient must be a space address")
    else some <$> env.requireNetwork address
  | none =>
    match env.parseSpaceAddress target with
    | some address => .ok (some address)
    | none =>
      match env.parseSName target with
      | .error _ => .error (.msg "recipient must be a valid space name or an address")
      | .ok sname =>
        env.spaceInfo sname >>= fun
          | none => .ok none
          | some full => some <$> env.fromScript full.spaceout.scriptPubkey

/-- The ownership test of `Transfer`: the record carries a space, the space is owned, and its
script is the wallet's. -/
def canTransfer (full : FullSpaceOut Spaceout) : Bool :=
  match full.spaceout.space with
  | some space => space.owned && env.isMine full.spaceout.scriptPubkey
  | none => false

/-- One name of a `Transfer`, already parsed. -/
def transferSpace (recipient space : String) : Outcome AnyError BuilderCall :=
  let notOwned := AnyError.msg ("sendspaces: you don't own `" ++ space ++ "`")
  (Outcome.ofExcept (env.spaceInfo space)).bind (orErr notOwned) |>.bind fun full =>
    if canTransfer env full then .ok (.spaceTransfer full recipient) else .err notOwned

/-- The space record a request names, or the error `batch_tx` gives when there is none. -/
def lookupSpace (name : String) (missing : AnyError) :
    Outcome AnyError (FullSpaceOut Spaceout) :=
  (Outcome.ofExcept (env.parseSName name)).bind fun sname =>
    (Outcome.ofExcept (env.spaceInfo sname)).bind (orErr missing)

/-- One space of an `Execute`'s context. -/
def executeSpace (space : String) : Outcome AnyError (FullSpaceOut Spaceout × Recipient) :=
  (lookupSpace env space (.msg ("execute on '" ++ space ++ "': space does not exist"))).bind
    fun full =>
  if env.isMine full.spaceout.scriptPubkey then .ok (full, .nextUnused)
  else .err (.msg ("execute on '" ++ space ++ "': you don't own this space"))

/-- The checks `Open` makes unless `force`: no space under the name, and no open of it in the
mempool. -/
def openCheck (name sname : String) : Outcome AnyError Unit :=
  (Outcome.ofExcept (env.spaceInfo sname)).bind fun spaceout =>
    if spaceout.isSome then .err (.msg ("open '" ++ name ++ "': space already exists"))
    else
      match env.mempoolOpen name with
      | some memTx =>
        .err (.msg ("An existing open for `" ++ name ++ "` in mempool: tx: #" ++ memTx.txid ++
          " seen at: " ++ memTx.seen))
      | none => .ok ()

/-- The claim height checks `Register` makes unless `force`. The space is read with
`space.as_ref().unwrap()`, which panics on a record without a space. -/
def claimCheck (name : String) (utxo : FullSpaceOut Spaceout) : Outcome AnyError Unit :=
  match utxo.spaceout.space with
  | none => .panic
  | some space =>
    match space.claimHeight with
    | none => .err (.msg ("register '" ++ name ++ "': cannot register a space in pre-auctions"))
    | some claimHeight =>
      if claimHeight > env.tipHeight then
        .err (.msg ("register '" ++ name ++ "': cannot register until claim height " ++
          toString claimHeight))
      else .ok ()

/-- Where `Register` sends the space: the wallet's next unused space address, or `to` parsed as
a space address. -/
def registerRecipient (name : String) : Option String → Outcome AnyError Recipient
  | none => .ok .nextUnused
  | some address =>
    orErr (.msg ("transfer '" ++ name ++ "': recipient must be a valid space address"))
      ((env.parseSpaceAddress address).map .address)

/-- One request: the builder calls it makes, or the error that ends `batch_tx`. -/
def handleRequest (force : Bool) : WalletRequest → Outcome AnyError (List BuilderCall)
  | .sendCoins target amount =>
    (Outcome.ofExcept (resolve env target false)).bind
      (orErr (.msg ("sendcoins: could not resolve '" ++ target ++ "'"))) |>.bind fun recipient =>
    .ok [.coinTransfer amount recipient]
  | .transfer spaces target =>
    let names := spaces.filterMap fun space => (env.parseSName space).toOption
    if names.length ≠ spaces.length then .err (.msg "sendspaces: some names were malformed")
    else
      (Outcome.ofExcept (resolve env target true)).bind
        (orErr (.msg ("sendspaces: could not resolve '" ++ target ++ "'"))) |>.bind fun recipient =>
      traverse (transferSpace env recipient) names
  | .open name amount =>
    (Outcome.ofExcept (env.parseSName name)).bind fun sname =>
      (if force then .ok () else openCheck env name sname).bind fun () => .ok [.open name amount]
  | .bid name amount =>
    (lookupSpace env name (.msg ("bid '" ++ name ++ "': space does not exist"))).bind fun full =>
      .ok [.bid full amount]
  | .register name target =>
    (lookupSpace env name (.msg ("register '" ++ name ++ "': space does not exist"))).bind
      fun utxo =>
    if env.isMine utxo.spaceout.scriptPubkey then
      (if force then .ok () else claimCheck env name utxo).bind fun () =>
        (registerRecipient env name target).bind fun r => .ok [.register utxo r]
    else .err (.msg ("register '" ++ name ++ "': you don't own this space"))
  | .execute context spaceScript =>
    (traverse (executeSpace env) context).bind fun spaces => .ok [.execute spaces spaceScript]

/-- The loop `for req in tx.requests`: the builder calls of all requests, in order. -/
def prepareRequests (force : Bool) (reqs : List WalletRequest) :
    Outcome AnyError (List BuilderCall) :=
  (traverse (handleRequest env force) reqs).bind fun parts => .ok parts.flatten

end Checks

/-! ## What the checks admit -/

/-- `full` is the snapshot's record of the space the text `name` names. -/
def RequestEnv.Record (env : RequestEnv) (name : String) (full : FullSpaceOut Spaceout) : Prop :=
  ∃ sname, env.parseSName name = .ok sname ∧ env.spaceInfo sname = .ok (some full)

section Admitted

variable (env : RequestEnv)

/-- The builder calls `batch_tx` turns a request into, by the conditions its arm tests rather
than the order in which it tests them. -/
def Admitted (force : Bool) : WalletRequest → List BuilderCall → Prop
  | .sendCoins target amount, calls =>
    ∃ r, resolve env target false = .ok (some r) ∧ calls = [.coinTransfer amount r]
  | .transfer spaces target, calls =>
    ∃ names r, List.Forall₂ (fun space name => env.parseSName space = .ok name) spaces names ∧
      resolve env target true = .ok (some r) ∧
      List.Forall₂ (fun name call => ∃ full, env.spaceInfo name = .ok (some full) ∧
        canTransfer env full = true ∧ call = .spaceTransfer full r) names calls
  | .open name amount, calls =>
    ∃ sname, env.parseSName name = .ok sname ∧
      (force = false → env.spaceInfo sname = .ok none ∧ env.mempoolOpen name = none) ∧
      calls = [.open name amount]
  | .bid name amount, calls => ∃ full, env.Record name full ∧ calls = [.bid full amount]
  | .register name target, calls =>
    ∃ utxo r, env.Record name utxo ∧ env.isMine utxo.spaceout.scriptPubkey = true ∧
      (force = false → ∃ space h, utxo.spaceout.space = some space ∧
        space.claimHeight = some h ∧ h ≤ env.tipHeight) ∧
      (target = none ∧ r = .nextUnused ∨
        ∃ a addr, target = some a ∧ env.parseSpaceAddress a = some addr ∧
          r = .address addr) ∧
      calls = [.register utxo r]
  | .execute context spaceScript, calls =>
    ∃ spaces, List.Forall₂ (fun space s => ∃ full, env.Record space full ∧
        env.isMine full.spaceout.scriptPubkey = true ∧ s = (full, .nextUnused)) context spaces ∧
      calls = [.execute spaces spaceScript]

end Admitted

section Spec

variable {env : RequestEnv}

open Outcome (bind_eq_ok ofExcept_eq_ok)

theorem forall₂_filterMap_iff {α β : Type} {f : α → Option β} :
    ∀ {l : List α} {m : List β}, List.Forall₂ (fun a b => f a = some b) l m ↔
      (l.filterMap f).length = l.length ∧ m = l.filterMap f
  | [], m => by simp [eq_comm]
  | a :: l, m => by
    rw [List.forall₂_cons_left_iff]
    cases h : f a with
    | none =>
      have := List.length_filterMap_le f l
      simp only [List.filterMap_cons_none h, List.length_cons, reduceCtorEq, false_and,
        exists_false, false_iff, not_and]
      omega
    | some b =>
      simp only [List.filterMap_cons_some h, List.length_cons, Nat.add_right_cancel_iff,
        Option.some.injEq, forall₂_filterMap_iff]
      constructor
      · rintro ⟨_, _, rfl, ⟨hl, rfl⟩, rfl⟩; exact ⟨hl, rfl⟩
      · rintro ⟨hl, rfl⟩; exact ⟨b, _, rfl, ⟨hl, rfl⟩, rfl⟩

theorem toOption_eq_some {α : Type} {x : Except AnyError α} {a : α} :
    x.toOption = some a ↔ x = .ok a := by
  cases x <;> simp [Except.toOption]

theorem forall₂_parse_iff {spaces names : List String} :
    List.Forall₂ (fun space name => env.parseSName space = .ok name) spaces names ↔
      (spaces.filterMap fun space => (env.parseSName space).toOption).length = spaces.length ∧
        names = spaces.filterMap fun space => (env.parseSName space).toOption := by
  simp only [← forall₂_filterMap_iff, toOption_eq_some]

theorem lookupSpace_eq_ok {name : String} {missing : AnyError} {full : FullSpaceOut Spaceout} :
    lookupSpace env name missing = .ok full ↔ env.Record name full := by
  simp [lookupSpace, RequestEnv.Record, bind_eq_ok, ofExcept_eq_ok]

theorem transferSpace_eq_ok {recipient space : String} {call : BuilderCall} :
    transferSpace env recipient space = .ok call ↔
      ∃ full, env.spaceInfo space = .ok (some full) ∧
      canTransfer env full = true ∧ call = .spaceTransfer full recipient := by
  simp [transferSpace, bind_eq_ok, ofExcept_eq_ok, eq_comm (a := call)]

theorem executeSpace_eq_ok {space : String} {s : FullSpaceOut Spaceout × Recipient} :
    executeSpace env space = .ok s ↔ ∃ full, env.Record space full ∧
      env.isMine full.spaceout.scriptPubkey = true ∧ s = (full, .nextUnused) := by
  simp [executeSpace, bind_eq_ok, lookupSpace_eq_ok, eq_comm (a := s)]

theorem openCheck_eq_ok {name sname : String} {u : Unit} :
    openCheck env name sname = .ok u ↔
      env.spaceInfo sname = .ok none ∧ env.mempoolOpen name = none := by
  simp only [openCheck, bind_eq_ok, ofExcept_eq_ok]
  constructor
  · rintro ⟨o, ho, h⟩
    cases o with
    | some _ => simp at h
    | none => cases hm : env.mempoolOpen name <;> simp_all
  · rintro ⟨ho, hm⟩
    exact ⟨none, ho, by simp [hm]⟩

theorem claimCheck_eq_ok {name : String} {utxo : FullSpaceOut Spaceout} {u : Unit} :
    claimCheck env name utxo = .ok u ↔ ∃ space h, utxo.spaceout.space = some space ∧
      space.claimHeight = some h ∧ h ≤ env.tipHeight := by
  unfold claimCheck
  rcases utxo.spaceout.space with _ | ⟨owned, _ | h⟩
  · simp only [reduceCtorEq, false_and, exists_false]
  · simp only [reduceCtorEq, Option.some.injEq, exists_and_left, exists_eq_left', false_and,
      exists_false]
  · simp only [gt_iff_lt, Option.some.injEq, exists_and_left, exists_eq_left']
    split <;> simp only [reduceCtorEq, false_iff, not_le, true_iff] <;> omega

theorem registerRecipient_eq_ok {name : String} {target : Option String} {r : Recipient} :
    registerRecipient env name target = .ok r ↔ target = none ∧ r = .nextUnused ∨
      ∃ a addr, target = some a ∧ env.parseSpaceAddress a = some addr ∧
        r = .address addr := by
  cases target <;> simp [registerRecipient, eq_comm (a := r)]

/-- The checks of one request let it through exactly when it is admitted, with the admitted
calls. -/
theorem handleRequest_eq_ok {force : Bool} {req : WalletRequest} {calls : List BuilderCall} :
    handleRequest env force req = .ok calls ↔ Admitted env force req calls := by
  cases req with
  | sendCoins target amount =>
    simp [handleRequest, Admitted, bind_eq_ok, ofExcept_eq_ok, eq_comm (a := calls)]
  | transfer spaces target =>
    simp only [handleRequest, Admitted, forall₂_parse_iff]
    split
    · rename_i hlen
      exact ⟨nofun, fun ⟨_, _, ⟨hl, _⟩, _⟩ => absurd hl hlen⟩
    · rename_i hlen
      simp only [bind_eq_ok, Outcome.orErr_eq_ok, exists_eq_right, ofExcept_eq_ok,
        Outcome.traverse_eq_ok, transferSpace_eq_ok]
      exact ⟨fun ⟨r, hr, h⟩ => ⟨_, r, ⟨not_not.1 hlen, rfl⟩, hr, h⟩,
        fun ⟨_, r, ⟨_, rfl⟩, hr, h⟩ => ⟨r, hr, h⟩⟩
  | «open» name amount =>
    cases force <;> simp [handleRequest, Admitted, bind_eq_ok, ofExcept_eq_ok, openCheck_eq_ok,
      eq_comm (a := calls)]
  | bid name amount =>
    simp only [handleRequest, Admitted, bind_eq_ok, lookupSpace_eq_ok, Outcome.ok.injEq]
    exact exists_congr fun _ => and_congr_right' eq_comm
  | register name target =>
    simp only [handleRequest, Admitted, bind_eq_ok, lookupSpace_eq_ok, Outcome.ite_err_eq_ok,
      registerRecipient_eq_ok, Outcome.ok.injEq]
    cases force
    · simp only [Bool.false_eq_true, if_false, claimCheck_eq_ok, forall_const]
      exact ⟨fun ⟨u, hr, hm, _, hc, r, hrec, h⟩ => ⟨u, r, hr, hm, hc, hrec, h.symm⟩,
        fun ⟨u, r, hr, hm, hc, hrec, h⟩ => ⟨u, hr, hm, (), hc, r, hrec, h.symm⟩⟩
    · simp only [↓reduceIte, Outcome.ok_bind]
      exact ⟨fun ⟨u, hr, hm, _, _, r, hrec, h⟩ => ⟨u, r, hr, hm, nofun, hrec, h.symm⟩,
        fun ⟨u, r, hr, hm, _, hrec, h⟩ => ⟨u, hr, hm, (), trivial, r, hrec, h.symm⟩⟩
  | execute context spaceScript =>
    simp only [handleRequest, Admitted, bind_eq_ok, Outcome.traverse_eq_ok, executeSpace_eq_ok,
      Outcome.ok.injEq]
    exact exists_congr fun _ => and_congr_right' eq_comm

/-- The checks let a request list through exactly when every request is admitted; the builder
then receives the calls of each request in turn. -/
theorem prepareRequests_eq_ok {force : Bool} {reqs : List WalletRequest}
    {calls : List BuilderCall} : prepareRequests env force reqs = .ok calls ↔
      ∃ parts, List.Forall₂ (Admitted env force) reqs parts ∧ calls = parts.flatten := by
  simp [prepareRequests, bind_eq_ok, Outcome.traverse_eq_ok, handleRequest_eq_ok,
    eq_comm (a := calls)]

theorem some_map_eq_ok {α : Type} {x : Except AnyError α} {a : α} :
    (some <$> x) = .ok (some a) ↔ x = .ok a := by
  cases x <;> simp [Functor.map, Except.map]

theorem resolve_true_eq_some {target r : String} :
    resolve env target true = .ok (some r) ↔ env.parseAddress target = none ∧
      (env.parseSpaceAddress target = some r ∨ env.parseSpaceAddress target = none ∧
        ∃ holder, env.Record target holder ∧
          env.fromScript holder.spaceout.scriptPubkey = .ok r) := by
  cases ha : env.parseAddress target with
  | some _ => simp [resolve, ha]
  | none =>
    cases hs : env.parseSpaceAddress target with
    | some a => simp [resolve, ha, hs, eq_comm]
    | none =>
      cases hn : env.parseSName target with
      | error => simp [resolve, ha, hs, hn, RequestEnv.Record]
      | ok sname =>
        simp only [resolve, ha, hs, hn, RequestEnv.Record, except_bind_eq_ok, Except.ok.injEq,
          exists_eq_left', true_and, reduceCtorEq, false_or]
        constructor
        · rintro ⟨_ | full, hi, h⟩
          · simp at h
          · exact ⟨full, hi, some_map_eq_ok.1 h⟩
        · rintro ⟨full, hi, h⟩
          exact ⟨some full, hi, some_map_eq_ok.2 h⟩

end Spec

theorem exists_of_forall₂_of_mem {α β : Type} {R : α → β → Prop} {b : β} :
    ∀ {l₁ : List α} {l₂ : List β}, List.Forall₂ R l₁ l₂ → b ∈ l₂ →
      ∃ a ∈ l₁, R a b
  | _, _, .nil, hb => absurd hb (List.not_mem_nil _)
  | _, _, .cons hab h, hb => by
    rcases List.mem_cons.1 hb with rfl | hb
    · exact ⟨_, List.mem_cons_self .., hab⟩
    · obtain ⟨a, ha, h⟩ := exists_of_forall₂_of_mem h hb
      exact ⟨a, List.mem_cons_of_mem _ ha, h⟩

/-! ## What reaches the builder -/

/-- The space records a call acts on as their holder: the one it transfers, the one it
registers, and those an execution spends. A coin transfer, an open and a bid hold none. -/
def BuilderCall.held : BuilderCall → List (FullSpaceOut Spaceout)
  | .spaceTransfer full _ | .register full _ => [full]
  | .execute spaces _ => spaces.map Prod.fst
  | .coinTransfer .. | .open .. | .bid .. => []

section Calls

variable (env : RequestEnv)

/-- What the checks of `batch_tx` have made sure of a call when it reaches the builder. A space
the wallet acts on as its holder (one it transfers, registers, or spends in an execution) is a
record of the snapshot with the wallet's script; without `force`, an open is for a free name and
a registration is past its claim height. -/
def Checked (force : Bool) : BuilderCall → Prop
  | .coinTransfer _ _ => True
  | .spaceTransfer full _ =>
    (∃ name, env.spaceInfo name = .ok (some full)) ∧ canTransfer env full = true
  | .open name _ => ∃ sname, env.parseSName name = .ok sname ∧
    (force = false → env.spaceInfo sname = .ok none ∧ env.mempoolOpen name = none)
  | .bid full _ => ∃ name, env.Record name full
  | .register utxo _ => (∃ name, env.Record name utxo) ∧
    env.isMine utxo.spaceout.scriptPubkey = true ∧
    (force = false → ∃ space h, utxo.spaceout.space = some space ∧
      space.claimHeight = some h ∧ h ≤ env.tipHeight)
  | .execute spaces _ => ∀ s ∈ spaces, (∃ name, env.Record name s.1) ∧
    env.isMine s.1.spaceout.scriptPubkey = true ∧ s.2 = .nextUnused

variable {env}

theorem admitted_checked {force : Bool} {req : WalletRequest} {part : List BuilderCall}
    (h : Admitted env force req part) : ∀ call ∈ part, Checked env force call := by
  cases req with
  | sendCoins => obtain ⟨r, _, rfl⟩ := h; exact List.forall_mem_singleton.2 trivial
  | transfer spaces target =>
    obtain ⟨names, r, -, -, hcalls⟩ := h
    intro call hc
    obtain ⟨name, -, full, hinfo, hcan, rfl⟩ := exists_of_forall₂_of_mem hcalls hc
    exact ⟨⟨name, hinfo⟩, hcan⟩
  | «open» name amount =>
    obtain ⟨sname, hs, hf, rfl⟩ := h
    exact List.forall_mem_singleton.2 ⟨sname, hs, hf⟩
  | bid name amount =>
    obtain ⟨full, hr, rfl⟩ := h
    exact List.forall_mem_singleton.2 ⟨name, hr⟩
  | register name target =>
    obtain ⟨utxo, r, hr, hmine, hclaim, -, rfl⟩ := h
    exact List.forall_mem_singleton.2 ⟨⟨name, hr⟩, hmine, hclaim⟩
  | execute context spaceScript =>
    obtain ⟨spaces, hspaces, rfl⟩ := h
    refine List.forall_mem_singleton.2 fun s hs => ?_
    obtain ⟨space, -, full, hr, hmine, rfl⟩ := exists_of_forall₂_of_mem hspaces hs
    exact ⟨⟨space, hr⟩, hmine, rfl⟩

/-- Every call the builder receives comes from an admitted request of the list. -/
theorem mem_prepareRequests {force : Bool} {reqs : List WalletRequest} {calls : List BuilderCall}
    {call : BuilderCall} (h : prepareRequests env force reqs = .ok calls) (hc : call ∈ calls) :
    ∃ req ∈ reqs, ∃ part, Admitted env force req part ∧ call ∈ part := by
  obtain ⟨parts, hparts, rfl⟩ := prepareRequests_eq_ok.1 h
  obtain ⟨part, hpart, hc⟩ := List.mem_flatten.1 hc
  obtain ⟨req, hreq, hadm⟩ := exists_of_forall₂_of_mem hparts hpart
  exact ⟨req, hreq, part, hadm, hc⟩

/-- Every call the checks let through to the builder is `Checked`. -/
theorem prepareRequests_checked {force : Bool} {reqs : List WalletRequest}
    {calls : List BuilderCall} (h : prepareRequests env force reqs = .ok calls) :
    ∀ call ∈ calls, Checked env force call := fun _ hc =>
  let ⟨_, _, _, hadm, hc⟩ := mem_prepareRequests h hc
  admitted_checked hadm _ hc

theorem canTransfer_eq_true {full : FullSpaceOut Spaceout} :
    canTransfer env full = true ↔ ∃ space, full.spaceout.space = some space ∧
      space.owned = true ∧ env.isMine full.spaceout.scriptPubkey = true := by
  unfold canTransfer
  split <;> simp_all

/-- A wallet holding every space but `@new`, each owned and claimable from height 0, at the
wallet's script. -/
def ownerEnv : RequestEnv where
  parseAddress _ := none
  requireNetwork address := .ok address
  parseSpaceAddress address := some address
  parseSName name := .ok name
  spaceInfo name :=
    .ok (if name = "@new" then none
      else some ⟨⟨name, 0⟩, ⟨some ⟨true, some 0⟩, "5120"⟩⟩)
  fromScript script := .ok script
  isMine _ := true
  tipHeight := 0
  mempoolOpen _ := none

/-- A request of each kind that moves a space or a name. -/
def ownerRequests : List WalletRequest :=
  [.transfer ["@a"] "@b", .open "@new" 1000, .register "@a" none, .execute ["@a"] "00"]

/-- The record `ownerEnv` holds for `@a`. -/
def ownedA : FullSpaceOut Spaceout := ⟨⟨"@a", 0⟩, ⟨some ⟨true, some 0⟩, "5120"⟩⟩

/-- The calls `ownerRequests` are admitted with in `ownerEnv`. -/
def ownerCalls : List BuilderCall :=
  [.spaceTransfer ownedA "@b", .open "@new" 1000, .register ownedA .nextUnused,
    .execute [(ownedA, .nextUnused)] "00"]

/-- What a `Checked` call tells of the spaces it holds. -/
theorem checked_held {force : Bool} {call : BuilderCall} (hchk : Checked env force call) :
    ∀ full ∈ call.held, (∃ name, env.spaceInfo name = .ok (some full)) ∧
      env.isMine full.spaceout.scriptPubkey = true ∧
      ∀ r, call = .spaceTransfer full r → ∃ space, full.spaceout.space = some space ∧
        space.owned = true := by
  intro full hf
  cases call with
  | spaceTransfer full' r =>
    obtain rfl := List.mem_singleton.1 hf
    obtain ⟨hname, hcan⟩ := hchk
    obtain ⟨space, hs, hown, hmine⟩ := canTransfer_eq_true.1 hcan
    exact ⟨hname, hmine, fun _ _ => ⟨space, hs, hown⟩⟩
  | register utxo r =>
    obtain rfl := List.mem_singleton.1 hf
    obtain ⟨⟨name, sname, -, hinfo⟩, hmine, -⟩ := hchk
    exact ⟨⟨sname, hinfo⟩, hmine, nofun⟩
  | execute spaces script =>
    obtain ⟨s, hs, rfl⟩ := List.mem_map.1 hf
    obtain ⟨⟨name, sname, -, hinfo⟩, hmine, -⟩ := hchk s hs
    exact ⟨⟨sname, hinfo⟩, hmine, nofun⟩
  | coinTransfer | «open» | bid => simp [BuilderCall.held] at hf

/-- Every space the builder is asked to act on as its holder, in a transfer, a registration or
an execution, is the snapshot's record of a space and is held by a script of the wallet; a
transferred space is moreover owned. This holds with or without `force`. -/
theorem prepareRequests_spends_own {force : Bool} {reqs : List WalletRequest}
    {calls : List BuilderCall} (h : prepareRequests env force reqs = .ok calls) :
    ∀ call ∈ calls, ∀ full ∈ call.held, (∃ name, env.spaceInfo name = .ok (some full)) ∧
      env.isMine full.spaceout.scriptPubkey = true ∧
      ∀ r, call = .spaceTransfer full r → ∃ space, full.spaceout.space = some space ∧
        space.owned = true :=
  fun call hc => checked_held (prepareRequests_checked h call hc)

theorem prepareRequests_spends_own_at :
    (∃ name, ownerEnv.spaceInfo name = .ok (some ownedA)) ∧
      ownerEnv.isMine ownedA.spaceout.scriptPubkey = true ∧
      ∀ r, BuilderCall.spaceTransfer ownedA "@b" = .spaceTransfer ownedA r →
        ∃ space, ownedA.spaceout.space = some space ∧ space.owned = true :=
  prepareRequests_spends_own
    (show prepareRequests ownerEnv false ownerRequests = .ok ownerCalls from rfl)
    _ (List.mem_cons_self ..) _ (List.mem_singleton_self _)

/-- Without `force`, the builder is asked to open only a name with no space in the snapshot and
no open in the mempool, and to register only a space whose claim height is set and reached by
the wallet's tip. -/
theorem prepareRequests_unforced {reqs : List WalletRequest} {calls : List BuilderCall}
    (h : prepareRequests env false reqs = .ok calls) :
    (∀ name amount, .open name amount ∈ calls → ∃ sname, env.parseSName name = .ok sname ∧
      env.spaceInfo sname = .ok none ∧ env.mempoolOpen name = none) ∧
    ∀ utxo r, .register utxo r ∈ calls → ∃ space claimHeight,
      utxo.spaceout.space = some space ∧ space.claimHeight = some claimHeight ∧
        claimHeight ≤ env.tipHeight :=
  ⟨fun _ _ hc =>
    let ⟨sname, hs, hfree⟩ := prepareRequests_checked h _ hc
    ⟨sname, hs, hfree rfl⟩,
  fun _ _ hc => (prepareRequests_checked h _ hc).2.2 rfl⟩

theorem prepareRequests_unforced_at :
    (∀ name amount, .open name amount ∈ ownerCalls →
      ∃ sname, ownerEnv.parseSName name = .ok sname ∧
      ownerEnv.spaceInfo sname = .ok none ∧ ownerEnv.mempoolOpen name = none) ∧
    ∀ utxo r, .register utxo r ∈ ownerCalls → ∃ space claimHeight,
      utxo.spaceout.space = some space ∧ space.claimHeight = some claimHeight ∧
        claimHeight ≤ ownerEnv.tipHeight :=
  prepareRequests_unforced
    (show prepareRequests ownerEnv false ownerRequests = .ok ownerCalls from rfl)

/-- A space is sent only to the space address a transfer request gives, or to the holder of
the space it names: a request whose recipient reads as a plain address is refused. -/
theorem prepareRequests_transfer_recipient {force : Bool} {reqs : List WalletRequest}
    {calls : List BuilderCall} {full : FullSpaceOut Spaceout} {r : String}
    (h : prepareRequests env force reqs = .ok calls) (hc : .spaceTransfer full r ∈ calls) :
    ∃ spaces target, .transfer spaces target ∈ reqs ∧ env.parseAddress target = none ∧
      (env.parseSpaceAddress target = some r ∨ ∃ holder, env.Record target holder ∧
        env.fromScript holder.spaceout.scriptPubkey = .ok r) := by
  obtain ⟨req, hreq, part, hadm, hc⟩ := mem_prepareRequests h hc
  cases req with
  | transfer spaces target =>
    obtain ⟨names, r', -, hr, hcalls⟩ := hadm
    obtain ⟨_, -, _, -, -, heq⟩ := exists_of_forall₂_of_mem hcalls hc
    cases heq
    obtain ⟨ha, hs⟩ := resolve_true_eq_some.1 hr
    exact ⟨spaces, target, hreq, ha, hs.imp_right And.right⟩
  | sendCoins | bid | execute => obtain ⟨_, _, rfl⟩ := hadm; simp at hc
  | «open» => obtain ⟨_, _, _, rfl⟩ := hadm; simp at hc
  | register => obtain ⟨_, _, _, _, _, _, rfl⟩ := hadm; simp at hc

theorem prepareRequests_transfer_recipient_at :
    ∃ spaces target, .transfer spaces target ∈ ownerRequests ∧
      ownerEnv.parseAddress target = none ∧
      (ownerEnv.parseSpaceAddress target = some "@b" ∨
        ∃ holder, ownerEnv.Record target holder ∧
        ownerEnv.fromScript holder.spaceout.scriptPubkey = .ok "@b") :=
  prepareRequests_transfer_recipient
    (show prepareRequests ownerEnv false ownerRequests = .ok ownerCalls from rfl)
    (show .spaceTransfer ownedA "@b" ∈ ownerCalls from List.mem_cons_self ..)

end Calls

/-! ## A record without a space -/

section Panics

variable {env : RequestEnv}

open Outcome (bind_eq_panic)

theorem lookupSpace_ne_panic (name : String) (missing : AnyError) :
    lookupSpace env name missing ≠ .panic := by
  simp [lookupSpace, bind_eq_panic]

theorem transferSpace_ne_panic (recipient space : String) :
    transferSpace env recipient space ≠ .panic := by
  simp [transferSpace, bind_eq_panic, ite_eq_iff]

theorem executeSpace_ne_panic (space : String) : executeSpace env space ≠ .panic := by
  simp [executeSpace, bind_eq_panic, lookupSpace_ne_panic, ite_eq_iff]

theorem openCheck_ne_panic (name sname : String) : openCheck env name sname ≠ .panic := by
  simp only [openCheck, ne_eq, bind_eq_panic, Outcome.ofExcept_ne_panic, false_or, not_exists,
    not_and]
  intro _ _
  split
  · simp
  · split <;> simp

theorem registerRecipient_ne_panic (name : String) (target : Option String) :
    registerRecipient env name target ≠ .panic := by
  cases target <;> simp [registerRecipient]

/-- `space.as_ref().unwrap()` panics exactly on a record without a space. -/
theorem claimCheck_eq_panic {name : String} {utxo : FullSpaceOut Spaceout} :
    claimCheck env name utxo = .panic ↔ utxo.spaceout.space = none := by
  unfold claimCheck
  rcases utxo.spaceout.space with _ | ⟨owned, _ | h⟩
  · simp only
  · simp only [reduceCtorEq]
  · simp only [reduceCtorEq, iff_false]
    split <;> simp

/-- Of all the checks `batch_tx` makes on one request, only the claim height check of a
`Register` without `force` panics, on a record of the wallet's with no space in it. -/
theorem handleRequest_eq_panic {force : Bool} {req : WalletRequest} :
    handleRequest env force req = .panic ↔ force = false ∧ ∃ name target full,
      req = .register name target ∧ env.Record name full ∧
      env.isMine full.spaceout.scriptPubkey = true ∧ full.spaceout.space = none := by
  cases req with
  | register name target =>
    simp only [handleRequest, bind_eq_panic, lookupSpace_ne_panic, lookupSpace_eq_ok, false_or,
      ite_eq_iff, reduceCtorEq, and_false, or_false, registerRecipient_ne_panic, exists_false,
      WalletRequest.register.injEq]
    cases force
    · simp only [Bool.false_eq_true, if_false, claimCheck_eq_panic, true_and, not_false_eq_true]
      exact ⟨fun ⟨a, hr, hm, hs⟩ => ⟨_, _, a, ⟨rfl, rfl⟩, hr, hm, hs⟩,
        fun ⟨_, _, a, ⟨rfl, rfl⟩, hr, hm, hs⟩ => ⟨a, hr, hm, hs⟩⟩
    · simp only [if_true, not_true_eq_false, false_and, and_false, exists_false,
        Bool.true_eq_false, iff_self]
  | transfer spaces target =>
    refine iff_of_false ?_ (by rintro ⟨-, -, -, -, ⟨⟩, -⟩)
    simp only [handleRequest]
    split
    · nofun
    · simp only [bind_eq_panic, Outcome.ofExcept_ne_panic, Outcome.orErr_ne_panic,
        Outcome.traverse_ne_panic (transferSpace_ne_panic _), false_or, and_false, exists_false,
        not_false_eq_true]
  | «open» name amount =>
    refine iff_of_false ?_ (by rintro ⟨-, -, -, -, ⟨⟩, -⟩)
    cases force <;> simp [handleRequest, bind_eq_panic, openCheck_ne_panic]
  | execute context spaceScript =>
    refine iff_of_false ?_ (by rintro ⟨-, -, -, -, ⟨⟩, -⟩)
    simp only [handleRequest, bind_eq_panic, Outcome.traverse_ne_panic executeSpace_ne_panic,
      reduceCtorEq, false_or, and_false, exists_false, not_false_eq_true]
  | sendCoins target amount =>
    refine iff_of_false ?_ (by rintro ⟨-, -, -, -, ⟨⟩, -⟩)
    simp only [handleRequest, bind_eq_panic, Outcome.ofExcept_ne_panic, Outcome.orErr_ne_panic,
      reduceCtorEq, false_or, and_false, exists_false, not_false_eq_true]
  | bid name amount =>
    refine iff_of_false ?_ (by rintro ⟨-, -, -, -, ⟨⟩, -⟩)
    simp only [handleRequest, bind_eq_panic, lookupSpace_ne_panic, reduceCtorEq, false_or,
      and_false, exists_false, not_false_eq_true]

/-- Over every request list, the checks of `batch_tx` panic exactly when, without `force`, a
`Register` names a record of the wallet's with no space in it, after every request before it
was admitted. `Transfer` refuses such a record, and `force` skips the check that unwraps it. -/
theorem prepareRequests_panic_iff {force : Bool} {reqs : List WalletRequest} :
    prepareRequests env force reqs = .panic ↔ force = false ∧
      ∃ pre name target post parts full, reqs = pre ++ .register name target :: post ∧
        List.Forall₂ (Admitted env false) pre parts ∧ env.Record name full ∧
        env.isMine full.spaceout.scriptPubkey = true ∧ full.spaceout.space = none := by
  simp only [prepareRequests, bind_eq_panic, Outcome.traverse_eq_panic, reduceCtorEq, and_false,
    exists_false, or_false]
  constructor
  · rintro ⟨pre, x, post, parts, rfl, hpre, hx⟩
    obtain ⟨rfl, name, target, full, rfl, hr, hm, hsp⟩ := handleRequest_eq_panic.1 hx
    exact ⟨rfl, pre, name, target, post, parts, full, rfl,
      hpre.imp fun _ _ => handleRequest_eq_ok.1, hr, hm, hsp⟩
  · rintro ⟨rfl, pre, name, target, post, parts, full, rfl, hpre, hr, hm, hsp⟩
    exact ⟨pre, _, post, parts, rfl, hpre.imp fun _ _ => handleRequest_eq_ok.2,
      handleRequest_eq_panic.2 ⟨rfl, name, target, full, rfl, hr, hm, hsp⟩⟩

/-- A wallet whose snapshot holds, under every name, a record at the wallet's script with no
space in it. -/
def spacelessEnv : RequestEnv where
  parseAddress _ := none
  requireNetwork address := .ok address
  parseSpaceAddress address := some address
  parseSName name := .ok name
  spaceInfo _ := .ok (some ⟨⟨"t0", 0⟩, ⟨none, "5120"⟩⟩)
  fromScript script := .ok script
  isMine _ := true
  tipHeight := 0
  mempoolOpen _ := none

/-- A bid, then a registration of the spaceless record: without `force` the checks panic at the
registration, with `force` they do not. -/
theorem prepareRequests_panic_iff_spaceless :
    prepareRequests spacelessEnv false [.bid "@b" 5, .register "@a" none] = .panic ∧
      prepareRequests spacelessEnv true [.bid "@b" 5, .register "@a" none] ≠ .panic :=
  ⟨prepareRequests_panic_iff.2 ⟨rfl, [.bid "@b" 5], "@a", none, [],
      [[.bid ⟨⟨"t0", 0⟩, ⟨none, "5120"⟩⟩ 5]], ⟨⟨"t0", 0⟩, ⟨none, "5120"⟩⟩, rfl,
      .cons ⟨_, ⟨"@b", rfl, rfl⟩, rfl⟩ .nil, ⟨"@a", rfl, rfl⟩, rfl, rfl⟩,
    fun h => nomatch (prepareRequests_panic_iff.1 h).1⟩

end Panics

/-! ## From the request to the broadcast loop -/

/-- `RpcWalletTxBuilder`: the fields `batch_tx` reads. -/
structure RpcWalletTxBuilder where
  /-- In sat/vB. -/
  feeRate : Option Nat
  auctionOutputs : Option Nat
  force : Bool
  dust : Option Nat
  requests : List WalletRequest
  deriving DecidableEq, Repr

/-- The builder `batch_tx` hands to `build_iter`. -/
structure TxBuilder where
  feeRate : Nat
  auctionOutputs : Option Nat
  force : Bool
  calls : List BuilderCall
  deriving DecidableEq, Repr

section Prepare

variable (env : RequestEnv)

/-- The fee rate of the batch: the request's, or else what `estimate_fee_rate` returns. -/
def batchFeeRate (estimate : Option Nat) (tx : RpcWalletTxBuilder) : Outcome AnyError Nat :=
  match tx.feeRate, estimate with
  | some rate, _ => .ok rate
  | none, some rate => .ok rate
  | none, none => .err (.msg "could not estimate fee rate")

/-- The builder, from the fee rate and the calls of the requests. -/
def prepareBuilder (estimate : Option Nat) (tx : RpcWalletTxBuilder) :
    Outcome AnyError TxBuilder :=
  (batchFeeRate estimate tx).bind fun feeRate =>
    (prepareRequests env tx.force tx.requests).bind fun calls =>
      .ok ⟨feeRate, tx.auctionOutputs, tx.force, calls⟩

/-- Everything `batch_tx` does before its broadcast loop: the builder, `get_median_time`, the
coin selection (`get_spaces_coin_selection`), and `build_iter`, whose yields are the items. -/
def prepareBatch (estimate : Option Nat) (medianTime : Except AnyError Nat)
    (coinSelection : Except AnyError (List WeightedUtxo))
    (buildIter :
      TxBuilder → Option Nat → Nat → List WeightedUtxo → Except AnyError (List Item))
    (tx : RpcWalletTxBuilder) : Outcome AnyError (List Item) :=
  (prepareBuilder env estimate tx).bind fun builder =>
    (Outcome.ofExcept medianTime).bind fun time =>
      (Outcome.ofExcept coinSelection).bind fun selection =>
        Outcome.ofExcept (buildIter builder tx.dust time selection)

/-- `batch_tx` from its request: the preparation, then the broadcast loop over what `build_iter`
yields. -/
def batchTxRequest (feeRate : String → Option Nat) (debug : BitcoinRpcError → String)
    (estimate : Option Nat) (medianTime : Except AnyError Nat)
    (coinSelection : Except AnyError (List WeightedUtxo))
    (buildIter :
      TxBuilder → Option Nat → Nat → List WeightedUtxo → Except AnyError (List Item))
    (tx : RpcWalletTxBuilder) : Outcome AnyError WalletResponse × List TxCall :=
  match prepareBatch env estimate medianTime coinSelection buildIter tx with
  | .ok items => batchTx feeRate debug (.ok ()) items
  | .err e => batchTx feeRate debug (.err e) []
  | .panic => batchTx feeRate debug .panic []

theorem batchFeeRate_eq_ok {estimate : Option Nat} {tx : RpcWalletTxBuilder} {rate : Nat}
    (h : batchFeeRate estimate tx = .ok rate) : prepareBuilder env estimate tx =
      (prepareRequests env tx.force tx.requests).bind fun calls =>
        .ok ⟨rate, tx.auctionOutputs, tx.force, calls⟩ := by
  simp [prepareBuilder, h]

/-- A batch with a refused request ends in that request's error, the first refused in the
list, and nothing is broadcast, inserted or committed, however many requests before it were
admitted. -/
theorem batchTxRequest_refused {feeRate : String → Option Nat}
    {debug : BitcoinRpcError → String} {estimate : Option Nat}
    {medianTime : Except AnyError Nat} {coinSelection : Except AnyError (List WeightedUtxo)}
    {buildIter :
      TxBuilder → Option Nat → Nat → List WeightedUtxo → Except AnyError (List Item)}
    {tx : RpcWalletTxBuilder} {pre post : List WalletRequest} {req : WalletRequest}
    {rate : Nat} {e : AnyError} (hrate : batchFeeRate estimate tx = .ok rate)
    (hreqs : tx.requests = pre ++ req :: post)
    (hpre : ∀ p ∈ pre, ∃ calls, handleRequest env tx.force p = .ok calls)
    (hreq : handleRequest env tx.force req = .err e) :
    batchTxRequest env feeRate debug estimate medianTime coinSelection buildIter tx =
      (.err e, []) := by
  have hprep : prepareRequests env tx.force tx.requests = .err e := by
    simp [prepareRequests, hreqs, Outcome.traverse_append_err post hreq hpre]
  simp [batchTxRequest, prepareBatch, batchFeeRate_eq_ok env hrate, hprep, batchTx]

/-- An admitted bid followed by a transfer of a space record without a space. -/
def refusedBatch : RpcWalletTxBuilder :=
  ⟨some 2, none, false, none, [.bid "@b" 5, .transfer ["@a"] "@c"]⟩

theorem batchTxRequest_refused_at :
    batchTxRequest spacelessEnv (fun _ => none) (fun _ => "") none (.ok 0) (.ok [])
        (fun _ _ _ _ => .ok []) refusedBatch =
      (.err (.msg ("sendspaces: you don't own `" ++ "@a" ++ "`")), []) :=
  batchTxRequest_refused spacelessEnv (show batchFeeRate none refusedBatch = .ok 2 from rfl)
    (show refusedBatch.requests = [.bid "@b" 5] ++ .transfer ["@a"] "@c" :: [] from rfl)
    (fun _ hp => by obtain rfl := List.mem_singleton.1 hp; exact ⟨_, rfl⟩) rfl

end Prepare

/-! ## The coins and the spaces of a batch -/

/-- The snapshot's two views agree: the record of a space it returns by name is at an outpoint
where it returns the same spaceout. -/
def RequestEnv.Agrees (env : RequestEnv)
    (getSpaceout : OutPoint → Except AnyError (Option Spaceout)) : Prop :=
  ∀ name full, env.spaceInfo name = .ok (some full) →
    getSpaceout full.outpoint = .ok (some full.spaceout)

/-- `build_iter` is never offered, as a coin to pay with, the outpoint of a space it is asked to
transfer, register or spend in an execution: the coins are outputs at which the snapshot has no
spaceout, and the spaces are records the snapshot holds. -/
theorem coins_avoid_spaces {env : RequestEnv}
    {getSpaceout : OutPoint → Except AnyError (Option Spaceout)} {force : Bool}
    {reqs : List WalletRequest} {calls : List BuilderCall} {maxWeight : Except AnyError Nat}
    {outputs : List LocalOutput} {sel : List WeightedUtxo} (hagree : env.Agrees getSpaceout)
    (hreqs : prepareRequests env force reqs = .ok calls)
    (hsel : getSpacesCoinSelection getSpaceout maxWeight outputs = .ok sel) :
    ∀ call ∈ calls, ∀ full ∈ call.held, ∀ u ∈ sel, u.outpoint ≠ full.outpoint := by
  intro call hc full hf u hu hop
  obtain ⟨name, hname⟩ := (checked_held (prepareRequests_checked hreqs call hc) full hf).1
  obtain ⟨-, -, -, hnone⟩ := spaces_coin_selection getSpaceout hsel
  have := hnone u hu
  rw [hop, hagree name full hname] at this
  cases this

/-- The snapshot behind `ownerEnv`, by outpoint: each space at output 0 of the transaction named
after it. -/
def ownerSpaceout (outpoint : OutPoint) : Except AnyError (Option Spaceout) :=
  .ok (if outpoint.vout = 0 ∧ outpoint.txid ≠ "@new"
    then some ⟨some ⟨true, some 0⟩, "5120"⟩ else none)

theorem ownerEnv_agrees : ownerEnv.Agrees ownerSpaceout := by
  intro name full h
  by_cases hnew : name = "@new"
  · simp [ownerEnv, hnew] at h
  · simp only [ownerEnv, hnew, if_false, Except.ok.injEq, Option.some.injEq] at h
    subst h
    simp [ownerSpaceout, hnew]

theorem coins_avoid_spaces_at :
    (⟨100, ⟨"c", 1⟩, some enableRbfNoLocktime, some ⟨5000, "0014"⟩⟩ : WeightedUtxo).outpoint ≠
      ownedA.outpoint :=
  coins_avoid_spaces ownerEnv_agrees
    (show prepareRequests ownerEnv false ownerRequests = .ok ownerCalls from rfl)
    (show getSpacesCoinSelection ownerSpaceout (.ok 400)
      [⟨⟨"c", 1⟩, ⟨5000, "0014"⟩, .external, false, .confirmed 1 0, false⟩] =
      .ok [⟨100, ⟨"c", 1⟩, some enableRbfNoLocktime, some ⟨5000, "0014"⟩⟩] from rfl)
    _ (List.mem_cons_self ..) _ (List.mem_singleton_self _) _ (List.mem_singleton_self _)

end Spaced
