import NxSecure.KeyExchange

/-!
# The crypto calls of the key exchange

The weakest precondition of each helper of `tlsProcessClientKeyExchange` that does not read as
plain `do` code: the three crypto calls, the CRT-prime step and the random pre-master secret.
The state after a call is kept under its name (`State.afterOperation` and the like), with one
lemma for each part of it, so that `simp` turns a property of a branch into a formula over the
answers of its callees whose size grows with the number of calls and not with the number of
paths.
-/

namespace NxSecure

open Code

variable {α : Type} {Q : α → State → Prop} {E : TlsStatus → State → Prop} {s : State}
  {env : Env} {method : NxCryptoMethod}

@[simp] theorem wp_cryptoInit {Q : Nat → State → Prop} (key : List UInt8) (bits : Nat) :
    wp (cryptoInit env method key bits) Q E s =
      ((method.nxCryptoInit = true →
        ((s.initReturn env method key bits).status ≠ 0 →
          E (.propagated (s.initReturn env method key bits).status)
            (s.afterInit env method key bits)) ∧
        ((s.initReturn env method key bits).status = 0 →
          Q (s.initReturn env method key bits).handler (s.afterInit env method key bits))) ∧
      (method.nxCryptoInit = false → Q 0 s)) := by
  unfold wp cryptoInit
  cases method.nxCryptoInit
  · simp [Post]
  · by_cases h : (s.initReturn env method key bits).status = 0 <;> simp [Post, h]

@[simp] theorem wp_cryptoOperation {Q : OperationReturn → State → Prop} (area : MetadataArea)
    (req : Request) (out : Output) :
    wp (cryptoOperation env method area req out) Q E s =
      (method.nxCryptoOperation = true →
        ((s.operationReturn env method area req out).status ≠ 0 →
          E (.propagated (s.operationReturn env method area req out).status)
            (s.afterOperation env method area req out)) ∧
        ((s.operationReturn env method area req out).status = 0 →
          Q (s.operationReturn env method area req out)
            (s.afterOperation env method area req out))) := by
  unfold wp cryptoOperation
  cases method.nxCryptoOperation
  · simp [Post]
  · by_cases h : (s.operationReturn env method area req out).status = 0 <;> simp [Post, h]

@[simp] theorem wp_cryptoCleanup {Q : Unit → State → Prop} (area : MetadataArea)
    (onError : State → State) :
    wp (cryptoCleanup env method area onError) Q E s =
      ((method.nxCryptoCleanup = true →
        ((s.cleanupReturn env method area).1 ≠ 0 →
          E (.propagated (s.cleanupReturn env method area).1)
            (onError (s.afterCleanup env method area))) ∧
        ((s.cleanupReturn env method area).1 = 0 → Q () (s.afterCleanup env method area))) ∧
      (method.nxCryptoCleanup = false → Q () s)) := by
  unfold wp cryptoCleanup
  cases method.nxCryptoCleanup
  · simp [Post]
  · by_cases h : (s.cleanupReturn env method area).1 = 0 <;> simp [Post, h]

@[simp] theorem wp_setRsaPrimes {Q : Unit → State → Prop} (handler : Nat)
    (p q : Option (List UInt8)) :
    wp (setRsaPrimes env method handler p q) Q E s =
      ((∀ p' q', p = some p' → q = some q' →
        wp (do
          let _ ← cryptoOperation env method .publicCipher ⟨.setPrimeP, handler, [], 0, p'⟩ .none
          let _ ← cryptoOperation env method .publicCipher ⟨.setPrimeQ, handler, [], 0, q'⟩ .none)
          Q E s) ∧
      ((p = none ∨ q = none) → Q () s)) := by
  cases p <;> cases q <;> simp [setRsaPrimes]

@[simp] theorem wp_randomPreMasterSecret {Q : Unit → State → Prop} (fuel : Nat) :
    wp (randomPreMasterSecret env fuel) Q E s =
      ∀ pms pos, randomPreMasterLoop env.nxRand fuel tlsRsaPremasterSize 0
          s.session.keyMaterial.preMasterSecret s.globals.randDraws = some (pms, pos) →
        Q () ((s.setPreMasterSecret pms).setRandDraws pos) := by
  unfold wp randomPreMasterSecret
  split <;> simp_all [Post]

/-- The common exit always returns: `NX_SUCCESS`, or `NX_SECURE_TLS_INVALID_STATE` with the
client state set to error when the server side is disabled. -/
theorem commonExit_eq {cfg : Config} :
    commonExit cfg s =
      .ret (if cfg.serverDisabled then .invalidState else .success)
        (if cfg.serverDisabled then
          (if cfg.keyClear then s.clearScratch else s).setClientState .error
        else if cfg.keyClear then s.clearScratch else s) := by
  unfold commonExit
  cases cfg.keyClear <;> cases cfg.serverDisabled <;> rfl

@[simp] theorem wp_commonExit {Q : Unit → State → Prop} {cfg : Config} :
    wp (commonExit cfg) Q E s =
      E (if cfg.serverDisabled then .invalidState else .success)
        (if cfg.serverDisabled then
          (if cfg.keyClear then s.clearScratch else s).setClientState .error
        else if cfg.keyClear then s.clearScratch else s) := by
  rw [wp, commonExit_eq]; rfl

-- ════════════════════════════════════════════════════════════════════════
-- The state after a call
-- ════════════════════════════════════════════════════════════════════════

namespace State

variable {key : List UInt8} {bits : Nat} {area : MetadataArea} {req : Request} {out : Output}

@[simp] theorem afterInit_trace :
    (s.afterInit env method key bits).trace =
      s.trace ++ [.cryptoInit (s.initReturn env method key bits).status] := rfl
@[simp] theorem afterInit_keyMaterial :
    (s.afterInit env method key bits).session.keyMaterial = s.session.keyMaterial := by
  simp [afterInit]
@[simp] theorem afterInit_globals : (s.afterInit env method key bits).globals = s.globals := by
  simp [afterInit]

@[simp] theorem afterOperation_trace :
    (s.afterOperation env method area req out).trace =
      s.trace ++ [.cryptoOperation req.op (s.operationReturn env method area req out).status] := by
  simp [afterOperation, storeOutput]; cases out <;> rfl

/-- An operation writes the globals only through the scratch buffer. -/
theorem afterOperation_globals (hout : out ≠ .scratch) :
    (s.afterOperation env method area req out).globals = s.globals := by
  cases out <;> simp_all [afterOperation, storeOutput]

@[simp] theorem afterCleanup_trace :
    (s.afterCleanup env method area).trace =
      s.trace ++ [.cryptoCleanup area (s.cleanupReturn env method area).1] := by
  simp [afterCleanup]
@[simp] theorem afterCleanup_keyMaterial :
    (s.afterCleanup env method area).session.keyMaterial = s.session.keyMaterial := by
  simp [afterCleanup]
@[simp] theorem afterCleanup_globals : (s.afterCleanup env method area).globals = s.globals := by
  simp [afterCleanup]

end State

-- ════════════════════════════════════════════════════════════════════════
-- What the calls do to the trace
-- ════════════════════════════════════════════════════════════════════════

section Trace

variable {I K : List Event → Prop} {J : TlsStatus → List Event → Prop}

/-- `nx_crypto_init`, when the method has one, appends its status to the trace, and returns
exactly when it failed. -/
theorem Code.Triple.cryptoInit_trace {key : List UInt8} {bits : Nat}
    (hnext : method.nxCryptoInit = true → ∀ t, I t → K (t ++ [.cryptoInit 0]))
    (hret : method.nxCryptoInit = true → ∀ t c, I t → c ≠ 0 →
      J (.propagated c) (t ++ [.cryptoInit c]))
    (hnull : method.nxCryptoInit = false → ∀ t, I t → K t) :
    Triple (I ·.trace) (cryptoInit env method key bits) (fun _ s => K s.trace)
      (fun st s => J st s.trace) := by
  intro s hs
  rw [wp_cryptoInit, State.afterInit_trace]
  exact ⟨fun hi => ⟨hret hi _ _ hs, fun h => h ▸ hnext hi _ hs⟩, fun hi => hnull hi _ hs⟩

/-- `nx_crypto_operation` appends its opcode and status to the trace, and returns exactly when it
failed. -/
theorem Code.Triple.cryptoOperation_trace {area : MetadataArea} {req : Request} {out : Output}
    (hnext : ∀ t, I t → K (t ++ [.cryptoOperation req.op 0]))
    (hret : ∀ t c, I t → c ≠ 0 → J (.propagated c) (t ++ [.cryptoOperation req.op c])) :
    Triple (I ·.trace) (cryptoOperation env method area req out) (fun _ s => K s.trace)
      (fun st s => J st s.trace) := by
  intro s hs
  rw [wp_cryptoOperation, State.afterOperation_trace]
  exact fun _ => ⟨hret _ _ hs, fun h => h ▸ hnext _ hs⟩

/-- `nx_crypto_cleanup`, when the method has one, appends its status to the trace, and returns
exactly when it failed. -/
theorem Code.Triple.cryptoCleanup_trace {area : MetadataArea} {onError : State → State}
    (honError : ∀ s, (onError s).trace = s.trace)
    (hnext : method.nxCryptoCleanup = true → ∀ t, I t → K (t ++ [.cryptoCleanup area 0]))
    (hret : method.nxCryptoCleanup = true → ∀ t c, I t → c ≠ 0 →
      J (.propagated c) (t ++ [.cryptoCleanup area c]))
    (hnull : method.nxCryptoCleanup = false → ∀ t, I t → K t) :
    Triple (I ·.trace) (cryptoCleanup env method area onError) (fun _ s => K s.trace)
      (fun st s => J st s.trace) := by
  intro s hs
  rw [wp_cryptoCleanup, honError, State.afterCleanup_trace]
  exact ⟨fun hi => ⟨hret hi _ _ hs, fun h => h ▸ hnext hi _ hs⟩, fun hi => hnull hi _ hs⟩

/-- A trace invariant that the events of `nx_crypto_init` keep holds after the call, on both
exits. -/
theorem Code.Triple.cryptoInit_keep {key : List UInt8} {bits : Nat}
    (hI : ∀ t c, I t → I (t ++ [.cryptoInit c])) :
    Triple (I ·.trace) (cryptoInit env method key bits) (fun _ s => I s.trace)
      (fun _ s => I s.trace) :=
  .cryptoInit_trace (fun _ _ h => hI _ _ h) (fun _ _ _ h _ => hI _ _ h) fun _ _ => id

theorem Code.Triple.cryptoOperation_keep {area : MetadataArea} {req : Request} {out : Output}
    (hI : ∀ t c, I t → I (t ++ [.cryptoOperation req.op c])) :
    Triple (I ·.trace) (cryptoOperation env method area req out) (fun _ s => I s.trace)
      (fun _ s => I s.trace) :=
  .cryptoOperation_trace (fun _ h => hI _ _ h) fun _ _ h _ => hI _ _ h

theorem Code.Triple.cryptoCleanup_keep {area : MetadataArea} {onError : State → State}
    (honError : ∀ s, (onError s).trace = s.trace)
    (hI : ∀ t c, I t → I (t ++ [.cryptoCleanup area c])) :
    Triple (I ·.trace) (cryptoCleanup env method area onError) (fun _ s => I s.trace)
      (fun _ s => I s.trace) :=
  .cryptoCleanup_trace honError (fun _ _ h => hI _ _ h) (fun _ _ _ h _ => hI _ _ h) fun _ _ => id

theorem setRsaPrimes_trace {handler : Nat} {p q : Option (List UInt8)}
    (hnext : ∀ t op, I t → I (t ++ [.cryptoOperation op 0]))
    (hret : ∀ t op c, I t → c ≠ 0 → J (.propagated c) (t ++ [.cryptoOperation op c])) :
    Triple (I ·.trace) (setRsaPrimes env method handler p q) (fun _ s => I s.trace)
      (fun st s => J st s.trace) := by
  rcases p with _ | p <;> rcases q with _ | q <;> dsimp only [setRsaPrimes] <;>
    try exact .pure fun _ => id
  exact .bind (.cryptoOperation_trace (fun t => hnext t _) fun t => hret t _) fun _ =>
    .bind (.cryptoOperation_trace (fun t => hnext t _) fun t => hret t _) fun _ => .pure fun _ => id

/-- A state invariant that the effect of `nx_crypto_init` keeps holds after the call, on both
exits. -/
theorem Code.Triple.cryptoInit_keepState {P : State → Prop} {key : List UInt8} {bits : Nat}
    (hP : ∀ s, P s → P (s.afterInit env method key bits)) (hE : ∀ st s, P s → E st s) :
    Triple P (cryptoInit env method key bits) (fun _ => P) E := by
  intro s hs
  rw [wp_cryptoInit]
  exact ⟨fun _ => ⟨fun _ => hE _ _ (hP s hs), fun _ => hP s hs⟩, fun _ => hs⟩

theorem Code.Triple.cryptoOperation_keepState {P : State → Prop} {area : MetadataArea}
    {req : Request} {out : Output} (hP : ∀ s, P s → P (s.afterOperation env method area req out))
    (hE : ∀ st s, P s → E st s) :
    Triple P (cryptoOperation env method area req out) (fun _ => P) E := by
  intro s hs
  rw [wp_cryptoOperation]
  exact fun _ => ⟨fun _ => hE _ _ (hP s hs), fun _ => hP s hs⟩

theorem Code.Triple.cryptoCleanup_keepState {P : State → Prop} {area : MetadataArea}
    {onError : State → State} (hP : ∀ s, P s → P (s.afterCleanup env method area))
    (hE : ∀ st s, P s → E st (onError s)) :
    Triple P (cryptoCleanup env method area onError) (fun _ => P) E := by
  intro s hs
  rw [wp_cryptoCleanup]
  exact ⟨fun _ => ⟨fun _ => hE _ _ (hP s hs), fun _ => hP s hs⟩, fun _ => hs⟩

theorem setRsaPrimes_keepState {P : State → Prop} {handler : Nat} {p q : Option (List UInt8)}
    (hP : ∀ s req, P s → P (s.afterOperation env method .publicCipher req .none))
    (hE : ∀ st s, P s → E st s) :
    Triple P (setRsaPrimes env method handler p q) (fun _ => P) E := by
  rcases p with _ | p <;> rcases q with _ | q <;> dsimp only [setRsaPrimes] <;>
    try exact .pure fun _ => id
  exact .bind (.cryptoOperation_keepState (fun s => hP s _) hE) fun _ =>
    .bind (.cryptoOperation_keepState (fun s => hP s _) hE) fun _ => .pure fun _ => id

/-- `nx_crypto_init` returns only the status of the method. -/
theorem Code.Triple.cryptoInit_propagates {P : State → Prop} {key : List UInt8} {bits : Nat}
    (hE : ∀ c s, E (.propagated c) s) :
    Triple P (cryptoInit env method key bits) (fun _ _ => True) E := by
  intro s _
  rw [wp_cryptoInit]
  exact ⟨fun _ => ⟨fun _ => hE _ _, fun _ => trivial⟩, fun _ => trivial⟩

theorem Code.Triple.cryptoOperation_propagates {P : State → Prop} {area : MetadataArea}
    {req : Request} {out : Output} (hE : ∀ c s, E (.propagated c) s) :
    Triple P (cryptoOperation env method area req out) (fun _ _ => True) E := by
  intro s _
  rw [wp_cryptoOperation]
  exact fun _ => ⟨fun _ => hE _ _, fun _ => trivial⟩

theorem Code.Triple.cryptoCleanup_propagates {P : State → Prop} {area : MetadataArea}
    {onError : State → State} (hE : ∀ c s, E (.propagated c) s) :
    Triple P (cryptoCleanup env method area onError) (fun _ _ => True) E := by
  intro s _
  rw [wp_cryptoCleanup]
  exact ⟨fun _ => ⟨fun _ => hE _ _, fun _ => trivial⟩, fun _ => trivial⟩

theorem setRsaPrimes_propagates {P : State → Prop} {handler : Nat} {p q : Option (List UInt8)}
    (hE : ∀ c s, E (.propagated c) s) :
    Triple P (setRsaPrimes env method handler p q) (fun _ _ => True) E := by
  rcases p with _ | p <;> rcases q with _ | q <;> dsimp only [setRsaPrimes] <;>
    try exact .pure fun _ _ => trivial
  exact .bind (.cryptoOperation_propagates hE) fun _ =>
    .bind (.cryptoOperation_propagates hE) fun _ => .pure fun _ _ => trivial

/-- The common exit keeps the trace. -/
theorem Code.Triple.commonExit_trace {cfg : Config} {Q : Unit → State → Prop}
    (h : ∀ t, I t → J (if cfg.serverDisabled then .invalidState else .success) t) :
    Triple (I ·.trace) (commonExit cfg) Q (fun st s => J st s.trace) := by
  intro s hs
  rw [wp_commonExit]
  cases hd : cfg.serverDisabled <;> cases cfg.keyClear <;> simpa [hd] using h _ hs

end Trace

-- ════════════════════════════════════════════════════════════════════════
-- The padding check
-- ════════════════════════════════════════════════════════════════════════

/-- `length - NX_SECURE_TLS_RSA_PREMASTER_SIZE - 1`: where the byte before the last 48 of a
decrypted block of `length` bytes lies in the scratch buffer. -/
def paddingIndex (length : Nat) : Int := length - tlsRsaPremasterSize - 1

/-- The PKCS#1 check of lines 510-512 fails on `buf`. -/
def PaddingRejected (buf : Int → UInt8) (index : Int) : Prop :=
  buf 0 ≠ 0 ∨ buf 1 ≠ 2 ∨ buf index ≠ 0

instance (buf : Int → UInt8) (index : Int) : Decidable (PaddingRejected buf index) :=
  inferInstanceAs (Decidable (_ ∨ _))

/-- The bytes the check of lines 510-512 reads, with C's short-circuit `||`. -/
def paddingReads (buf : Int → UInt8) (index : Int) : List Event :=
  .scratchRead 0 1 :: if buf 0 ≠ 0 then [] else
    .scratchRead 1 1 :: if buf 1 ≠ 2 then [] else [.scratchRead index 1]

/-- **What the padding check does**: it reads the bytes the check needs, then draws a random
pre-master secret or copies the 48 bytes after the separator. -/
theorem checkPadding_eq {fuel length : Nat} (s : State) :
    checkPadding env fuel length s =
      let buf := s.globals.clientPaddedPreMaster
      let s₁ := { s with trace := s.trace ++ paddingReads buf (paddingIndex length) }
      if PaddingRejected buf (paddingIndex length) then randomPreMasterSecret env fuel s₁
      else .next () ((s₁.log (.scratchRead (paddingIndex length + 1) tlsRsaPremasterSize))
        |>.copyToPreMasterSecret (fun i => buf (paddingIndex length + 1 + i))
          tlsRsaPremasterSize) := by
  simp only [checkPadding, PaddingRejected, paddingReads, paddingIndex, bind_apply, Code.get,
    Code.modify, State.log]
  -- one case per operand of the short-circuit `||`
  by_cases h0 : s.globals.clientPaddedPreMaster 0 = 0
  · by_cases h1 : s.globals.clientPaddedPreMaster 1 = 2
    · by_cases h2 : s.globals.clientPaddedPreMaster (↑length - ↑tlsRsaPremasterSize - 1) = 0 <;>
        simp [h0, h1, h2, bind_apply, Code.modify]
    · simp [h0, h1, bind_apply, Code.modify]
  · simp [h0, bind_apply, Code.modify]

theorem paddingReads_append {I : List Event → Prop}
    (hI : ∀ t i n, I t → I (t ++ [.scratchRead i n])) {t : List Event} (ht : I t)
    (buf : Int → UInt8) (index : Int) :
    I (t ++ paddingReads buf index) := by
  have h₁ := hI _ 0 1 ht
  have h₂ := hI _ 1 1 h₁
  have h₃ := hI _ index 1 h₂
  unfold paddingReads
  split_ifs
  · simpa using h₁
  · simpa using h₂
  · simpa using h₃

/-- The padding check appends reads of the scratch buffer to the trace, and nothing else. -/
theorem checkPadding_trace {I : List Event → Prop} {fuel length : Nat}
    (hI : ∀ t i n, I t → I (t ++ [.scratchRead i n])) :
    Triple (I ·.trace) (checkPadding env fuel length) (fun _ s => I s.trace) E := by
  intro s hs
  have h := paddingReads_append hI hs s.globals.clientPaddedPreMaster (paddingIndex length)
  unfold wp
  rw [checkPadding_eq]
  dsimp only
  split_ifs
  · change wp (randomPreMasterSecret env fuel) _ E _
    rw [wp_randomPreMasterSecret]
    exact fun _ _ _ => h
  · exact hI _ _ _ h

/-- The padding check falls through from any state. -/
theorem checkPadding_falls_through {P : State → Prop} {fuel length : Nat} :
    Triple P (checkPadding env fuel length) (fun _ _ => True) E := fun s _ =>
  checkPadding_trace (I := fun _ => True) (fun _ _ _ _ => trivial) s trivial

/-- Choosing the private key of an (EC)DH(E) exchange only reads the state. -/
theorem ecdhPrivateKey_readOnly {P : State → Prop} {cs : CiphersuiteInfo}
    (hE : ∀ st s, P s → E st s) : Triple P (ecdhPrivateKey env cs) (fun _ => P) E := by
  intro s hs
  unfold ecdhPrivateKey
  simp only [wp_bind, wp_get, wp_ite, wp_ofOption, wp_exit, wp_pure]
  exact ⟨fun _ => ⟨fun _ _ => ⟨fun _ => hE _ _ hs, fun _ => hs⟩, fun _ => hE _ _ hs⟩,
    fun _ => ⟨fun _ => hE _ _ hs, fun _ => hs⟩⟩

/-- Without a negotiated suite, the call returns at once. -/
theorem tlsProcessClientKeyExchange_none {cfg : Config} {fuel : Nat} {m : Message}
    (h : s.session.sessionCiphersuite = none) :
    tlsProcessClientKeyExchange cfg env fuel m s = .ret .unknownCiphersuite s := by
  simp [tlsProcessClientKeyExchange, bind_apply, Code.get, ofOption, h]

/-- A property of the whole call on the suite `cs`, from one of its key exchange and one of the
common exit. -/
theorem tlsProcessClientKeyExchange_triple {cfg : Config} {fuel : Nat} {m : Message}
    {cs : CiphersuiteInfo} {P R : State → Prop} {Q : Unit → State → Prop}
    (hkx : Triple P (keyExchange cfg env fuel m cs) (fun _ => R) E)
    (hexit : Triple R (commonExit cfg) Q E) :
    Triple (fun s => P s ∧ s.session.sessionCiphersuite = some cs)
      (tlsProcessClientKeyExchange cfg env fuel m) Q E := by
  unfold tlsProcessClientKeyExchange
  refine .bind (.get (Q := fun s₀ s => (P s ∧ s.session.sessionCiphersuite = some cs) ∧ s = s₀)
    fun s hs => ⟨hs, rfl⟩) fun s₀ => ?_
  refine .bind (.ofOption (Q := fun cs' s => cs' = cs ∧ P s)
    (fun cs' s h hs => ⟨Option.some.inj ((hs.2 ▸ h).symm.trans hs.1.2), hs.1.1⟩)
    fun s h hs => by obtain ⟨⟨-, hcs⟩, rfl⟩ := hs; simp [h] at hcs) fun cs' =>
      Triple.of_pure fun h => ?_
  subst h
  exact .bind hkx fun _ => hexit

end NxSecure
