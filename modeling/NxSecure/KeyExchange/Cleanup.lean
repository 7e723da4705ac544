import NxSecure.KeyExchange.Calls

/-!
# `nx_crypto_cleanup` of the public cipher after `nx_crypto_init`

The ECDH(E) branch and the parsed-key RSA branch open the public cipher with `nx_crypto_init` and
close it with `nx_crypto_cleanup` on `nx_secure_public_cipher_metadata_area`. Between the two they
make up to three operations, each returning on failure. This file proves what every return owes to
the metadata area after a successful `init`: with no failed operation, one call of the method's
cleanup (none when it has none); after a failed operation, no cleanup at all, and the operation's
status as the function's.

## Main definitions

- `cleanupCount` — how often a trace calls the public cipher's `nx_crypto_cleanup`
- `CleanupDiscipline` — what a return owes to the public cipher after a successful `init`

## Main results

- `cleanup_after_init` — every return of the function satisfies `CleanupDiscipline`
- `curve_set_failure_skips_cleanup` — a failed curve set returns without the cleanup

## Design notes

A branch goes through three phases, each an invariant of the trace: `CipherIdle` before a
successful `init`, `CipherOpen` between it and the cleanup, `CipherSettled` after the branch. Each
branch is a chain of triples (`Code.Triple`) from one phase to the next; the crypto calls move
between phases by the lemmas of the second section, everything else keeps the phase.
-/

namespace NxSecure

open Code

/-- A call of the public cipher's `nx_crypto_cleanup`. -/
@[simp] def Event.IsCipherCleanup : Event → Bool
  | .cryptoCleanup .publicCipher _ => true
  | _ => false

/-- A crypto operation that failed. -/
@[simp] def Event.IsFailedOperation : Event → Prop
  | .cryptoOperation _ c => c ≠ 0
  | _ => False

/-- How many times a trace calls the public cipher's `nx_crypto_cleanup`. -/
def cleanupCount (t : List Event) : Nat := t.countP Event.IsCipherCleanup

/-- No crypto operation of the trace failed. -/
def NoFailedOperation (t : List Event) : Prop := ∀ e ∈ t, ¬ e.IsFailedOperation

/-- **What a return owes to the public cipher** after a successful `nx_crypto_init`: with no failed
operation, the method's cleanup ran once if it has one and never otherwise; after a failed
operation, the cleanup never ran and the call returns that operation's status. -/
def CleanupDiscipline (hasCleanup : Bool) (status : TlsStatus) (t : List Event) : Prop :=
  Event.cryptoInit 0 ∈ t →
    (NoFailedOperation t → cleanupCount t = hasCleanup.toNat) ∧
    (∀ op c, Event.cryptoOperation op c ∈ t → c ≠ 0 → cleanupCount t = 0 ∧ status = .propagated c)

@[simp] theorem cleanupCount_append (t : List Event) (e : Event) :
    cleanupCount (t ++ [e]) = cleanupCount t + e.IsCipherCleanup.toNat := by
  simp only [cleanupCount, List.countP_append, List.countP_cons, List.countP_nil]
  cases e.IsCipherCleanup <;> rfl

@[simp] theorem noFailedOperation_append (t : List Event) (e : Event) :
    NoFailedOperation (t ++ [e]) ↔ NoFailedOperation t ∧ ¬ e.IsFailedOperation := by
  simp [NoFailedOperation, or_imp, forall_and]

-- ════════════════════════════════════════════════════════════════════════
-- The three phases of a branch
-- ════════════════════════════════════════════════════════════════════════

/-- Before a successful `nx_crypto_init`: none in the trace, no failed operation, no cleanup. -/
def CipherIdle (t : List Event) : Prop :=
  Event.cryptoInit 0 ∉ t ∧ NoFailedOperation t ∧ cleanupCount t = 0

/-- Between `nx_crypto_init` and `nx_crypto_cleanup`: no failed operation, no cleanup. -/
def CipherOpen (t : List Event) : Prop := NoFailedOperation t ∧ cleanupCount t = 0

/-- After a branch that falls through: if `init` succeeded, no operation failed and the cleanup
ran as often as the method has one. -/
def CipherSettled (hasCleanup : Bool) (t : List Event) : Prop :=
  Event.cryptoInit 0 ∈ t → NoFailedOperation t ∧ cleanupCount t = hasCleanup.toNat

variable {t : List Event} {hasCleanup : Bool} {op : Opcode} {c : UInt32}

theorem CipherIdle.discipline (h : CipherIdle t) (status : TlsStatus) :
    CleanupDiscipline hasCleanup status t := fun hi => absurd hi h.1

theorem CipherIdle.settled (h : CipherIdle t) : CipherSettled hasCleanup t :=
  fun hi => absurd hi h.1

theorem CipherSettled.discipline (h : CipherSettled hasCleanup t) (status : TlsStatus) :
    CleanupDiscipline hasCleanup status t :=
  fun hi => ⟨fun _ => (h hi).2, fun _ _ he hc => absurd hc (by simpa using (h hi).1 _ he)⟩

theorem CipherIdle.read {o l : Nat} (h : CipherIdle t) : CipherIdle (t ++ [.packetRead o l]) := by
  simpa [CipherIdle] using h

theorem CipherIdle.initFailed (h : CipherIdle t) (hc : c ≠ 0) :
    CipherIdle (t ++ [.cryptoInit c]) := by
  simpa [CipherIdle, Ne.symm hc] using h

theorem CipherIdle.initOk (h : CipherIdle t) : CipherOpen (t ++ [.cryptoInit 0]) := by
  simpa [CipherOpen] using h.2

theorem CipherIdle.opOk (h : CipherIdle t) : CipherIdle (t ++ [.cryptoOperation op 0]) := by
  simpa [CipherIdle] using h

/-- An operation that fails before any successful `init` owes nothing to the public cipher. -/
theorem CipherIdle.opFailed (h : CipherIdle t) (status : TlsStatus) :
    CleanupDiscipline hasCleanup status (t ++ [.cryptoOperation op c]) := by
  intro hi
  simp only [List.mem_append, List.mem_singleton, reduceCtorEq, or_false] at hi
  exact absurd hi h.1

theorem CipherIdle.authCleanup (h : CipherIdle t) :
    CipherIdle (t ++ [.cryptoCleanup .publicAuth c]) := by
  simpa [CipherIdle] using h

theorem CipherOpen.opOk (h : CipherOpen t) : CipherOpen (t ++ [.cryptoOperation op 0]) := by
  simpa [CipherOpen] using h

/-- An operation that fails between `init` and the cleanup returns its status, and the cleanup
has not run. -/
theorem CipherOpen.opFailed (h : CipherOpen t) (hc : c ≠ 0) :
    CleanupDiscipline hasCleanup (.propagated c) (t ++ [.cryptoOperation op c]) := by
  refine fun _ => ⟨fun hno => (((noFailedOperation_append _ _).1 hno).2 hc).elim,
    fun op' c' he hc' => ?_⟩
  simp only [List.mem_append, List.mem_singleton, Event.cryptoOperation.injEq] at he
  rcases he with he | ⟨-, rfl⟩
  · exact absurd (by simpa using h.1 _ he) hc'
  · simpa using h.2

/-- After `init`, the cleanup of a method that has one runs once, whatever its status. -/
theorem CipherOpen.cleanup (h : CipherOpen t) (hc : hasCleanup = true) (c : UInt32) :
    CipherSettled hasCleanup (t ++ [.cryptoCleanup .publicCipher c]) := by
  intro _
  simpa [CipherOpen, hc] using h

theorem CipherOpen.noCleanup (h : CipherOpen t) (hc : hasCleanup = false) :
    CipherSettled hasCleanup t :=
  fun _ => hc ▸ h

theorem CipherSettled.read {i : Int} {n : Nat} (h : CipherSettled hasCleanup t) :
    CipherSettled hasCleanup (t ++ [.scratchRead i n]) := by
  simpa [CipherSettled] using h

-- ════════════════════════════════════════════════════════════════════════
-- The branches
-- ════════════════════════════════════════════════════════════════════════

variable {cfg : Config} {env : Env} {fuel : Nat} {m : Message} {cs : CiphersuiteInfo}

/-- ECJ-PAKE calls the public-auth method only: the public cipher stays idle. -/
theorem ecjpakeKeyExchange_idle :
    Triple (CipherIdle ·.trace) (ecjpakeKeyExchange env m cs) (fun _ s => CipherIdle s.trace)
      (fun st s => CleanupDiscipline hasCleanup st s.trace) := by
  unfold ecjpakeKeyExchange
  refine .bind (.modify_keep fun s h => by simpa using h) fun _ => ?_
  refine .bind .get_keep fun s₀ => ?_
  refine .bind (.modify_keep fun s h => by simpa using h.read) fun _ => ?_
  refine .bind (.cryptoOperation_trace (fun _ h => h.opOk) fun _ _ h _ => h.opFailed _) fun _ => ?_
  exact .cryptoCleanup_trace (fun _ => rfl) (fun _ _ h => h.authCleanup)
    (fun _ _ _ h _ => h.authCleanup.discipline _) fun _ _ h => h

theorem pskKeyExchange_idle :
    Triple (CipherIdle ·.trace) (pskKeyExchange env m) (fun _ s => CipherIdle s.trace)
      (fun st s => CleanupDiscipline hasCleanup st s.trace) := by
  unfold pskKeyExchange
  refine .bind .get_keep fun s₀ => ?_
  refine .bind (.modify_keep fun s h => by simpa using h) fun _ => ?_
  exact .ite (fun _ => .exit fun _ h => h.discipline _) fun _ => .pure fun _ => id

theorem ecdhKeyExchange_settled :
    Triple (CipherIdle ·.trace) (ecdhKeyExchange cfg env m cs)
      (fun _ s => CipherSettled cs.publicCipher.nxCryptoCleanup s.trace)
      (fun st s => CleanupDiscipline cs.publicCipher.nxCryptoCleanup st s.trace) := by
  unfold ecdhKeyExchange
  simp only [pure_bind, exit_bind]
  refine .bind (.modify_keep fun s h => by simpa using h.read) fun _ => ?_
  refine .ite (fun _ => .exit fun _ h => h.discipline _) fun _ => ?_
  refine .bind (ecdhPrivateKey_readOnly fun st _ h => h.discipline st) fun key => ?_
  refine .bind (.ofOption (fun _ _ _ => id) fun _ _ h => h.discipline _) fun curve => ?_
  refine .ite (fun _ => .exit fun _ h => h.discipline _) fun _ => ?_
  refine .bind (.cryptoInit_trace (K := CipherOpen) (fun _ _ h => h.initOk)
    (fun _ _ _ h hc => (h.initFailed hc).discipline _) fun _ _ h => ⟨h.2.1, h.2.2⟩) fun hd => ?_
  refine .bind (.cryptoOperation_trace (fun _ h => h.opOk) fun _ _ h => h.opFailed) fun _ => ?_
  refine .bind (.cryptoOperation_trace (fun _ h => h.opOk) fun _ _ h => h.opFailed) fun _ => ?_
  refine .bind (.modify_keep fun s h => by simpa [CipherOpen] using h) fun _ => ?_
  refine .bind (.cryptoOperation_trace (fun _ h => h.opOk) fun _ _ h => h.opFailed) fun _ => ?_
  refine .bind (.modify_keep fun s h => by simpa using h) fun _ => ?_
  exact .cryptoCleanup_trace (fun _ => rfl) (fun hc _ h => h.cleanup hc 0)
    (fun hc _ c h _ => (h.cleanup hc c).discipline _) fun hc _ h => h.noCleanup hc

theorem userKeyDecrypt_idle {method : NxCryptoMethod} {cert : X509Cert} {length : Nat} :
    Triple (CipherIdle ·.trace) (userKeyDecrypt env m method cert length)
      (fun _ s => CipherIdle s.trace) (fun st s => CleanupDiscipline hasCleanup st s.trace) := by
  unfold userKeyDecrypt
  refine .bind (.modify_keep fun s h => by simpa using h.read) fun _ => ?_
  exact .bind (.cryptoOperation_trace (fun _ h => h.opOk) fun _ _ h _ => h.opFailed _)
    fun _ => .pure fun _ => id

theorem parsedKeyDecrypt_settled {method : NxCryptoMethod} {cert : X509Cert} {length : Nat} :
    Triple (CipherIdle ·.trace) (parsedKeyDecrypt cfg env m method cert length)
      (fun _ s => CipherSettled method.nxCryptoCleanup s.trace)
      (fun st s => CleanupDiscipline method.nxCryptoCleanup st s.trace) := by
  unfold parsedKeyDecrypt
  simp only [pure_bind]
  refine .bind (.cryptoInit_trace (K := CipherOpen) (fun _ _ h => h.initOk)
    (fun _ _ _ h hc => (h.initFailed hc).discipline _) fun _ _ h => ⟨h.2.1, h.2.2⟩) fun hd => ?_
  have hcleanup : Triple (CipherOpen ·.trace)
      (cryptoCleanup env method .publicCipher fun s => if cfg.keyClear then s.clearScratch else s)
      (fun _ s => CipherSettled method.nxCryptoCleanup s.trace)
      (fun st s => CleanupDiscipline method.nxCryptoCleanup st s.trace) :=
    .cryptoCleanup_trace (fun s => by split_ifs <;> rfl) (fun hc _ h => h.cleanup hc 0)
      (fun hc _ c h _ => (h.cleanup hc c).discipline _) fun hc _ h => h.noCleanup hc
  refine .ite (fun _ => ?_) fun _ => hcleanup
  refine .bind (setRsaPrimes_trace (fun _ _ h => h.opOk) fun _ _ _ h => h.opFailed) fun _ => ?_
  refine .bind (.modify_keep fun s h => by simpa [CipherOpen] using h) fun _ => ?_
  exact .bind (.cryptoOperation_trace (fun _ h => h.opOk) fun _ _ h => h.opFailed) fun _ => hcleanup

theorem rsaDecryptPreMaster_settled :
    Triple (CipherIdle ·.trace) (rsaDecryptPreMaster cfg env m cs)
      (fun _ s => CipherSettled cs.publicCipher.nxCryptoCleanup s.trace)
      (fun st s => CleanupDiscipline cs.publicCipher.nxCryptoCleanup st s.trace) := by
  unfold rsaDecryptPreMaster nullCiphersuiteCopy
  simp only [pure_bind, exit_bind]
  refine .bind (.modify_keep fun s h => by simpa using h.read) fun _ => ?_
  refine .ite (fun _ => .exit fun _ h => h.discipline _) fun _ => ?_
  refine .bind (R := fun _ s => CipherIdle s.trace) (.ite (fun _ => ?_) fun _ => .pure fun _ => id)
    fun length => ?_
  · exact .bind (.modify_keep fun s h => by simpa using h.read) fun _ => .pure fun _ => id
  refine .bind .get_keep fun s₀ => ?_
  refine .bind (.ofOption (fun _ _ _ => id) fun _ _ h => h.discipline _) fun cert => ?_
  refine .ite (fun _ => .ite (fun _ => ?_) fun _ => ?_) fun _ => .exit fun _ h => h.discipline _
  · exact .bind userKeyDecrypt_idle fun _ => .pure fun _ h => h.settled
  · exact .bind parsedKeyDecrypt_settled fun _ => .pure fun _ => id

theorem keyExchange_settled :
    Triple (CipherIdle ·.trace) (keyExchange cfg env fuel m cs)
      (fun _ s => CipherSettled cs.publicCipher.nxCryptoCleanup s.trace)
      (fun st s => CleanupDiscipline cs.publicCipher.nxCryptoCleanup st s.trace) := by
  unfold keyExchange
  split
  · exact ecjpakeKeyExchange_idle.conseq (fun _ => id) (fun _ _ h => h.settled) fun _ _ => id
  · exact pskKeyExchange_idle.conseq (fun _ => id) (fun _ _ h => h.settled) fun _ _ => id
  · exact ecdhKeyExchange_settled
  · unfold certificateKeyExchange
    refine .bind rsaDecryptPreMaster_settled fun length => ?_
    refine .bind (checkPadding_trace fun _ _ _ h => h.read) fun _ => ?_
    exact .modify_keep fun s h => by simpa using h

/-- **Cleanup after `init`.** Every return of `_nx_secure_tls_process_client_key_exchange` after
a successful `nx_crypto_init` of the public cipher has called the method's `nx_crypto_cleanup`
exactly once (never, when it has none) if no operation failed, and never if one failed, in which
case it returns that operation's status. -/
theorem cleanup_after_init {session : Session} {globals : Globals} {status : TlsStatus} {s : State}
    (h : Returns cfg env m session globals status s) (hcs : session.sessionCiphersuite = some cs) :
    CleanupDiscipline cs.publicCipher.nxCryptoCleanup status s.trace := by
  obtain ⟨fuel, hrun⟩ := h
  refine wp_ret hrun (tlsProcessClientKeyExchange_triple (Q := fun _ _ => True)
    keyExchange_settled ?_ _ ⟨by simp [CipherIdle, cleanupCount, NoFailedOperation], hcs⟩)
  exact Triple.commonExit_trace fun _ h => h.discipline _

/-- An ECDHE exchange that succeeds calls the cleanup once. -/
theorem cleanup_after_init_ecdhe :
    ∃ s, Returns serverBuild (scriptedEnv fun _ => (0, none)) ⟨fun _ => 0, 1, 0⟩
      (serverSession ecdheSuite []) startGlobals .success s ∧
      CleanupDiscipline true .success s.trace :=
  by
    obtain ⟨s, h⟩ : ∃ s, Returns serverBuild (scriptedEnv fun _ => (0, none)) ⟨fun _ => 0, 1, 0⟩
        (serverSession ecdheSuite []) startGlobals .success s := ⟨_, 0, rfl⟩
    exact ⟨s, h, cleanup_after_init h rfl⟩

/-- **A failed curve set skips the cleanup.** The curve set of an ECDHE exchange fails after a
successful `init`: the call returns the failure without calling the method's cleanup. -/
theorem curve_set_failure_skips_cleanup :
    ∃ s, Returns serverBuild (scriptedEnv fun op => (if op = .ecCurveSet 0 then 1 else 0, none))
      ⟨fun _ => 0, 1, 0⟩ (serverSession ecdheSuite []) startGlobals (.propagated 1) s ∧
      ecdheSuite.publicCipher.nxCryptoCleanup = true ∧ Event.cryptoInit 0 ∈ s.trace ∧
      cleanupCount s.trace = 0 :=
  ⟨_, ⟨0, rfl⟩, rfl, by decide, rfl⟩

end NxSecure
