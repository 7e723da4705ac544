import NxSecure.KeyExchange.Scratch

/-!
# What an error return leaves behind

The function raises its own errors (`NX_SECURE_TLS_UNKNOWN_CIPHERSUITE`,
`NX_SECURE_TLS_INCORRECT_MESSAGE_LENGTH`, `NX_SECURE_TLS_CERTIFICATE_NOT_FOUND`,
`NX_SECURE_TLS_UNSUPPORTED_ECC_CURVE`, `NX_SECURE_TLS_MISSING_CRYPTO_ROUTINE`,
`NX_SECURE_TLS_UNSUPPORTED_PUBLIC_CIPHER`) before any crypto call and before any write, with one
exception: the NULL ciphersuite copies the message into the key material (lines 341-350) before
the certificate lookup and the public-cipher check, either of which can still fail. Every other
return after a write passes on a callee's status.

## Main results

- `validation_error_leaves_state` — with any suite but NULL, a validation error leaves the session
  and the shared state as the call found them
- `null_suite_certificate_error_keeps_copy` — a NULL-suite call that fails the certificate lookup
  returns with the copied key material
- `null_suite_unsupported_cipher` — a NULL-suite call with a local certificate and a non-RSA
  public cipher fails after its copy
-/

namespace NxSecure

open Code

@[simp] theorem TlsStatus.not_isValidationError_propagated (c : UInt32) :
    ¬ (TlsStatus.propagated c).IsValidationError := by
  simp [TlsStatus.IsValidationError]

@[simp] theorem TlsStatus.not_isValidationError_success :
    ¬ TlsStatus.success.IsValidationError := by
  decide

@[simp] theorem TlsStatus.not_isValidationError_invalidState :
    ¬ TlsStatus.invalidState.IsValidationError := by
  decide

variable {cfg : Config} {env : Env} {fuel : Nat} {m : Message} {cs : CiphersuiteInfo}
  {method : NxCryptoMethod} {σ : Session} {γ : Globals}

/-- The session and the globals are those of entry: only the trace has grown. -/
def AsFound (σ : Session) (γ : Globals) (s : State) : Prop := s.session = σ ∧ s.globals = γ

/-- What a return owes: a validation error leaves the session and the globals as on entry. -/
def LeftAsFound (σ : Session) (γ : Globals) (status : TlsStatus) (s : State) : Prop :=
  status.IsValidationError → AsFound σ γ s

theorem AsFound.log {s : State} {e : Event} (h : AsFound σ γ s) : AsFound σ γ (s.log e) := h

theorem leftAsFound_propagated (c : UInt32) (s : State) : LeftAsFound σ γ (.propagated c) s :=
  fun h => absurd h (TlsStatus.not_isValidationError_propagated c)

-- ════════════════════════════════════════════════════════════════════════
-- The branches
-- ════════════════════════════════════════════════════════════════════════

/-- ECJ-PAKE sets the secret's size first, then only passes on the method's statuses. -/
theorem ecjpakeKeyExchange_leftAsFound :
    Triple (AsFound σ γ) (ecjpakeKeyExchange env m cs) (fun _ _ => True) (LeftAsFound σ γ) := by
  unfold ecjpakeKeyExchange
  refine .conseq (P := fun _ => True) ?_ (fun _ _ => trivial) (fun _ _ => id) fun _ _ => id
  refine .bind (.modify_keep fun _ _ => trivial) fun _ => .bind .get_keep fun _ => ?_
  refine .bind (.modify_keep fun _ _ => trivial) fun _ => ?_
  exact .bind (.cryptoOperation_propagates leftAsFound_propagated) fun _ =>
    .cryptoCleanup_propagates leftAsFound_propagated

theorem pskKeyExchange_leftAsFound :
    Triple (AsFound σ γ) (pskKeyExchange env m) (fun _ _ => True) (LeftAsFound σ γ) := by
  unfold pskKeyExchange
  refine .conseq (P := fun _ => True) ?_ (fun _ _ => trivial) (fun _ _ => id) fun _ _ => id
  refine .bind .get_keep fun _ => .bind (.modify_keep fun _ _ => trivial) fun _ => ?_
  exact .ite (fun _ => .exit fun s _ => leftAsFound_propagated _ s) fun _ => .pure fun _ => id

/-- ECDH(E) raises its errors before `nx_crypto_init`. -/
theorem ecdhKeyExchange_leftAsFound :
    Triple (AsFound σ γ) (ecdhKeyExchange cfg env m cs) (fun _ _ => True) (LeftAsFound σ γ) := by
  unfold ecdhKeyExchange
  simp only [pure_bind, exit_bind]
  refine .bind (.modify_keep fun _ h => h.log) fun _ => ?_
  refine .ite (fun _ => .exit fun _ h _ => h) fun _ => ?_
  refine .bind (ecdhPrivateKey_readOnly fun _ _ h _ => h) fun key => ?_
  refine .bind (.ofOption_keep fun _ h _ => h) fun curve => ?_
  refine .ite (fun _ => .exit fun _ h _ => h) fun _ => ?_
  refine .bind (.cryptoInit_propagates leftAsFound_propagated) fun hd => ?_
  refine .bind (.cryptoOperation_propagates leftAsFound_propagated) fun _ => ?_
  refine .bind (.cryptoOperation_propagates leftAsFound_propagated) fun _ => ?_
  refine .bind (.modify_keep fun _ _ => trivial) fun _ => ?_
  refine .bind (.cryptoOperation_propagates leftAsFound_propagated) fun _ => ?_
  refine .bind (.modify_keep fun _ _ => trivial) fun _ => ?_
  exact .cryptoCleanup_propagates leftAsFound_propagated

theorem parsedKeyDecrypt_leftAsFound {cert : X509Cert} {length : Nat} :
    Triple (AsFound σ γ) (parsedKeyDecrypt cfg env m method cert length) (fun _ _ => True)
      (LeftAsFound σ γ) := by
  unfold parsedKeyDecrypt
  simp only [pure_bind]
  refine .bind (.cryptoInit_propagates leftAsFound_propagated) fun hd => ?_
  refine .ite (fun _ => ?_) fun _ => .cryptoCleanup_propagates leftAsFound_propagated
  refine .bind (setRsaPrimes_propagates leftAsFound_propagated) fun _ => ?_
  refine .bind (.modify_keep fun _ _ => trivial) fun _ => ?_
  exact .bind (.cryptoOperation_propagates leftAsFound_propagated) fun _ =>
    .cryptoCleanup_propagates leftAsFound_propagated

/-- Outside the NULL suite, the certificate-based exchange raises its errors before it writes. -/
theorem rsaDecryptPreMaster_leftAsFound (hnull : cs.ciphersuite ≠ tlsNullWithNullNull) :
    Triple (AsFound σ γ) (rsaDecryptPreMaster cfg env m cs) (fun _ _ => True)
      (LeftAsFound σ γ) := by
  unfold rsaDecryptPreMaster nullCiphersuiteCopy
  simp only [pure_bind, exit_bind, hnull, if_false]
  refine .bind (.modify_keep fun _ h => h.log) fun _ => ?_
  refine .ite (fun _ => .exit fun _ h _ => h) fun _ => ?_
  refine .bind .get_keep fun _ => .bind (.ofOption_keep fun _ h _ => h) fun cert => ?_
  refine .ite (fun _ => .ite (fun _ => ?_) fun _ => ?_) fun _ => .exit fun _ h _ => h
  · unfold userKeyDecrypt
    refine .bind (.bind (.modify_keep fun _ h => h.log) fun _ =>
      .bind (.cryptoOperation_propagates leftAsFound_propagated) fun _ => .pure fun _ _ => trivial)
      fun _ => .pure fun _ => id
  · exact .bind parsedKeyDecrypt_leftAsFound fun _ => .pure fun _ => id

theorem keyExchange_leftAsFound (hnull : cs.ciphersuite ≠ tlsNullWithNullNull) :
    Triple (AsFound σ γ) (keyExchange cfg env fuel m cs) (fun _ _ => True) (LeftAsFound σ γ) := by
  unfold keyExchange
  split
  · exact ecjpakeKeyExchange_leftAsFound
  · exact pskKeyExchange_leftAsFound
  · exact ecdhKeyExchange_leftAsFound
  · unfold certificateKeyExchange
    exact .bind (rsaDecryptPreMaster_leftAsFound hnull) fun _ =>
      .bind checkPadding_falls_through fun _ => .modify fun _ _ => trivial

/-- **Validation errors change nothing.** With any ciphersuite but `TLS_NULL_WITH_NULL_NULL`, a
call that returns one of its own validation errors leaves the session, its key material
included, and the shared state as it found them. -/
theorem validation_error_leaves_state {session : Session} {globals : Globals}
    {status : TlsStatus} {s : State} (h : Returns cfg env m session globals status s)
    (hv : status.IsValidationError)
    (hnull : ∀ cs, session.sessionCiphersuite = some cs → cs.ciphersuite ≠ tlsNullWithNullNull) :
    s.session = session ∧ s.globals = globals := by
  obtain ⟨fuel, hrun⟩ := h
  cases hcs : session.sessionCiphersuite with
  | none =>
    rw [tlsProcessClientKeyExchange_none hcs] at hrun
    cases hrun
    exact ⟨rfl, rfl⟩
  | some cs =>
    refine wp_ret hrun (tlsProcessClientKeyExchange_triple (Q := fun _ _ => True)
      (keyExchange_leftAsFound (hnull cs hcs)) ?_ _ ⟨⟨rfl, rfl⟩, hcs⟩) hv
    intro s _
    rw [wp_commonExit]
    split_ifs <;> simp [LeftAsFound]

/-- An ECDHE message announcing more than it holds. -/
theorem validation_error_leaves_state_ecdhe :
    ∃ s, Returns serverBuild (scriptedEnv fun _ => (0, none)) ⟨fun _ => 5, 1, 0⟩
      (serverSession ecdheSuite []) startGlobals .incorrectMessageLength s ∧
      s.session = serverSession ecdheSuite [] ∧ s.globals = startGlobals := by
  obtain ⟨s, h⟩ : ∃ s, Returns serverBuild (scriptedEnv fun _ => (0, none)) ⟨fun _ => 5, 1, 0⟩
      (serverSession ecdheSuite []) startGlobals .incorrectMessageLength s := ⟨_, 0, rfl⟩
  exact ⟨s, h, validation_error_leaves_state h (by decide) fun _ hcs => by cases hcs; decide⟩

-- ════════════════════════════════════════════════════════════════════════
-- The NULL suite
-- ════════════════════════════════════════════════════════════════════════

/-- `TLS_NULL_WITH_NULL_NULL`, with methods of another algorithm than the key exchanges. -/
def nullSuite : CiphersuiteInfo :=
  ⟨tlsNullWithNullNull, fullMethod (.other 0), fullMethod (.other 0)⟩

/-- A message announcing 4 bytes `0x07`, and holding them. -/
def nullMessage : Message := ⟨fun i => if i = 1 then 4 else if 2 ≤ i then 7 else 0, 6, 0⟩

/-- **A NULL-suite call fails after its copy.** With no local certificate, the call returns
`NX_SECURE_TLS_CERTIFICATE_NOT_FOUND` with the 4 bytes of the message in the pre-master secret
and its size 4, where the session had none. -/
theorem null_suite_certificate_error_keeps_copy :
    ∃ s, Returns serverBuild (scriptedEnv fun _ => (0, none)) nullMessage
      (serverSession nullSuite []) startGlobals .certificateNotFound s ∧
      (serverSession nullSuite []).keyMaterial.preMasterSecretSize = 0 ∧
      s.session.keyMaterial.preMasterSecretSize = 4 ∧ s.session.keyMaterial.preMasterSecret 0 = 7 :=
  ⟨_, ⟨0, rfl⟩, rfl, rfl, rfl⟩

/-- **The NULL suite does not bypass the public-cipher check.** With a local certificate and a
public cipher that is not RSA, a NULL-suite call copies the message into the key material and then
returns `NX_SECURE_TLS_UNSUPPORTED_PUBLIC_CIPHER`. -/
theorem null_suite_unsupported_cipher :
    ∃ s, Returns serverBuild (scriptedEnv fun _ => (0, none)) nullMessage
      (serverSession nullSuite [rsaCertificate 0]) startGlobals .unsupportedPublicCipher s ∧
      s.session.keyMaterial.preMasterSecretSize = 4 :=
  ⟨_, ⟨0, rfl⟩, rfl⟩

end NxSecure
