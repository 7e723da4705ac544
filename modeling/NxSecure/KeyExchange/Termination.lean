import NxSecure.KeyExchange.Padding

/-!
# The call returns

Every call of `_nx_secure_tls_process_client_key_exchange` returns to its caller, save for two
calls through `nx_crypto_operation` that the source makes without testing the pointer: the
ECJ-PAKE exchange of line 132 and the decryption with a user-defined key of line 381. The one
loop, the rejection sampling of lines 522-531, ends whenever the random source keeps producing
nonzero low bytes.

## Main results

- `rsaDecryptPreMaster_ends`, `ecdhKeyExchange_ends`, ... — each stretch of the call ends
- `checkPadding_exists` — enough fuel ends the padding check
- `call_returns` — the whole call returns
-/

namespace NxSecure

open Code

variable {cfg : Config} {env : Env} {m : Message} {cs : CiphersuiteInfo} {method : NxCryptoMethod}

-- ════════════════════════════════════════════════════════════════════════
-- The crypto calls
-- ════════════════════════════════════════════════════════════════════════

theorem Code.Ends.cryptoInit {key : List UInt8} {bits : Nat} :
    Ends (cryptoInit env method key bits) := by
  intro s
  simp only [NxSecure.cryptoInit]
  split_ifs <;> nofun

/-- A call of `nx_crypto_operation` returns when the method has one. -/
theorem Code.Ends.cryptoOperation {area : MetadataArea} {req : Request} {out : Output}
    (h : method.nxCryptoOperation = true) : Ends (cryptoOperation env method area req out) := by
  intro s
  simp only [NxSecure.cryptoOperation, h, if_true]
  split_ifs <;> nofun

theorem Code.Ends.cryptoCleanup {area : MetadataArea} {onError : State → State} :
    Ends (cryptoCleanup env method area onError) := by
  intro s
  simp only [NxSecure.cryptoCleanup]
  split_ifs <;> nofun

theorem setRsaPrimes_ends {handler : Nat} {p q : Option (List UInt8)}
    (h : method.nxCryptoOperation = true) : Ends (setRsaPrimes env method handler p q) := by
  unfold setRsaPrimes
  split
  · exact .bind (.cryptoOperation h) fun _ => .bind (.cryptoOperation h) fun _ => .pure
  · exact .pure

-- ════════════════════════════════════════════════════════════════════════
-- The branches
-- ════════════════════════════════════════════════════════════════════════

/-- The ECJ-PAKE exchange calls the public-auth operation without testing for it. -/
theorem ecjpakeKeyExchange_ends (h : cs.publicAuth.nxCryptoOperation = true) :
    Ends (ecjpakeKeyExchange env m cs) := by
  unfold ecjpakeKeyExchange
  exact .bind .modify fun _ => .bind .get fun _ => .bind .modify fun _ =>
    .bind (.cryptoOperation h) fun _ => .cryptoCleanup

theorem pskKeyExchange_ends : Ends (pskKeyExchange env m) := by
  unfold pskKeyExchange
  exact .bind .get fun _ => .bind .modify fun _ => .ite (fun _ => .exit) fun _ => .pure

theorem ecdhPrivateKey_ends : Ends (ecdhPrivateKey env cs) := by
  unfold ecdhPrivateKey
  simp only [pure_bind, exit_bind]
  exact .bind .get fun _ => .ite (fun _ => .bind .ofOption fun _ => .ite (fun _ => .exit)
    fun _ => .pure) fun _ => .ite (fun _ => .exit) fun _ => .pure

/-- The (EC)DH exchange tests for `nx_crypto_operation` before its calls. -/
theorem ecdhKeyExchange_ends : Ends (ecdhKeyExchange cfg env m cs) := by
  unfold ecdhKeyExchange
  simp only [pure_bind, exit_bind]
  refine .bind .modify fun _ => .ite (fun _ => .exit) fun _ => ?_
  refine .bind ecdhPrivateKey_ends fun _ =>
    .bind .ofOption fun _ => .ite (fun _ => .exit) fun hop => ?_
  have h : cs.publicCipher.nxCryptoOperation = true := by simpa using hop
  exact .bind .cryptoInit fun _ => .bind (.cryptoOperation h) fun _ =>
    .bind (.cryptoOperation h) fun _ => .bind .modify fun _ => .bind (.cryptoOperation h) fun _ =>
      .bind .modify fun _ => .cryptoCleanup

/-- A user-defined key is handed to `nx_crypto_operation` without testing for it. -/
theorem userKeyDecrypt_ends {cert : X509Cert} {length : Nat}
    (h : method.nxCryptoOperation = true) : Ends (userKeyDecrypt env m method cert length) := by
  unfold userKeyDecrypt
  exact .bind .modify fun _ => .bind (.cryptoOperation h) fun _ => .pure

theorem parsedKeyDecrypt_ends {cert : X509Cert} {length : Nat} :
    Ends (parsedKeyDecrypt cfg env m method cert length) := by
  unfold parsedKeyDecrypt
  simp only [pure_bind]
  exact .bind .cryptoInit fun _ => .ite (fun h => .bind (setRsaPrimes_ends h) fun _ =>
    .bind .modify fun _ => .bind (.cryptoOperation h) fun _ => .cryptoCleanup)
    fun _ => .cryptoCleanup

theorem rsaDecryptPreMaster_ends (h : cs.publicCipher.nxCryptoOperation = true) :
    Ends (rsaDecryptPreMaster cfg env m cs) := by
  unfold rsaDecryptPreMaster nullCiphersuiteCopy
  simp only [pure_bind, exit_bind]
  refine .bind .modify fun _ => .ite (fun _ => .exit) fun _ => ?_
  refine .bind (.ite (fun _ => .bind .modify fun _ => .pure) fun _ => .pure) fun _ => ?_
  refine .bind .get fun _ => .bind .ofOption fun _ => .ite (fun _ => .ite (fun _ => ?_) fun _ => ?_)
    fun _ => .exit
  · exact .bind (userKeyDecrypt_ends h) fun _ => .pure
  · exact .bind parsedKeyDecrypt_ends fun _ => .pure

/-- With a random source that keeps producing nonzero low bytes, enough fuel ends the padding
check, whichever way it goes. -/
theorem checkPadding_exists {length : Nat} {s : State} (hrand : NonzeroRecurs env.nxRand) :
    ∃ fuel s', checkPadding env fuel length s = .next () s' := by
  by_cases h : PaddingRejected s.globals.clientPaddedPreMaster (paddingIndex length)
  · exact checkPadding_rejected_exists h hrand
  · obtain ⟨s', hc, -⟩ := checkPadding_accepted env 0 h
    exact ⟨0, s', hc⟩

-- ════════════════════════════════════════════════════════════════════════
-- The whole call
-- ════════════════════════════════════════════════════════════════════════

/-- A key exchange that ends ends the call: the common exit always returns. -/
theorem tlsProcessClientKeyExchange_ret {fuel : Nat} {s : State}
    (hcs : s.session.sessionCiphersuite = some cs) (h : keyExchange cfg env fuel m cs s ≠ .stuck) :
    ∃ status s', tlsProcessClientKeyExchange cfg env fuel m s = .ret status s' := by
  simp only [tlsProcessClientKeyExchange, bind_apply, Code.get, ofOption, hcs]
  cases hk : keyExchange cfg env fuel m cs s with
  | next _ s' => exact ⟨_, _, commonExit_eq⟩
  | ret status s' => exact ⟨status, s', rfl⟩
  | stuck => exact absurd hk h

/-- **The call returns.** With a random source that keeps producing nonzero low bytes, a call
on a negotiated suite returns to its caller, provided the methods it calls without testing have
an `nx_crypto_operation`: the public-auth method of an ECJ-PAKE suite, and the public cipher of a
certificate-based suite, which a user-defined key calls directly. -/
theorem call_returns {session : Session} {globals : Globals}
    (hcs : session.sessionCiphersuite = some cs) (hrand : NonzeroRecurs env.nxRand)
    (hauth : keyExchangeBranch cfg cs = .ecjpake → cs.publicAuth.nxCryptoOperation = true)
    (hcipher : keyExchangeBranch cfg cs = .certificate → cs.publicCipher.nxCryptoOperation = true) :
    ∃ status s, Returns cfg env m session globals status s := by
  suffices h : ∃ fuel, keyExchange cfg env fuel m cs ⟨session, globals, []⟩ ≠ .stuck by
    obtain ⟨fuel, h⟩ := h
    obtain ⟨status, s, hs⟩ := tlsProcessClientKeyExchange_ret hcs h
    exact ⟨status, s, fuel, hs⟩
  unfold keyExchange
  cases hbr : keyExchangeBranch cfg cs with
  | ecjpake => exact ⟨0, ecjpakeKeyExchange_ends (hauth hbr) _⟩
  | psk => exact ⟨0, pskKeyExchange_ends _⟩
  | ecdh => exact ⟨0, ecdhKeyExchange_ends _⟩
  | certificate =>
    unfold certificateKeyExchange
    cases hD : rsaDecryptPreMaster cfg env m cs ⟨session, globals, []⟩ with
    | next length s₁ =>
      obtain ⟨fuel, s₂, hc⟩ : ∃ fuel s₂, checkPadding env fuel length s₁ = .next () s₂ :=
        checkPadding_exists hrand
      exact ⟨fuel, by simp only [bind_apply, hD, hc]; nofun⟩
    | ret => exact ⟨0, by simp only [bind_apply, hD]; nofun⟩
    | stuck => exact absurd hD (rsaDecryptPreMaster_ends (hcipher hbr) _)

/-- A certificate-based call on a user-defined RSA key whose decryption leaves an all-zero
block, so that the rejection loop runs. -/
theorem call_returns_zero_block :
    ∃ status s, Returns serverBuild zeroBlockEnv shortCiphertext userKeySession startGlobals
      status s :=
  call_returns rfl (fun p => ⟨p, Nat.le_refl p, show (1 : UInt32).toUInt8 ≠ 0 by decide⟩)
    (fun h => absurd h (by decide)) fun _ => rfl

end NxSecure
