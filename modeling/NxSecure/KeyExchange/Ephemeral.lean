import NxSecure.KeyExchange.Reads

/-!
# The ephemeral exchange does not use the server's certificate

In a build with `NX_SECURE_ENABLE_ECC_CIPHERSUITE`, a static ECDH suite takes its private key from
the server's certificate (lines 189-222); an ECDHE suite takes it from the ephemeral key pair of
the handshake, `nx_secure_tls_new_key_material_data` (lines 224-237). The forward secrecy an ECDHE
suite is chosen for rests on that branch never touching the certificate. This file proves it for
the whole call in those builds. Take any credentials (active certificate and certificate store) and
any `_nx_secure_x509_local_device_certificate_get`. An ECDHE call then runs the same statements on
the same data, and returns the same status in the same state, credentials aside. A build without
the option sends an ECDHE suite to the certificate branch, which does read the store.
`_nx_secure_tls_find_curve_method`, which the source hands the session, is modelled as a function
of the named curve alone.

## Main definitions

- `State.setCredentials` — the state with other credentials
- `Code.CommutesWith` — code that runs alike before and after a change of state

## Main results

- `keyExchangeBranch_ecdhe` — which builds send an ECDHE suite to the (EC)DH branch
- `ecdhKeyExchange_commutes` — the ECDHE branch commutes with a change of credentials
- `ecdhe_ignores_credentials` — so does the whole call, in those builds
-/

namespace NxSecure

open Code

/-- The state with the session's credentials replaced by `c`. -/
def State.setCredentials (s : State) (c : Credentials) : State :=
  { s with session := { s.session with credentials := c } }

/-- The state a flow ends in, changed by `f`. -/
def Flow.mapState (f : State → State) : Flow α → Flow α
  | .next a s => .next a (f s)
  | .ret status s => .ret status (f s)
  | .stuck => .stuck

/-- `x` runs from `f s` as it runs from `s`, to the same value or status, with `f` applied to the
state it ends in. -/
def Code.CommutesWith (f : State → State) (x : Code α) : Prop :=
  ∀ s, x (f s) = (x s).mapState f

namespace Code.CommutesWith

variable {f : State → State} {x y : Code α}

theorem bind {g : α → Code β} (hx : CommutesWith f x) (hg : ∀ a, CommutesWith f (g a)) :
    CommutesWith f (x >>= g) := by
  intro s
  rw [bind_apply, bind_apply, hx s]
  cases x s with
  | next a s' => exact hg a s'
  | ret => rfl
  | stuck => rfl

theorem pure {a : α} : CommutesWith f (Pure.pure a : Code α) := fun _ => rfl

theorem exit {status : TlsStatus} : CommutesWith f (Code.exit status : Code α) := fun _ => rfl

/-- A statement whose effect commutes with `f`. -/
theorem modify {g : State → State} (hg : ∀ s, g (f s) = f (g s)) :
    CommutesWith f (Code.modify g) := fun s => congrArg (Flow.next ()) (hg s)

theorem ofOption {o : Option α} {status : TlsStatus} : CommutesWith f (Code.ofOption o status) := by
  intro s
  cases o <;> rfl

theorem ite {c : Prop} [Decidable c] (ht : c → CommutesWith f x) (he : ¬c → CommutesWith f y) :
    CommutesWith f (if c then x else y) := by
  by_cases hc : c
  · simpa only [if_pos hc] using ht hc
  · simpa only [if_neg hc] using he hc

end Code.CommutesWith

-- ════════════════════════════════════════════════════════════════════════
-- The statements of the ECDHE branch
-- ════════════════════════════════════════════════════════════════════════

namespace State

variable {s : State} {c : Credentials} {env : Env} {method : NxCryptoMethod} {key : List UInt8}
  {bits : Nat} {area : MetadataArea} {req : Request} {out : Output}

@[simp] theorem setCredentials_session_keyMaterial :
    (s.setCredentials c).session.keyMaterial = s.session.keyMaterial := rfl
@[simp] theorem setCredentials_sessionCiphersuite :
    (s.setCredentials c).session.sessionCiphersuite = s.session.sessionCiphersuite := rfl
@[simp] theorem setCredentials_metadata : (s.setCredentials c).metadata area = s.metadata area := by
  cases area <;> rfl

/-- The crypto calls read the metadata areas and the output buffers, not the credentials. -/
theorem setCredentials_afterInit :
    (s.setCredentials c).afterInit env method key bits =
      (s.afterInit env method key bits).setCredentials c := by
  simp only [afterInit, initReturn, setCredentials_metadata]
  rfl

theorem setCredentials_outputBuffer :
    (s.setCredentials c).outputBuffer out = s.outputBuffer out := by
  cases out <;> rfl

theorem setCredentials_storeOutput (f : Nat → UInt8) :
    (s.setCredentials c).storeOutput out f = (s.storeOutput out f).setCredentials c := by
  cases out <;> rfl

theorem setCredentials_afterOperation :
    (s.setCredentials c).afterOperation env method area req out =
      (s.afterOperation env method area req out).setCredentials c := by
  simp only [afterOperation, operationReturn, setCredentials_metadata, setCredentials_outputBuffer,
    setCredentials_storeOutput]
  cases area <;> rfl

theorem setCredentials_afterCleanup :
    (s.setCredentials c).afterCleanup env method area =
      (s.afterCleanup env method area).setCredentials c := by
  simp only [afterCleanup, cleanupReturn, setCredentials_metadata]
  cases area <;> rfl

end State

variable {cfg : Config} {env : Env} {fuel : Nat} {m : Message} {cs : CiphersuiteInfo}
  {method : NxCryptoMethod} {c : Credentials}

theorem cryptoInit_commutes {key : List UInt8} {bits : Nat} :
    CommutesWith (·.setCredentials c) (cryptoInit env method key bits) := by
  intro s
  simp only [cryptoInit, State.initReturn, State.setCredentials_metadata,
    State.setCredentials_afterInit]
  split_ifs <;> rfl

theorem cryptoOperation_commutes {area : MetadataArea} {req : Request} {out : Output} :
    CommutesWith (·.setCredentials c) (cryptoOperation env method area req out) := by
  intro s
  simp only [cryptoOperation, State.operationReturn, State.setCredentials_metadata,
    State.setCredentials_outputBuffer, State.setCredentials_afterOperation]
  split_ifs <;> rfl

theorem cryptoCleanup_commutes {area : MetadataArea} :
    CommutesWith (·.setCredentials c) (cryptoCleanup env method area id) := by
  intro s
  simp only [cryptoCleanup, State.cleanupReturn, State.setCredentials_metadata,
    State.setCredentials_afterCleanup]
  split_ifs <;> rfl

/-- The ECDHE key is the ephemeral one: choosing it does not call the certificate lookup. -/
theorem ecdhPrivateKey_ephemeral (hecdhe : cs.publicCipher.nxCryptoAlgorithm = .keyExchangeEcdhe)
    (g : List X509Cert → Option X509Cert) :
    ecdhPrivateKey { env with x509LocalDeviceCertificateGet := g } cs = ecdhPrivateKey env cs := by
  simp only [ecdhPrivateKey, hecdhe, reduceCtorEq, if_false]

/-- Nor does it read the credentials. -/
theorem ecdhPrivateKey_commutes (hecdhe : cs.publicCipher.nxCryptoAlgorithm = .keyExchangeEcdhe) :
    CommutesWith (·.setCredentials c) (ecdhPrivateKey env cs) := by
  intro s
  simp only [ecdhPrivateKey, bind_apply, Code.get, hecdhe, reduceCtorEq, if_false,
    State.setCredentials_session_keyMaterial]
  split_ifs <;> rfl

/-- Under any certificate lookup, the ECDHE branch runs the same statements. -/
theorem ecdhKeyExchange_ephemeral (hecdhe : cs.publicCipher.nxCryptoAlgorithm = .keyExchangeEcdhe)
    (g : List X509Cert → Option X509Cert) :
    ecdhKeyExchange cfg { env with x509LocalDeviceCertificateGet := g } m cs =
      ecdhKeyExchange cfg env m cs := by
  unfold ecdhKeyExchange
  rw [ecdhPrivateKey_ephemeral hecdhe g]
  rfl

/-- **The ECDHE branch does not read the credentials**: it runs from a state with other
credentials as from the state itself. -/
theorem ecdhKeyExchange_commutes (hecdhe : cs.publicCipher.nxCryptoAlgorithm = .keyExchangeEcdhe) :
    CommutesWith (·.setCredentials c) (ecdhKeyExchange cfg env m cs) := by
  unfold ecdhKeyExchange
  simp only [pure_bind, exit_bind]
  refine .bind (.modify fun _ => rfl) fun _ => ?_
  refine .ite (fun _ => .exit) fun _ => ?_
  refine .bind (ecdhPrivateKey_commutes hecdhe) fun key => ?_
  refine .bind .ofOption fun curve => ?_
  refine .ite (fun _ => .exit) fun _ => ?_
  refine .bind cryptoInit_commutes fun _ => ?_
  refine .bind cryptoOperation_commutes fun _ => .bind cryptoOperation_commutes fun _ => ?_
  refine .bind (.modify fun _ => rfl) fun _ => ?_
  refine .bind cryptoOperation_commutes fun _ => ?_
  exact .bind (.modify fun _ => rfl) fun _ => cryptoCleanup_commutes

theorem commonExit_commutes : CommutesWith (·.setCredentials c) (commonExit cfg) := by
  intro s
  simp only [commonExit_eq]
  split_ifs <;> rfl

/-- Lines 127, 166 and 178: with `NX_SECURE_ENABLE_ECC_CIPHERSUITE` built in, an ECDHE suite
reaches the (EC)DH branch unless its public-auth method selects an ECJ-PAKE or PSK exchange that
the build has. -/
theorem keyExchangeBranch_ecdhe (hecc : cfg.enableEccCiphersuite = true)
    (hjpake : cfg.enableEcjpakeCiphersuite = true →
      cs.publicAuth.nxCryptoAlgorithm ≠ .keyExchangeEcjpake)
    (hpsk : cfg.enablePskCiphersuites = true → cs.publicAuth.nxCryptoAlgorithm ≠ .keyExchangePsk)
    (hecdhe : cs.publicCipher.nxCryptoAlgorithm = .keyExchangeEcdhe) :
    keyExchangeBranch cfg cs = .ecdh := by
  rw [keyExchangeBranch, if_neg fun h => hjpake h.1 h.2, if_neg fun h => hpsk h.1 h.2,
    if_pos ⟨hecc, .inr hecdhe⟩]

/-- **An ECDHE call does not depend on the certificate.** In a build with
`NX_SECURE_ENABLE_ECC_CIPHERSUITE`, take a suite that reaches the (EC)DH branch with ECDHE as its
public cipher. With any other credentials and any `_nx_secure_x509_local_device_certificate_get`,
a call on that suite returns the same status in the same state as on the session itself, with only
the credentials replaced. -/
theorem ecdhe_ignores_credentials {s : State} (hcs : s.session.sessionCiphersuite = some cs)
    (hecc : cfg.enableEccCiphersuite = true)
    (hjpake : cfg.enableEcjpakeCiphersuite = true →
      cs.publicAuth.nxCryptoAlgorithm ≠ .keyExchangeEcjpake)
    (hpsk : cfg.enablePskCiphersuites = true → cs.publicAuth.nxCryptoAlgorithm ≠ .keyExchangePsk)
    (hecdhe : cs.publicCipher.nxCryptoAlgorithm = .keyExchangeEcdhe) (c : Credentials)
    (g : List X509Cert → Option X509Cert) :
    tlsProcessClientKeyExchange cfg { env with x509LocalDeviceCertificateGet := g } fuel m
        (s.setCredentials c) =
      (tlsProcessClientKeyExchange cfg env fuel m s).mapState (·.setCredentials c) := by
  have hkx : ∀ e : Env, keyExchange cfg e fuel m cs = ecdhKeyExchange cfg e m cs := fun _ => by
    simp only [keyExchange, keyExchangeBranch_ecdhe hecc hjpake hpsk hecdhe]
  simp only [tlsProcessClientKeyExchange, bind_apply, Code.get, ofOption,
    State.setCredentials_sessionCiphersuite, hcs, hkx, ecdhKeyExchange_ephemeral hecdhe g]
  exact (CommutesWith.bind (ecdhKeyExchange_commutes hecdhe) fun _ => commonExit_commutes) s

/-- A certificate store on the session changes nothing of an ECDHE call in a build with every
key exchange. -/
theorem ecdhe_ignores_credentials_store :
    tlsProcessClientKeyExchange serverBuild
        { scriptedEnv fun _ => (0, none) with x509LocalDeviceCertificateGet := fun _ => none } 0
        ⟨fun _ => 0, 1, 0⟩
        ((⟨serverSession ecdheSuite [], startGlobals, []⟩ : State).setCredentials
          ⟨none, [rsaCertificate 0]⟩) =
      (tlsProcessClientKeyExchange serverBuild (scriptedEnv fun _ => (0, none)) 0 ⟨fun _ => 0, 1, 0⟩
        ⟨serverSession ecdheSuite [], startGlobals, []⟩).mapState (·.setCredentials
          ⟨none, [rsaCertificate 0]⟩) :=
  ecdhe_ignores_credentials rfl rfl (fun _ => by decide) (fun _ => by decide) rfl _ _

end NxSecure
