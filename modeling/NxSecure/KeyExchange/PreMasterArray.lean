import NxSecure.KeyExchange.Padding

/-!
# The array `nx_secure_tls_pre_master_secret`

The key exchange leaves its result in the session's `nx_secure_tls_pre_master_secret`, an array of
`sizeof(nx_secure_tls_pre_master_secret)` bytes (`Config.premasterSize`), and says in
`nx_secure_tls_pre_master_secret_size` how many of them it filled: the key derivation after the
handshake reads that many. The model indexes the array by `Nat`, so the offsets from
`premasterSize` on stand for the memory after it.

Every write into the array is bounded by the source itself: the NULL-suite copy is cut to the
array (lines 344-347), the RSA copy and the random pre-master secret are 48 bytes, the ECJ-PAKE
operation is handed 32 bytes of output, and the DH calculation the whole array (line 296). The
size is another matter. ECJ-PAKE, RSA and the NULL suite store a constant or the cut length. But
the (EC)DH branch stores the `nx_crypto_extended_output_actual_size` its provider reports
(line 312), and the PSK branch keeps what `_nx_secure_tls_generate_premaster_secret` wrote,
neither checked against the array.

## Main definitions

- `KeyMaterial.WithinArray` — a size that fits the array, and the memory after it left alone
- `CryptoProvider.ReportsWithinOutput`, `Env.GeneratesWithinArray` — the two callees that set the
  size keep it within the array

## Main results

- `premaster_secret_within_array` — every return keeps the pre-master secret within the array,
  when those two callees do
- `ecdh_stores_reported_size` — a provider that reports more makes an ECDHE call succeed with a
  size past the array
-/

namespace NxSecure

open Code

/-- The pre-master secret of `km` is within the array of a build, as far as `km₀`: its size fits
the array, and the memory after the array holds what it holds in `km₀`. -/
structure KeyMaterial.WithinArray (cfg : Config) (km₀ km : KeyMaterial) : Prop where
  size_le : km.preMasterSecretSize ≤ cfg.premasterSize
  beyond : ∀ i, cfg.premasterSize ≤ i → km.preMasterSecret i = km₀.preMasterSecret i

/-- `NX_CRYPTO_DH_CALCULATE`, handed an output of `sizeof(nx_secure_tls_pre_master_secret)` bytes,
reports an `nx_crypto_extended_output_actual_size` that fits it. -/
def CryptoProvider.ReportsWithinOutput (cfg : Config) (p : CryptoProvider) : Prop :=
  ∀ method req buf md, req.op = .dhCalculate →
    (p.operation method req buf cfg.premasterSize md).actualSize ≤ cfg.premasterSize

/-- `_nx_secure_tls_generate_premaster_secret` keeps the pre-master secret of a session within the
array when it finds it there. -/
def Env.GeneratesWithinArray (cfg : Config) (env : Env) : Prop :=
  ∀ σ id, σ.keyMaterial.preMasterSecretSize ≤ cfg.premasterSize →
    KeyMaterial.WithinArray cfg σ.keyMaterial (env.generatePremasterSecret σ id).2

namespace KeyMaterial.WithinArray

variable {cfg : Config} {km₀ km km' : KeyMaterial}

theorem refl (h : km.preMasterSecretSize ≤ cfg.premasterSize) : WithinArray cfg km km :=
  ⟨h, fun _ _ => rfl⟩

theorem trans (h : WithinArray cfg km₀ km) (h' : WithinArray cfg km km') :
    WithinArray cfg km₀ km' :=
  ⟨h'.size_le, fun i hi => (h'.beyond i hi).trans (h.beyond i hi)⟩

end KeyMaterial.WithinArray

/-- The ECJ-PAKE pre-master secret fits every build's array. -/
theorem Config.ecjpake_fits (cfg : Config) : 32 ≤ cfg.premasterSize :=
  Nat.le_trans (by decide : 32 ≤ tlsRsaPremasterSize) cfg.rsaPremasterSize_le

/-- The NULL-suite copy, cut to the array (lines 344-347), fits it. -/
theorem cut_to_array_le (length n : Nat) : (if length > n then n else length) ≤ n := by
  split_ifs <;> omega

/-- The pre-master secret of `s` is within the array, as far as `km₀`. -/
def State.PreMasterWithin (cfg : Config) (km₀ : KeyMaterial) (s : State) : Prop :=
  KeyMaterial.WithinArray cfg km₀ s.session.keyMaterial

variable {cfg : Config} {km₀ : KeyMaterial} {s : State}

-- ════════════════════════════════════════════════════════════════════════
-- The writes
-- ════════════════════════════════════════════════════════════════════════

theorem State.copyToPreMasterSecret_within {src : Nat → UInt8} {n : Nat}
    (h : s.PreMasterWithin cfg km₀) (hn : n ≤ cfg.premasterSize) :
    (s.copyToPreMasterSecret src n).PreMasterWithin cfg km₀ :=
  ⟨h.size_le, fun i hi => by
    show (if i < n then src i else _) = _
    rw [if_neg (by omega)]
    exact h.beyond i hi⟩

theorem State.setPreMasterSecretSize_within {n : Nat}
    (h : s.PreMasterWithin cfg km₀) (hn : n ≤ cfg.premasterSize) :
    (s.setPreMasterSecretSize n).PreMasterWithin cfg km₀ :=
  ⟨hn, h.beyond⟩

/-- An operation writes the array only through an output that fits it. -/
theorem State.afterOperation_within {env : Env} {method : NxCryptoMethod} {area : MetadataArea}
    {req : Request} {out : Output} (h : s.PreMasterWithin cfg km₀)
    (hout : ∀ length, out = .preMasterSecret length → length ≤ cfg.premasterSize) :
    (s.afterOperation env method area req out).PreMasterWithin cfg km₀ := by
  simp only [State.PreMasterWithin, State.afterOperation, State.log_session,
    State.setMetadata_keyMaterial]
  cases out with
  | none => exact h
  | scratch => exact h
  | preMasterSecret length => exact State.copyToPreMasterSecret_within h (hout length rfl)

/-- The loop of lines 522-531 writes the `n` bytes from index `i` on, and no other. -/
theorem randomPreMasterLoop_beyond {rand : Nat → UInt32} {fuel n i pos pos' : Nat}
    {pms pms' : Nat → UInt8} (h : randomPreMasterLoop rand fuel n i pms pos = some (pms', pos'))
    (k : Nat) (hk : i + n ≤ k) : pms' k = pms k := by
  induction n generalizing i pms pos with
  | zero =>
    cases h
    rfl
  | succ n ih =>
    unfold randomPreMasterLoop at h
    split at h
    · rw [ih h (by omega), Function.update_noteq (by omega)]
    · cases h

-- ════════════════════════════════════════════════════════════════════════
-- The statements
-- ════════════════════════════════════════════════════════════════════════

variable {env : Env} {fuel : Nat} {m : Message} {cs : CiphersuiteInfo} {method : NxCryptoMethod}
  {E : TlsStatus → State → Prop}

/-- The DH calculation into the array keeps the pre-master secret within it, and, from a provider
that keeps to its part, reports a size that fits. -/
theorem dhCalculate_within (hrep : env.crypto.ReportsWithinOutput cfg) {area : MetadataArea}
    {req : Request} (hop : req.op = .dhCalculate) :
    Triple (State.PreMasterWithin cfg km₀)
      (cryptoOperation env method area req (.preMasterSecret cfg.premasterSize))
      (fun r s => s.PreMasterWithin cfg km₀ ∧ r.actualSize ≤ cfg.premasterSize)
      (fun _ => State.PreMasterWithin cfg km₀) := by
  intro s h
  have hw : State.PreMasterWithin cfg km₀
      (s.afterOperation env method area req (.preMasterSecret cfg.premasterSize)) :=
    State.afterOperation_within h fun _ hl => by
      cases Output.preMasterSecret.inj hl
      exact Nat.le_refl _
  rw [wp_cryptoOperation]
  exact fun _ => ⟨fun _ => hw, fun _ => ⟨hw, hrep _ _ _ _ hop⟩⟩

theorem ecjpakeKeyExchange_within :
    Triple (State.PreMasterWithin cfg km₀) (ecjpakeKeyExchange env m cs)
      (fun _ => State.PreMasterWithin cfg km₀) (fun _ => State.PreMasterWithin cfg km₀) := by
  unfold ecjpakeKeyExchange
  refine .bind (.modify_keep fun _ h => State.setPreMasterSecretSize_within h cfg.ecjpake_fits)
    fun _ => ?_
  refine .bind .get_keep fun _ => ?_
  refine .bind (.modify_keep fun _ => id) fun _ => ?_
  refine .bind (.cryptoOperation_keepState (fun _ h => State.afterOperation_within h
    fun _ hl => by cases Output.preMasterSecret.inj hl; exact cfg.ecjpake_fits) fun _ _ => id)
    fun _ => ?_
  exact .cryptoCleanup_keepState (fun _ h => by simpa using h) fun _ _ => id

theorem pskKeyExchange_within (hgen : env.GeneratesWithinArray cfg) :
    Triple (State.PreMasterWithin cfg km₀) (pskKeyExchange env m)
      (fun _ => State.PreMasterWithin cfg km₀) (fun _ => State.PreMasterWithin cfg km₀) := by
  unfold pskKeyExchange
  refine .bind (.get (Q := fun s₀ s => s = s₀ ∧ s.PreMasterWithin cfg km₀) fun _ h => ⟨rfl, h⟩)
    fun _ => ?_
  refine .bind (.modify (Q := fun _ => State.PreMasterWithin cfg km₀) fun _ hs => ?_) fun _ =>
    .ite (fun _ => .exit fun _ => id) fun _ => .pure fun _ => id
  obtain ⟨rfl, h⟩ := hs
  exact h.trans (hgen _ _ h.size_le)

theorem ecdhKeyExchange_within (hrep : env.crypto.ReportsWithinOutput cfg) :
    Triple (State.PreMasterWithin cfg km₀) (ecdhKeyExchange cfg env m cs)
      (fun _ => State.PreMasterWithin cfg km₀) (fun _ => State.PreMasterWithin cfg km₀) := by
  unfold ecdhKeyExchange
  simp only [pure_bind, exit_bind]
  refine .bind (.modify_keep fun _ => id) fun _ => ?_
  refine .ite (fun _ => .exit fun _ => id) fun _ => ?_
  refine .bind (ecdhPrivateKey_readOnly fun _ _ => id) fun key => ?_
  refine .bind (.ofOption_keep fun _ => id) fun curve => ?_
  refine .ite (fun _ => .exit fun _ => id) fun _ => ?_
  refine .bind (.cryptoInit_keepState (fun _ h => by simpa using h) fun _ _ => id) fun _ => ?_
  refine .bind (.cryptoOperation_keepState (fun _ h => State.afterOperation_within h nofun)
    fun _ _ => id) fun _ => ?_
  refine .bind (.cryptoOperation_keepState (fun _ h => State.afterOperation_within h nofun)
    fun _ _ => id) fun _ => ?_
  refine .bind (.modify_keep fun _ => id) fun _ => ?_
  refine .bind (dhCalculate_within hrep rfl) fun r => ?_
  refine .bind (.modify (Q := fun _ => State.PreMasterWithin cfg km₀)
    fun _ h => State.setPreMasterSecretSize_within h.1 h.2) fun _ => ?_
  exact .cryptoCleanup_keepState (fun _ h => by simpa using h) fun _ _ => id

theorem userKeyDecrypt_within {cert : X509Cert} {length : Nat} :
    Triple (State.PreMasterWithin cfg km₀)
      (userKeyDecrypt env m method cert length)
      (fun _ => State.PreMasterWithin cfg km₀) (fun _ => State.PreMasterWithin cfg km₀) := by
  unfold userKeyDecrypt
  exact .bind (.modify_keep fun _ => id) fun _ => .bind (.cryptoOperation_keepState
    (fun _ h => State.afterOperation_within h nofun) fun _ _ => id) fun _ => .pure fun _ => id

theorem parsedKeyDecrypt_within {cert : X509Cert} {length : Nat} :
    Triple (State.PreMasterWithin cfg km₀)
      (parsedKeyDecrypt cfg env m method cert length)
      (fun _ => State.PreMasterWithin cfg km₀) (fun _ => State.PreMasterWithin cfg km₀) := by
  unfold parsedKeyDecrypt
  simp only [pure_bind]
  have hcleanup : Triple (State.PreMasterWithin cfg km₀)
      (cryptoCleanup env method .publicCipher fun s => if cfg.keyClear then s.clearScratch else s)
      (fun _ => State.PreMasterWithin cfg km₀) (fun _ => State.PreMasterWithin cfg km₀) :=
    .cryptoCleanup_keepState (fun _ h => by simpa using h) fun _ _ h => by split_ifs <;> exact h
  refine .bind (.cryptoInit_keepState (fun _ h => by simpa using h) fun _ _ => id) fun _ =>
    .ite (fun _ => ?_) fun _ => hcleanup
  refine .bind (setRsaPrimes_keepState (fun _ _ h => State.afterOperation_within h nofun)
    fun _ _ => id) fun _ => ?_
  refine .bind (.modify_keep fun _ => id) fun _ => ?_
  exact .bind (.cryptoOperation_keepState (fun _ h => State.afterOperation_within h nofun)
    fun _ _ => id) fun _ => hcleanup

theorem rsaDecryptPreMaster_within :
    Triple (State.PreMasterWithin cfg km₀) (rsaDecryptPreMaster cfg env m cs)
      (fun _ => State.PreMasterWithin cfg km₀) (fun _ => State.PreMasterWithin cfg km₀) := by
  unfold rsaDecryptPreMaster nullCiphersuiteCopy
  simp only [pure_bind, exit_bind]
  refine .bind (.modify_keep fun _ => id) fun _ => ?_
  refine .ite (fun _ => .exit fun _ => id) fun _ => ?_
  refine .bind (R := fun _ => State.PreMasterWithin cfg km₀)
    (.ite (fun _ => ?_) fun _ => .pure fun _ => id) fun length => ?_
  · -- the NULL suite: a copy and a size, both cut to the array
    exact .bind (.modify_keep fun _ h => State.setPreMasterSecretSize_within
      (State.copyToPreMasterSecret_within h (cut_to_array_le _ _)) (cut_to_array_le _ _))
      fun _ => .pure fun _ => id
  refine .bind .get_keep fun _ => ?_
  refine .bind (.ofOption_keep fun _ => id) fun cert => ?_
  refine .ite (fun _ => .ite (fun _ => ?_) fun _ => ?_) fun _ => .exit fun _ => id
  · exact .bind userKeyDecrypt_within fun _ => .pure fun _ => id
  · exact .bind parsedKeyDecrypt_within fun _ => .pure fun _ => id

/-- The padding check writes the first 48 bytes of the array: a copy, or the random bytes. -/
theorem checkPadding_within {length : Nat} :
    Triple (State.PreMasterWithin cfg km₀) (checkPadding env fuel length)
      (fun _ => State.PreMasterWithin cfg km₀) E := by
  intro s h
  unfold wp
  rw [checkPadding_eq]
  dsimp only
  split_ifs
  · change wp (randomPreMasterSecret env fuel) _ E _
    rw [wp_randomPreMasterSecret]
    have hfit := cfg.rsaPremasterSize_le
    exact fun _ _ hl => ⟨h.size_le, fun i hi =>
      (randomPreMasterLoop_beyond hl i (by omega)).trans (h.beyond i hi)⟩
  · exact State.copyToPreMasterSecret_within h cfg.rsaPremasterSize_le

theorem keyExchange_within (hrep : env.crypto.ReportsWithinOutput cfg)
    (hgen : env.GeneratesWithinArray cfg) :
    Triple (State.PreMasterWithin cfg km₀) (keyExchange cfg env fuel m cs)
      (fun _ => State.PreMasterWithin cfg km₀) (fun _ => State.PreMasterWithin cfg km₀) := by
  unfold keyExchange
  split
  · exact ecjpakeKeyExchange_within
  · exact pskKeyExchange_within hgen
  · exact ecdhKeyExchange_within hrep
  · unfold certificateKeyExchange
    exact .bind rsaDecryptPreMaster_within fun _ => .bind checkPadding_within fun _ =>
      .modify_keep fun _ h => State.setPreMasterSecretSize_within h cfg.rsaPremasterSize_le

/-- The common exit leaves the key material alone. -/
theorem commonExit_within {Q : Unit → State → Prop} :
    Triple (State.PreMasterWithin cfg km₀) (commonExit cfg) Q
      (fun _ => State.PreMasterWithin cfg km₀) := by
  intro s h
  rw [wp_commonExit]
  split_ifs <;> exact h

-- ════════════════════════════════════════════════════════════════════════
-- The whole call
-- ════════════════════════════════════════════════════════════════════════

/-- Every return from `s₀` keeps the pre-master secret within the array, as far as `s₀`. -/
theorem tlsProcessClientKeyExchange_within {s₀ : State} {status : TlsStatus}
    (hrep : env.crypto.ReportsWithinOutput cfg) (hgen : env.GeneratesWithinArray cfg)
    (hsize : s₀.session.keyMaterial.preMasterSecretSize ≤ cfg.premasterSize)
    (h : tlsProcessClientKeyExchange cfg env fuel m s₀ = .ret status s) :
    KeyMaterial.WithinArray cfg s₀.session.keyMaterial s.session.keyMaterial := by
  obtain hcs | ⟨cs, hcs⟩ : s₀.session.sessionCiphersuite = none ∨
      ∃ cs, s₀.session.sessionCiphersuite = some cs := by
    cases s₀.session.sessionCiphersuite <;> simp
  · rw [tlsProcessClientKeyExchange_none hcs] at h
    cases h
    exact .refl hsize
  · exact wp_ret h (tlsProcessClientKeyExchange_triple (Q := fun _ _ => True)
      (keyExchange_within hrep hgen) commonExit_within _
      ⟨KeyMaterial.WithinArray.refl hsize, hcs⟩)

/-- **The pre-master secret stays within its array.** When the provider's DH calculation and
`_nx_secure_tls_generate_premaster_secret` keep the size they set within the array, every return
of the call, on success and on every error alike, leaves a size that fits the array, and the
memory after the array as it was on entry. -/
theorem premaster_secret_within_array {session : Session} {globals : Globals} {status : TlsStatus}
    (hrep : env.crypto.ReportsWithinOutput cfg) (hgen : env.GeneratesWithinArray cfg)
    (hsize : session.keyMaterial.preMasterSecretSize ≤ cfg.premasterSize)
    (h : Returns cfg env m session globals status s) :
    KeyMaterial.WithinArray cfg session.keyMaterial s.session.keyMaterial :=
  let ⟨_, h⟩ := h
  tlsProcessClientKeyExchange_within hrep hgen hsize h

/-- An ECDHE call under the scripted provider, which reports 32 bytes, keeps the pre-master
secret within the 48-byte array. -/
theorem premaster_secret_within_array_ecdhe :
    ∃ s, Returns serverBuild (scriptedEnv fun _ => (0, none)) ⟨fun _ => 0, 1, 0⟩
        (serverSession ecdheSuite []) startGlobals .success s ∧
      KeyMaterial.WithinArray serverBuild (serverSession ecdheSuite []).keyMaterial
        s.session.keyMaterial := by
  obtain ⟨s, h⟩ : ∃ s, Returns serverBuild (scriptedEnv fun _ => (0, none)) ⟨fun _ => 0, 1, 0⟩
      (serverSession ecdheSuite []) startGlobals .success s := ⟨_, 0, rfl⟩
  exact ⟨s, h, premaster_secret_within_array (fun _ _ _ _ _ => show 32 ≤ 48 by decide)
    (fun _ _ h => .refl h) (show 0 ≤ 48 by decide) h⟩

/-- The collaborators of `scriptedEnv` around a provider whose operations all succeed and report
49 bytes. -/
def oversizeEnv : Env :=
  { scriptedEnv fun _ => (0, none) with
    crypto := { scriptedProvider fun _ => (0, none) with operation := fun _ _ old _ md =>
      ⟨0, old, 49, md⟩ } }

/-- **The reported size is not checked.** A provider whose DH calculation reports 49 bytes makes
an ECDHE call succeed with `nx_secure_tls_pre_master_secret_size` past the 48-byte array. -/
theorem ecdh_stores_reported_size :
    ∃ s, Returns serverBuild oversizeEnv ⟨fun _ => 0, 1, 0⟩ (serverSession ecdheSuite [])
        startGlobals .success s ∧
      serverBuild.premasterSize < s.session.keyMaterial.preMasterSecretSize :=
  ⟨_, ⟨0, rfl⟩, by decide⟩

end NxSecure
