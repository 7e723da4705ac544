import NxSecure.KeyExchange.Scratch
import NxSecure.KeyExchange.Termination

/-!
# What the call reveals of the decrypted block

The Bleichenbacher countermeasure of lines 508-541 is meant to make the call behave alike
whatever block the provider decrypts: a block that fails the PKCS#1 check gets a random
pre-master secret and the call goes on as if it had passed. Two providers that answer alike
except for the block their decryption writes are compared run against run: the call returns the
same status, leaves the same session but for the pre-master secret bytes, and, with
`NX_SECURE_KEY_CLEAR`, the same scratch buffer, unless the decryption failed. The random source
decides whether the two calls return together: a rejected block draws from it until 48 nonzero
low bytes have come, so a source whose nonzero low bytes stop coming would hang that call alone.
A decryption that fails is the exception: the call returns the provider's status at once, with
the block the provider wrote still in `_nx_secure_client_padded_pre_master`.

## Main definitions

- `CryptoProvider.AgreeExceptBlock` — two providers that answer alike except for the block a
  decryption writes
- `AgreeOffBlock` — two states alike except for the 600 bytes of the scratch buffer
- `Session.withoutPreMasterSecret` — a session with its pre-master secret bytes forgotten

## Main results

- `rsaDecryptPreMaster_rel` — the decryption under two such providers ends alike
- `returns_agree` — any two returns of the call under two such providers agree
- `returns_oblivious` — with nonzero low bytes recurring, one call returns when the other does
- `decrypted_block_oblivious` — both calls return, and alike
- `failed_decrypt_reveals_block` — a failed decryption leaves its block behind

## Design notes

Up to the decryption the two runs are the same run: `RelTriple.bind_same` steps through the
statements they share. From the decryption on they differ in the buffer only, so the relation
is `AgreeOffBlock`, equality after `State.clearScratch`, which every statement that does not
write the buffer preserves. The padding check is compared through what each run stores, not
statement by statement: one run may draw random bytes where the other copies.
-/

namespace NxSecure

open Code

-- ════════════════════════════════════════════════════════════════════════
-- Two providers, two states
-- ════════════════════════════════════════════════════════════════════════

/-- Two crypto providers that answer alike except for the block a decryption writes: the same
`init` and `cleanup`, the same answer to every other operation, and to a decryption the same
status and metadata. -/
structure CryptoProvider.AgreeExceptBlock (p₁ p₂ : CryptoProvider) : Prop where
  init : p₁.init = p₂.init
  cleanup : p₁.cleanup = p₂.cleanup
  operation : ∀ method req old length md, ¬ req.op.IsRsaDecrypt →
    p₁.operation method req old length md = p₂.operation method req old length md
  status : ∀ method req old length md,
    (p₁.operation method req old length md).status = (p₂.operation method req old length md).status
  metadata : ∀ method req old length md,
    (p₁.operation method req old length md).metadata =
      (p₂.operation method req old length md).metadata

/-- Two states alike except for the contents of the 600 bytes of
`_nx_secure_client_padded_pre_master`. -/
def AgreeOffBlock (s s' : State) : Prop := s.clearScratch = s'.clearScratch

/-- The session with its pre-master secret bytes forgotten. -/
def Session.withoutPreMasterSecret (σ : Session) : Session :=
  { σ with keyMaterial := { σ.keyMaterial with preMasterSecret := fun _ => 0 } }

/-- How the two runs of the decryption may return early: alike off the block, and, with
`NX_SECURE_KEY_CLEAR`, alike on it too unless a decryption failed. -/
def ReturnAlike (cfg : Config) (s s' : State) : Prop :=
  AgreeOffBlock s s' ∧ (cfg.keyClear = true → NoFailedDecrypt s.trace → s.globals = s'.globals)

namespace State

variable {s : State}

@[simp] theorem clearScratch_log (e : Event) : (s.log e).clearScratch = s.clearScratch.log e := rfl

@[simp] theorem clearScratch_setMetadata (area : MetadataArea) (md : Metadata) :
    (s.setMetadata area md).clearScratch = s.clearScratch.setMetadata area md := by
  cases area <;> rfl

/-- A decryption's block is all the buffer it writes. -/
@[simp] theorem clearScratch_storeOutput_scratch (out : Nat → UInt8) :
    (s.storeOutput .scratch out).clearScratch = s.clearScratch := by
  simp only [storeOutput, clearScratch, setScratch, setScratch_clientPaddedPreMaster]
  congr 2
  funext i
  split_ifs <;> rfl

@[simp] theorem clearScratch_clearScratch : s.clearScratch.clearScratch = s.clearScratch := by
  simp only [clearScratch, setScratch, setScratch_clientPaddedPreMaster]
  congr 2
  funext i
  split_ifs <;> rfl

theorem clearScratch_cleanupReturn {env : Env} {method : NxCryptoMethod} {area : MetadataArea} :
    s.clearScratch.cleanupReturn env method area = s.cleanupReturn env method area := by
  cases area <;> rfl

theorem withoutPreMasterSecret_setClientState (st : ClientState) :
    (s.setClientState st).session.withoutPreMasterSecret =
      { s.session.withoutPreMasterSecret with clientState := st } := rfl

theorem withoutPreMasterSecret_setPreMasterSecretSize {s' : State} (n : Nat)
    (h : s.session.withoutPreMasterSecret = s'.session.withoutPreMasterSecret) :
    (s.setPreMasterSecretSize n).session.withoutPreMasterSecret =
      (s'.setPreMasterSecretSize n).session.withoutPreMasterSecret :=
  congrArg
    (fun σ : Session => { σ with keyMaterial := { σ.keyMaterial with preMasterSecretSize := n } }) h

/-- The buffer after `clearScratch` depends on the buffer only. -/
theorem clearScratch_clientPaddedPreMaster {s' : State}
    (h : s.globals.clientPaddedPreMaster = s'.globals.clientPaddedPreMaster) :
    s.clearScratch.globals.clientPaddedPreMaster =
      s'.clearScratch.globals.clientPaddedPreMaster := by
  simp only [clearScratch, setScratch_clientPaddedPreMaster, h]

end State

theorem AgreeOffBlock.refl (s : State) : AgreeOffBlock s s := rfl

theorem AgreeOffBlock.session {s s' : State} (h : AgreeOffBlock s s') : s.session = s'.session := by
  simpa using congrArg State.session h

theorem ReturnAlike.refl (cfg : Config) (s : State) : ReturnAlike cfg s s :=
  ⟨rfl, fun _ _ => rfl⟩

-- ════════════════════════════════════════════════════════════════════════
-- The statements that do not see the block
-- ════════════════════════════════════════════════════════════════════════

section Congr

variable {env : Env} {p₁ p₂ : CryptoProvider} {cfg : Config} {m : Message} {cs : CiphersuiteInfo}

theorem cryptoInit_congr (hp : p₁.AgreeExceptBlock p₂) :
    cryptoInit { env with crypto := p₁ } = cryptoInit { env with crypto := p₂ } := by
  funext method key bits s
  simp only [cryptoInit, State.initReturn, State.afterInit, hp.init]

theorem cryptoCleanup_congr (hp : p₁.AgreeExceptBlock p₂) :
    cryptoCleanup { env with crypto := p₁ } = cryptoCleanup { env with crypto := p₂ } := by
  funext method area onError s
  simp only [cryptoCleanup, State.cleanupReturn, State.afterCleanup, hp.cleanup]

/-- An operation other than a decryption answers alike. -/
theorem cryptoOperation_congr (hp : p₁.AgreeExceptBlock p₂) {method : NxCryptoMethod}
    {area : MetadataArea} {req : Request} {out : Output} (hop : ¬ req.op.IsRsaDecrypt) :
    cryptoOperation { env with crypto := p₁ } method area req out =
      cryptoOperation { env with crypto := p₂ } method area req out := by
  funext s
  simp only [cryptoOperation, State.operationReturn, State.afterOperation,
    hp.operation _ _ _ _ _ hop]

theorem setRsaPrimes_congr (hp : p₁.AgreeExceptBlock p₂) {method : NxCryptoMethod}
    {handler : Nat} {p q : Option (List UInt8)} :
    setRsaPrimes { env with crypto := p₁ } method handler p q =
      setRsaPrimes { env with crypto := p₂ } method handler p q := by
  unfold setRsaPrimes
  split <;> simp (disch := simp only [Opcode.IsRsaDecrypt, not_false_eq_true]) only
    [cryptoOperation_congr hp]

theorem ecjpakeKeyExchange_congr (hp : p₁.AgreeExceptBlock p₂) :
    ecjpakeKeyExchange { env with crypto := p₁ } m cs =
      ecjpakeKeyExchange { env with crypto := p₂ } m cs := by
  simp (disch := simp only [Opcode.IsRsaDecrypt, not_false_eq_true]) only [ecjpakeKeyExchange,
    cryptoCleanup_congr hp, cryptoOperation_congr hp]

theorem ecdhKeyExchange_congr (hp : p₁.AgreeExceptBlock p₂) :
    ecdhKeyExchange cfg { env with crypto := p₁ } m cs =
      ecdhKeyExchange cfg { env with crypto := p₂ } m cs := by
  unfold ecdhKeyExchange
  rw [cryptoInit_congr hp, cryptoCleanup_congr hp]
  simp -zeta (disch := simp only [Opcode.IsRsaDecrypt, not_false_eq_true]) only
    [cryptoOperation_congr hp]
  rfl

/-- The key exchanges without RSA do not decrypt, so both runs are one. -/
theorem keyExchange_congr (hp : p₁.AgreeExceptBlock p₂)
    (hbr : keyExchangeBranch cfg cs ≠ .certificate) (fuel₁ fuel₂ : Nat) :
    keyExchange cfg { env with crypto := p₁ } fuel₁ m cs =
      keyExchange cfg { env with crypto := p₂ } fuel₂ m cs := by
  unfold keyExchange
  split
  · exact ecjpakeKeyExchange_congr hp
  · rfl
  · exact ecdhKeyExchange_congr hp
  · exact absurd ‹_› hbr

end Congr

-- ════════════════════════════════════════════════════════════════════════
-- The RSA decryption, run against run
-- ════════════════════════════════════════════════════════════════════════

section Decrypt

variable {env : Env} {p₁ p₂ : CryptoProvider} {cfg : Config} {m : Message} {cs : CiphersuiteInfo}
  {method : NxCryptoMethod} {cert : X509Cert} {length : Nat}

/-- **The decryption is where the runs part**: from the same state, both return the same status,
or both fall through, with states alike off the block. -/
theorem decrypt_rel (hp : p₁.AgreeExceptBlock p₂) {area : MetadataArea} {req : Request}
    (hop : req.op.IsRsaDecrypt) :
    RelTriple (· = ·) (cryptoOperation { env with crypto := p₁ } method area req .scratch)
      (cryptoOperation { env with crypto := p₂ } method area req .scratch)
      (fun _ _ => AgreeOffBlock) (fun _ => ReturnAlike cfg) := by
  rintro s _ rfl
  have hst := hp.status method req (s.outputBuffer .scratch) Output.scratch.length
    (s.metadata area)
  have hagree : AgreeOffBlock (s.afterOperation { env with crypto := p₁ } method area req .scratch)
      (s.afterOperation { env with crypto := p₂ } method area req .scratch) := by
    simp only [AgreeOffBlock, State.afterOperation, State.operationReturn, State.clearScratch_log,
      State.clearScratch_setMetadata, State.clearScratch_storeOutput_scratch, hst, hp.metadata]
  simp only [cryptoOperation, State.operationReturn, hst]
  split_ifs with ho hc
  · refine ⟨rfl, hagree, fun _ hno => absurd hno ?_⟩
    rw [State.afterOperation_trace]
    simpa only [State.operationReturn, hst] using not_noFailedDecrypt (t := s.trace) hop hc
  · exact hagree
  · trivial

/-- The cleanup reads the metadata only, and its error path clears the buffer under
`NX_SECURE_KEY_CLEAR`. -/
theorem cleanup_rel (hp : p₁.AgreeExceptBlock p₂) {area : MetadataArea} :
    RelTriple AgreeOffBlock
      (cryptoCleanup { env with crypto := p₁ } method area
        fun s => if cfg.keyClear then s.clearScratch else s)
      (cryptoCleanup { env with crypto := p₂ } method area
        fun s => if cfg.keyClear then s.clearScratch else s)
      (fun _ _ => AgreeOffBlock) (fun _ => ReturnAlike cfg) := by
  rw [cryptoCleanup_congr hp]
  intro s s' (h : s.clearScratch = s'.clearScratch)
  have hr : s.cleanupReturn { env with crypto := p₂ } method area =
      s'.cleanupReturn { env with crypto := p₂ } method area := by
    rw [← State.clearScratch_cleanupReturn, h, State.clearScratch_cleanupReturn]
  have hagree : AgreeOffBlock (s.afterCleanup { env with crypto := p₂ } method area)
      (s'.afterCleanup { env with crypto := p₂ } method area) := by
    simp only [AgreeOffBlock, State.afterCleanup, State.clearScratch_log,
      State.clearScratch_setMetadata, hr, h]
  simp only [cryptoCleanup, hr]
  split_ifs with hc hs hk
  · refine ⟨rfl, by simpa only [AgreeOffBlock, hk, if_true, State.clearScratch_clearScratch],
      fun _ _ => ?_⟩
    simpa only [hk, if_true] using congrArg State.globals hagree
  · exact ⟨rfl, by simpa only [AgreeOffBlock, hk] using hagree, fun h => absurd h hk⟩
  · exact hagree
  · exact h

theorem userKeyDecrypt_rel (hp : p₁.AgreeExceptBlock p₂) :
    RelTriple (· = ·) (userKeyDecrypt { env with crypto := p₁ } m method cert length)
      (userKeyDecrypt { env with crypto := p₂ } m method cert length)
      (fun _ _ => AgreeOffBlock) (fun _ => ReturnAlike cfg) := by
  unfold userKeyDecrypt
  refine .bind_same (fun _ => ReturnAlike.refl cfg) fun _ => ?_
  exact (decrypt_rel hp (by exact trivial)).bind fun _ _ => .pure fun _ _ => id

theorem parsedKeyDecrypt_rel (hp : p₁.AgreeExceptBlock p₂) :
    RelTriple (· = ·) (parsedKeyDecrypt cfg { env with crypto := p₁ } m method cert length)
      (parsedKeyDecrypt cfg { env with crypto := p₂ } m method cert length)
      (fun _ _ => AgreeOffBlock) (fun _ => ReturnAlike cfg) := by
  unfold parsedKeyDecrypt
  rw [cryptoInit_congr hp]
  refine .bind_same (fun _ => ReturnAlike.refl cfg) fun _ => .ite (fun _ => ?_) fun _ =>
    (cleanup_rel hp).conseq (fun _ _ h => h ▸ AgreeOffBlock.refl _) (fun _ _ _ _ => id)
      fun _ _ _ => id
  rw [setRsaPrimes_congr hp]
  refine .bind_same (fun _ => ReturnAlike.refl cfg) fun _ =>
    .bind_same (fun _ => ReturnAlike.refl cfg) fun _ => ?_
  exact (decrypt_rel hp (by exact trivial)).bind fun _ _ => cleanup_rel hp

/-- **The RSA decryption under two providers that differ in the block only**: both runs return
the same status, or both fall through with the same length, in states alike off the block. -/
theorem rsaDecryptPreMaster_rel (hp : p₁.AgreeExceptBlock p₂) :
    RelTriple (· = ·) (rsaDecryptPreMaster cfg { env with crypto := p₁ } m cs)
      (rsaDecryptPreMaster cfg { env with crypto := p₂ } m cs)
      (fun a b s s' => a = b ∧ AgreeOffBlock s s') (fun _ => ReturnAlike cfg) := by
  unfold rsaDecryptPreMaster nullCiphersuiteCopy
  simp only [pure_bind, exit_bind]
  have hexit : ∀ {status : TlsStatus}, RelTriple (· = ·) (exit status : Code Nat) (exit status)
      (fun a b s s' => a = b ∧ AgreeOffBlock s s') (fun _ => ReturnAlike cfg) :=
    .exit fun s _ h => h ▸ ReturnAlike.refl cfg s
  refine .bind_same (fun _ => ReturnAlike.refl cfg) fun _ => .ite (fun _ => hexit) fun _ => ?_
  refine .bind_same (fun _ => ReturnAlike.refl cfg) fun length => ?_
  refine .bind_same (fun _ => ReturnAlike.refl cfg) fun _ =>
    .bind_same (fun _ => ReturnAlike.refl cfg) fun cert => ?_
  refine .ite (fun _ => .ite (fun _ => ?_) fun _ => ?_) fun _ => hexit
  · exact (userKeyDecrypt_rel hp).bind fun _ _ => .pure fun _ _ h => ⟨rfl, h⟩
  · exact (parsedKeyDecrypt_rel hp).bind fun _ _ => .pure fun _ _ h => ⟨rfl, h⟩

end Decrypt

-- ════════════════════════════════════════════════════════════════════════
-- The padding check and the exit
-- ════════════════════════════════════════════════════════════════════════

section Exit

variable {cfg : Config}

/-- The padding check writes the pre-master secret bytes only, whichever way it goes. -/
theorem checkPadding_frame {env : Env} {fuel length : Nat} {s s' : State} {u : Unit}
    (h : checkPadding env fuel length s = .next u s') :
    s'.session.withoutPreMasterSecret = s.session.withoutPreMasterSecret ∧
      s'.globals.clientPaddedPreMaster = s.globals.clientPaddedPreMaster := by
  rw [checkPadding_eq] at h
  dsimp only at h
  split_ifs at h
  · unfold randomPreMasterSecret at h
    split at h
    · cases h
      exact ⟨rfl, rfl⟩
    · cases h
  · cases h
    exact ⟨rfl, rfl⟩

/-- The common exit from two states alike but for the pre-master secret bytes and the block. -/
theorem commonExit_oblivious {t t' u u' : State} {status status' : TlsStatus}
    (hs : t.session.withoutPreMasterSecret = t'.session.withoutPreMasterSecret)
    (hb : t.clearScratch.globals.clientPaddedPreMaster =
      t'.clearScratch.globals.clientPaddedPreMaster)
    (h : commonExit cfg t = .ret status u) (h' : commonExit cfg t' = .ret status' u') :
    status = status' ∧ u.session.withoutPreMasterSecret = u'.session.withoutPreMasterSecret ∧
      (cfg.keyClear = true →
        u.globals.clientPaddedPreMaster = u'.globals.clientPaddedPreMaster) := by
  rw [commonExit_eq] at h h'
  cases h
  cases h'
  refine ⟨rfl, ?_, fun hk => ?_⟩
  · split_ifs <;>
      simp only [State.withoutPreMasterSecret_setClientState, State.clearScratch_session, hs]
  · simp only [hk, if_true]
    split_ifs <;> simpa only [State.setClientState_globals] using hb

/-- The certificate branch after the decryption, in both runs. -/
theorem certificateTail_oblivious {env₁ env₂ : Env} {fuel₁ fuel₂ length : Nat}
    {t₁ t₂ t₁' t₂' s₁ s₂ : State} {status₁ status₂ : TlsStatus} (hagree : AgreeOffBlock t₁ t₂)
    (hc₁ : checkPadding env₁ fuel₁ length t₁ = .next () t₁')
    (hc₂ : checkPadding env₂ fuel₂ length t₂ = .next () t₂')
    (h₁ : commonExit cfg (t₁'.setPreMasterSecretSize tlsRsaPremasterSize) = .ret status₁ s₁)
    (h₂ : commonExit cfg (t₂'.setPreMasterSecretSize tlsRsaPremasterSize) = .ret status₂ s₂) :
    status₁ = status₂ ∧ s₁.session.withoutPreMasterSecret = s₂.session.withoutPreMasterSecret ∧
      (cfg.keyClear = true →
        s₁.globals.clientPaddedPreMaster = s₂.globals.clientPaddedPreMaster) := by
  obtain ⟨hs₁, hb₁⟩ := checkPadding_frame hc₁
  obtain ⟨hs₂, hb₂⟩ := checkPadding_frame hc₂
  refine commonExit_oblivious (State.withoutPreMasterSecret_setPreMasterSecretSize _ ?_) ?_ h₁ h₂
  · rw [hs₁, hs₂, hagree.session]
  · calc (t₁'.setPreMasterSecretSize _).clearScratch.globals.clientPaddedPreMaster
        = t₁.clearScratch.globals.clientPaddedPreMaster :=
          State.clearScratch_clientPaddedPreMaster hb₁
      _ = t₂.clearScratch.globals.clientPaddedPreMaster := by
          rw [show t₁.clearScratch = _ from hagree]
      _ = (t₂'.setPreMasterSecretSize _).clearScratch.globals.clientPaddedPreMaster :=
        (State.clearScratch_clientPaddedPreMaster hb₂).symm

end Exit

-- ════════════════════════════════════════════════════════════════════════
-- The whole call
-- ════════════════════════════════════════════════════════════════════════

section Call

variable {env : Env} {p₁ p₂ : CryptoProvider} {cfg : Config} {m : Message} {cs : CiphersuiteInfo}

theorem tlsProcessClientKeyExchange_congr (hp : p₁.AgreeExceptBlock p₂) {s : State}
    (hcs : s.session.sessionCiphersuite = some cs) (hbr : keyExchangeBranch cfg cs ≠ .certificate)
    (fuel₁ fuel₂ : Nat) :
    tlsProcessClientKeyExchange cfg { env with crypto := p₁ } fuel₁ m s =
      tlsProcessClientKeyExchange cfg { env with crypto := p₂ } fuel₂ m s := by
  simp only [tlsProcessClientKeyExchange, bind_apply, Code.get, ofOption, hcs,
    keyExchange_congr hp hbr fuel₁ fuel₂]

/-- The certificate branch, run against run: the decryptions end alike, and so do the rest. -/
theorem certificate_oblivious (hp : p₁.AgreeExceptBlock p₂) {s₀ s₁ s₂ : State}
    {fuel₁ fuel₂ : Nat} {status₁ status₂ : TlsStatus}
    (hcs : s₀.session.sessionCiphersuite = some cs) (hbr : keyExchangeBranch cfg cs = .certificate)
    (h₁ : tlsProcessClientKeyExchange cfg { env with crypto := p₁ } fuel₁ m s₀ = .ret status₁ s₁)
    (h₂ : tlsProcessClientKeyExchange cfg { env with crypto := p₂ } fuel₂ m s₀ = .ret status₂ s₂) :
    status₁ = status₂ ∧ s₁.session.withoutPreMasterSecret = s₂.session.withoutPreMasterSecret ∧
      (cfg.keyClear = true → NoFailedDecrypt s₁.trace →
        s₁.globals.clientPaddedPreMaster = s₂.globals.clientPaddedPreMaster) := by
  have hrel : Post₂ (fun a b s s' => a = b ∧ AgreeOffBlock s s') (fun _ => ReturnAlike cfg)
      (rsaDecryptPreMaster cfg { env with crypto := p₁ } m cs s₀)
      (rsaDecryptPreMaster cfg { env with crypto := p₂ } m cs s₀) :=
    rsaDecryptPreMaster_rel hp _ _ rfl
  cases hD₁ : rsaDecryptPreMaster cfg { env with crypto := p₁ } m cs s₀ <;>
    cases hD₂ : rsaDecryptPreMaster cfg { env with crypto := p₂ } m cs s₀ <;>
    simp only [hD₁, hD₂, Post₂] at hrel
  case next.next length t₁ _ t₂ =>
    obtain ⟨rfl, hagree⟩ := hrel
    obtain ⟨t₁', hc₁, he₁⟩ := (certificate_ret_iff hcs hbr hD₁).1 h₁
    obtain ⟨t₂', hc₂, he₂⟩ := (certificate_ret_iff hcs hbr hD₂).1 h₂
    obtain ⟨hst, hs, hb⟩ := certificateTail_oblivious hagree hc₁ hc₂ he₁ he₂
    exact ⟨hst, hs, fun hk _ => hb hk⟩
  case ret.ret status t₁ _ t₂ =>
    obtain ⟨rfl, hagree, hkey⟩ := hrel
    rw [tlsProcessClientKeyExchange_certificate hcs hbr, hD₁] at h₁
    rw [tlsProcessClientKeyExchange_certificate hcs hbr, hD₂] at h₂
    cases h₁
    cases h₂
    exact ⟨rfl, congrArg Session.withoutPreMasterSecret hagree.session,
      fun hk hd => congrArg Globals.clientPaddedPreMaster (hkey hk hd)⟩
  case stuck.stuck =>
    rw [tlsProcessClientKeyExchange_certificate hcs hbr, hD₁] at h₁
    cases h₁

/-- Any two returns of the two calls, whatever fuel each was given, return the same status and
leave the same session but for the pre-master secret bytes; with `NX_SECURE_KEY_CLEAR`, the same
scratch buffer too, unless a decryption failed. -/
theorem returns_agree (hp : p₁.AgreeExceptBlock p₂) {session : Session}
    {globals : Globals} {status₁ status₂ : TlsStatus} {s₁ s₂ : State}
    (h₁ : Returns cfg { env with crypto := p₁ } m session globals status₁ s₁)
    (h₂ : Returns cfg { env with crypto := p₂ } m session globals status₂ s₂) :
    status₁ = status₂ ∧ s₁.session.withoutPreMasterSecret = s₂.session.withoutPreMasterSecret ∧
      (cfg.keyClear = true → NoFailedDecrypt s₁.trace →
        s₁.globals.clientPaddedPreMaster = s₂.globals.clientPaddedPreMaster) := by
  obtain ⟨fuel₁, h₁⟩ := h₁
  obtain ⟨fuel₂, h₂⟩ := h₂
  cases hcs : session.sessionCiphersuite with
  | none =>
    rw [tlsProcessClientKeyExchange_none hcs] at h₁ h₂
    cases h₁
    cases h₂
    exact ⟨rfl, rfl, fun _ _ => rfl⟩
  | some cs =>
    by_cases hbr : keyExchangeBranch cfg cs = .certificate
    · exact certificate_oblivious hp hcs hbr h₁ h₂
    · rw [tlsProcessClientKeyExchange_congr hp hcs hbr fuel₁ fuel₂, h₂] at h₁
      cases h₁
      exact ⟨rfl, rfl, fun _ _ => rfl⟩

/-- The certificate branch under the second provider returns whenever it does under the first,
with the same status: enough fuel ends its padding check, whichever way the check goes. -/
theorem certificate_returns_oblivious (hp : p₁.AgreeExceptBlock p₂)
    (hrand : NonzeroRecurs env.nxRand) {s₀ s₁ : State} {fuel₁ : Nat} {status : TlsStatus}
    (hcs : s₀.session.sessionCiphersuite = some cs) (hbr : keyExchangeBranch cfg cs = .certificate)
    (h₁ : tlsProcessClientKeyExchange cfg { env with crypto := p₁ } fuel₁ m s₀ = .ret status s₁) :
    ∃ fuel₂ s₂, tlsProcessClientKeyExchange cfg { env with crypto := p₂ } fuel₂ m s₀ =
      .ret status s₂ := by
  have hrel : Post₂ (fun a b s s' => a = b ∧ AgreeOffBlock s s') (fun _ => ReturnAlike cfg)
      (rsaDecryptPreMaster cfg { env with crypto := p₁ } m cs s₀)
      (rsaDecryptPreMaster cfg { env with crypto := p₂ } m cs s₀) :=
    rsaDecryptPreMaster_rel hp _ _ rfl
  cases hD₁ : rsaDecryptPreMaster cfg { env with crypto := p₁ } m cs s₀ <;>
    cases hD₂ : rsaDecryptPreMaster cfg { env with crypto := p₂ } m cs s₀ <;>
    simp only [hD₁, hD₂, Post₂] at hrel
  case next.next length t₁ _ t₂ =>
    obtain ⟨rfl, hagree⟩ := hrel
    obtain ⟨t₁', hc₁, he₁⟩ := (certificate_ret_iff hcs hbr hD₁).1 h₁
    obtain ⟨fuel₂, t₂', hc₂⟩ : ∃ fuel₂ t₂', checkPadding { env with crypto := p₂ } fuel₂ length t₂ =
        .next () t₂' := checkPadding_exists hrand
    have he₂ : commonExit cfg (t₂'.setPreMasterSecretSize tlsRsaPremasterSize) = _ := commonExit_eq
    obtain ⟨rfl, -⟩ := certificateTail_oblivious hagree hc₁ hc₂ he₁ he₂
    exact ⟨fuel₂, _, (certificate_ret_iff hcs hbr hD₂).2 ⟨t₂', hc₂, he₂⟩⟩
  case ret.ret status' t₁ _ t₂ =>
    obtain ⟨rfl, -⟩ := hrel
    rw [tlsProcessClientKeyExchange_certificate hcs hbr, hD₁] at h₁
    cases h₁
    exact ⟨0, t₂, by rw [tlsProcessClientKeyExchange_certificate hcs hbr, hD₂]⟩
  case stuck.stuck =>
    rw [tlsProcessClientKeyExchange_certificate hcs hbr, hD₁] at h₁
    cases h₁

/-- **If one call returns, so does the other.** Under a random source whose nonzero low bytes
recur, the call under the second provider returns whenever the call under the first does, with
the same status. -/
theorem returns_oblivious (hp : p₁.AgreeExceptBlock p₂) (hrand : NonzeroRecurs env.nxRand)
    {session : Session} {globals : Globals} {status : TlsStatus} {s₁ : State}
    (h₁ : Returns cfg { env with crypto := p₁ } m session globals status s₁) :
    ∃ s₂, Returns cfg { env with crypto := p₂ } m session globals status s₂ := by
  obtain ⟨fuel₁, h₁⟩ := h₁
  cases hcs : session.sessionCiphersuite with
  | none => exact ⟨s₁, fuel₁, by rwa [tlsProcessClientKeyExchange_none hcs] at h₁ ⊢⟩
  | some cs =>
    by_cases hbr : keyExchangeBranch cfg cs = .certificate
    · obtain ⟨fuel₂, s₂, h₂⟩ := certificate_returns_oblivious hp hrand hcs hbr h₁
      exact ⟨s₂, fuel₂, h₂⟩
    · exact ⟨s₁, fuel₁, (tlsProcessClientKeyExchange_congr hp hcs hbr fuel₁ fuel₁).symm.trans h₁⟩

/-- **The call does not reveal the decrypted block.** Take two crypto providers that answer alike
except for the block their decryption writes, a random source whose nonzero low bytes recur, and a
suite whose methods the call reaches without testing have an `nx_crypto_operation`. Both calls
then return, with the same status; and any two of their returns leave the same session, client
state and pre-master secret size included; only the pre-master secret bytes may differ. With
`NX_SECURE_KEY_CLEAR` the scratch buffer is the same too, unless a decryption failed. -/
theorem decrypted_block_oblivious (hp : p₁.AgreeExceptBlock p₂) {session : Session}
    {globals : Globals} (hcs : session.sessionCiphersuite = some cs)
    (hrand : NonzeroRecurs env.nxRand)
    (hauth : keyExchangeBranch cfg cs = .ecjpake → cs.publicAuth.nxCryptoOperation = true)
    (hcipher : keyExchangeBranch cfg cs = .certificate → cs.publicCipher.nxCryptoOperation = true) :
    (∃ status s₁ s₂, Returns cfg { env with crypto := p₁ } m session globals status s₁ ∧
        Returns cfg { env with crypto := p₂ } m session globals status s₂) ∧
      ∀ status₁ status₂ s₁ s₂, Returns cfg { env with crypto := p₁ } m session globals status₁ s₁ →
        Returns cfg { env with crypto := p₂ } m session globals status₂ s₂ →
        status₁ = status₂ ∧ s₁.session.withoutPreMasterSecret = s₂.session.withoutPreMasterSecret ∧
        (cfg.keyClear = true → NoFailedDecrypt s₁.trace →
          s₁.globals.clientPaddedPreMaster = s₂.globals.clientPaddedPreMaster) := by
  obtain ⟨status, s₁, h₁⟩ : ∃ status s₁,
      Returns cfg { env with crypto := p₁ } m session globals status s₁ :=
    call_returns hcs hrand hauth hcipher
  obtain ⟨s₂, h₂⟩ := returns_oblivious hp hrand h₁
  exact ⟨⟨status, s₁, s₂, h₁, h₂⟩, fun _ _ _ _ => returns_agree hp⟩

end Call

-- ════════════════════════════════════════════════════════════════════════
-- Concrete runs
-- ════════════════════════════════════════════════════════════════════════

/-- A provider whose every call answers `status`, and whose decryptions write `block`. -/
def blockProvider (status : UInt32) (block : Nat → UInt8) : CryptoProvider :=
  scriptedProvider fun op => (status, if op.IsRsaDecrypt then some block else none)

theorem blockProvider_agreeExceptBlock (status : UInt32) (b₁ b₂ : Nat → UInt8) :
    (blockProvider status b₁).AgreeExceptBlock (blockProvider status b₂) :=
  ⟨rfl, rfl, fun _ _ _ _ _ hop => by simp [blockProvider, scriptedProvider, hop],
    fun _ _ _ _ _ => rfl, fun _ _ _ _ _ => rfl⟩

/-- A block that passes the padding check against a block that fails it, under a random source
that always answers `1`: both calls succeed with the same session but for the pre-master secret,
and a clear buffer. -/
theorem decrypted_block_oblivious_padding :
    ∃ s₁ s₂,
      Returns serverBuild { scriptedEnv fun _ => (0, none) with
          crypto := blockProvider 0 fun i => if i = 1 then 2 else 0 }
        shortCiphertext userKeySession startGlobals .success s₁ ∧
      Returns serverBuild
          { scriptedEnv fun _ => (0, none) with crypto := blockProvider 0 fun _ => 0 }
        shortCiphertext userKeySession startGlobals .success s₂ ∧
      s₁.session.withoutPreMasterSecret = s₂.session.withoutPreMasterSecret ∧
      s₁.globals.clientPaddedPreMaster = s₂.globals.clientPaddedPreMaster := by
  obtain ⟨s₁, h₁, hd⟩ : ∃ s₁, tlsProcessClientKeyExchange serverBuild
      { scriptedEnv fun _ => (0, none) with
        crypto := blockProvider 0 fun i => if i = 1 then 2 else 0 }
      0 shortCiphertext ⟨userKeySession, startGlobals, []⟩ = .ret .success s₁ ∧
      NoFailedDecrypt s₁.trace := ⟨_, rfl, by decide⟩
  obtain ⟨s₂, h₂⟩ : ∃ s₂, tlsProcessClientKeyExchange serverBuild
      { scriptedEnv fun _ => (0, none) with crypto := blockProvider 0 fun _ => 0 }
      1 shortCiphertext ⟨userKeySession, startGlobals, []⟩ = .ret .success s₂ := ⟨_, rfl⟩
  have h := (decrypted_block_oblivious (blockProvider_agreeExceptBlock 0 _ _) rfl
    (fun p => ⟨p, Nat.le_refl p, show (1 : UInt32).toUInt8 ≠ 0 by decide⟩)
    (fun h => absurd h (by decide)) fun _ => rfl).2 _ _ _ _ ⟨0, h₁⟩ ⟨1, h₂⟩
  exact ⟨s₁, s₂, ⟨0, h₁⟩, ⟨1, h₂⟩, h.2.1, h.2.2 rfl hd⟩

/-- **A failed decryption leaves its block behind.** Two providers that answer alike except for
the block, both failing the decryption with status `1`, one after writing a block that passes the
padding check and one after writing an all-zero block: the calls return the same status with
different scratch buffers, although `NX_SECURE_KEY_CLEAR` is defined. -/
theorem failed_decrypt_reveals_block :
    ∃ s₁ s₂,
      (blockProvider 1 fun i => if i = 1 then 2 else 0).AgreeExceptBlock
        (blockProvider 1 fun _ => 0) ∧
      Returns serverBuild { scriptedEnv fun _ => (0, none) with
          crypto := blockProvider 1 fun i => if i = 1 then 2 else 0 }
        shortCiphertext userKeySession startGlobals (.propagated 1) s₁ ∧
      Returns serverBuild
          { scriptedEnv fun _ => (0, none) with crypto := blockProvider 1 fun _ => 0 }
        shortCiphertext userKeySession startGlobals (.propagated 1) s₂ ∧
      serverBuild.keyClear = true ∧
      s₁.globals.clientPaddedPreMaster 1 ≠ s₂.globals.clientPaddedPreMaster 1 :=
  ⟨_, _, blockProvider_agreeExceptBlock 1 _ _, ⟨0, rfl⟩, ⟨0, rfl⟩, rfl, by decide⟩

end NxSecure
