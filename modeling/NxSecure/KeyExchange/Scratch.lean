import NxSecure.KeyExchange.Reads

/-!
# The scratch buffer `_nx_secure_client_padded_pre_master`

The RSA branch decrypts the pre-master secret into a static 600-byte buffer that every call
shares. With `NX_SECURE_KEY_CLEAR` the common exit (line 551) and the failed cleanup of a parsed
key (line 499) clear it; the two failed decryptions (lines 395 and 486) return without clearing
it, with whatever the provider wrote. And the padding check reads the buffer whether or not a
decryption wrote it: a method without `nx_crypto_operation` skips the decryption (line 419).

## Main results

- `scratch_clear_across_calls` — with `NX_SECURE_KEY_CLEAR`, the buffer is zero after every call
  of a run from start-up in which no decryption failed
- `failed_decrypt_leaves_scratch` — a failed decryption returns with its output in the buffer
- `stale_scratch_becomes_premaster` — with no `nx_crypto_operation`, what an earlier call left in
  the buffer becomes the pre-master secret
-/

namespace NxSecure

open Code

/-- `_nx_secure_client_padded_pre_master` is all zero. -/
def ScratchClear (g : Globals) : Prop :=
  ∀ i : Int, 0 ≤ i → i < paddedPreMasterSize → g.clientPaddedPreMaster i = 0

/-- A decryption into the scratch buffer that failed. -/
def Event.IsFailedDecrypt : Event → Prop
  | .cryptoOperation op c => op.IsRsaDecrypt ∧ c ≠ 0
  | _ => False

instance : DecidablePred Event.IsFailedDecrypt
  | .cryptoOperation op c => inferInstanceAs (Decidable (op.IsRsaDecrypt ∧ c ≠ 0))
  | .packetRead _ _ | .scratchRead _ _ | .cryptoInit _ | .cryptoCleanup _ _ =>
    inferInstanceAs (Decidable False)

/-- No decryption into the scratch buffer failed. -/
def NoFailedDecrypt (t : List Event) : Prop := ∀ e ∈ t, ¬ e.IsFailedDecrypt

instance (t : List Event) : Decidable (NoFailedDecrypt t) :=
  inferInstanceAs (Decidable (∀ e ∈ t, _))

theorem scratchClear_clearScratch (s : State) : ScratchClear s.clearScratch.globals := by
  intro i h0 hi
  simp [State.clearScratch, h0, hi]

theorem not_noFailedDecrypt {t : List Event} {op : Opcode} {c : UInt32} (hop : op.IsRsaDecrypt)
    (hc : c ≠ 0) : ¬ NoFailedDecrypt (t ++ [.cryptoOperation op c]) :=
  fun h => h (.cryptoOperation op c) (by simp) ⟨hop, hc⟩

variable {cfg : Config} {env : Env} {fuel : Nat} {m : Message} {cs : CiphersuiteInfo}
  {method : NxCryptoMethod}

/-- What a return owes to the scratch buffer: to be clear, unless a decryption failed. -/
def ScratchOwed (s : State) : Prop := NoFailedDecrypt s.trace → ScratchClear s.globals

-- ════════════════════════════════════════════════════════════════════════
-- The branches
-- ════════════════════════════════════════════════════════════════════════

/-- A decryption that fails owes nothing to the scratch buffer. -/
theorem decrypt_scratchOwed {P : State → Prop} {area : MetadataArea} {req : Request}
    {out : Output} (hop : req.op.IsRsaDecrypt) :
    Triple P (cryptoOperation env method area req out) (fun _ _ => True)
      (fun _ s => ScratchOwed s) := by
  intro s _
  rw [wp_cryptoOperation]
  exact fun _ =>
    ⟨fun hc hno => absurd hno (by simpa using not_noFailedDecrypt hop hc), fun _ => trivial⟩

/-- The key exchanges without RSA never write the scratch buffer. -/
theorem ecjpakeKeyExchange_scratch :
    Triple (ScratchClear ·.globals) (ecjpakeKeyExchange env m cs) (fun _ _ => True)
      (fun _ s => ScratchOwed s) := by
  unfold ecjpakeKeyExchange
  refine .conseq (Q := fun _ s => ScratchClear s.globals) ?_ (fun _ => id) (fun _ _ _ => trivial)
    fun _ _ h _ => h
  refine .bind (.modify_keep fun s h => by simpa using h) fun _ => ?_
  refine .bind .get_keep fun _ => ?_
  refine .bind (.modify_keep fun s h => by simpa using h) fun _ => ?_
  refine .bind (.cryptoOperation_keepState (fun s h => by
    rwa [State.afterOperation_globals (by simp)]) fun _ _ => id) fun _ => ?_
  exact .cryptoCleanup_keepState (fun s h => by simpa using h) fun _ _ => id

theorem pskKeyExchange_scratch :
    Triple (ScratchClear ·.globals) (pskKeyExchange env m) (fun _ _ => True)
      (fun _ s => ScratchOwed s) := by
  unfold pskKeyExchange
  refine .bind .get_keep fun _ => ?_
  refine .bind (.modify_keep fun s h => by simpa using h) fun _ => ?_
  exact .ite (fun _ => .exit fun _ h _ => h) fun _ => .pure fun _ _ => trivial

theorem ecdhKeyExchange_scratch :
    Triple (ScratchClear ·.globals) (ecdhKeyExchange cfg env m cs) (fun _ _ => True)
      (fun _ s => ScratchOwed s) := by
  unfold ecdhKeyExchange
  simp only [pure_bind, exit_bind]
  refine .conseq (Q := fun _ s => ScratchClear s.globals) (E := fun _ s => ScratchClear s.globals)
    ?_ (fun _ => id) (fun _ _ _ => trivial) fun _ _ h _ => h
  have hop : ∀ {req out}, out ≠ .scratch → Triple (ScratchClear ·.globals)
      (cryptoOperation env cs.publicCipher .publicCipher req out)
      (fun _ s => ScratchClear s.globals) (fun _ s => ScratchClear s.globals) := fun hout =>
    .cryptoOperation_keepState (fun s h => by rwa [State.afterOperation_globals hout]) fun _ _ => id
  refine .bind (.modify_keep fun s h => by simpa using h) fun _ => ?_
  refine .ite (fun _ => .exit fun _ => id) fun _ => ?_
  refine .bind (ecdhPrivateKey_readOnly fun _ _ => id) fun key => ?_
  refine .bind (.ofOption_keep fun _ => id) fun curve => ?_
  refine .ite (fun _ => .exit fun _ => id) fun _ => ?_
  refine .bind (.cryptoInit_keepState (fun s h => by simpa using h) fun _ _ => id) fun hd => ?_
  refine .bind (hop (by simp)) fun _ => .bind (hop (by simp)) fun _ => ?_
  refine .bind (.modify_keep fun s h => by simpa using h) fun _ => ?_
  refine .bind (hop (by simp)) fun _ => ?_
  refine .bind (.modify_keep fun s h => by simpa using h) fun _ => ?_
  exact .cryptoCleanup_keepState (fun s h => by simpa using h) fun _ _ => id

theorem userKeyDecrypt_scratch {cert : X509Cert} {length : Nat} :
    Triple (ScratchClear ·.globals) (userKeyDecrypt env m method cert length) (fun _ _ => True)
      (fun _ s => ScratchOwed s) := by
  unfold userKeyDecrypt
  refine .bind (.modify_keep fun s h => by simpa using h) fun _ => ?_
  exact .bind (decrypt_scratchOwed trivial) fun _ => .pure fun _ _ => trivial

/-- A failed cleanup of a parsed key clears the buffer. -/
theorem parsedKeyDecrypt_scratch {cert : X509Cert} {length : Nat} (hk : cfg.keyClear = true) :
    Triple (ScratchClear ·.globals) (parsedKeyDecrypt cfg env m method cert length)
      (fun _ _ => True) (fun _ s => ScratchOwed s) := by
  unfold parsedKeyDecrypt
  simp only [pure_bind, hk, if_true]
  have hcleanup : Triple (fun _ => True) (cryptoCleanup env method .publicCipher State.clearScratch)
      (fun _ _ => True) (fun _ s => ScratchOwed s) := by
    intro s _
    rw [wp_cryptoCleanup]
    exact ⟨fun _ => ⟨fun _ _ => scratchClear_clearScratch _, fun _ => trivial⟩, fun _ => trivial⟩
  refine .bind (.cryptoInit_keepState (fun s h => by simpa using h) fun _ _ h _ => h) fun hd => ?_
  refine .ite (fun _ => ?_) fun _ => hcleanup.conseq (fun _ _ => trivial) (fun _ _ => id)
    fun _ _ => id
  refine .bind (setRsaPrimes_keepState (fun s _ h => by
    rwa [State.afterOperation_globals (by simp)]) fun _ _ h _ => h) fun _ => ?_
  refine .bind (.modify_keep fun s h => by simpa using h) fun _ => ?_
  exact .bind (decrypt_scratchOwed trivial) fun _ => hcleanup

theorem rsaDecryptPreMaster_scratch (hk : cfg.keyClear = true) :
    Triple (ScratchClear ·.globals) (rsaDecryptPreMaster cfg env m cs) (fun _ _ => True)
      (fun _ s => ScratchOwed s) := by
  unfold rsaDecryptPreMaster nullCiphersuiteCopy
  simp only [pure_bind, exit_bind]
  refine .bind (.modify_keep fun s h => by simpa using h) fun _ => ?_
  refine .ite (fun _ => .exit fun _ h _ => h) fun _ => ?_
  refine .bind (R := fun _ s => ScratchClear s.globals)
    (.ite (fun _ => ?_) fun _ => .pure fun _ => id) fun length => ?_
  · exact .bind (.modify_keep fun s h => by simpa using h) fun _ => .pure fun _ => id
  refine .bind .get_keep fun _ => ?_
  refine .bind (.ofOption_keep fun _ h _ => h) fun cert => ?_
  refine .ite (fun _ => .ite (fun _ => ?_) fun _ => ?_) fun _ => .exit fun _ h _ => h
  · exact .bind userKeyDecrypt_scratch fun _ => .pure fun _ _ => trivial
  · exact .bind (parsedKeyDecrypt_scratch hk) fun _ => .pure fun _ _ => trivial

theorem keyExchange_scratch (hk : cfg.keyClear = true) :
    Triple (ScratchClear ·.globals) (keyExchange cfg env fuel m cs) (fun _ _ => True)
      (fun _ s => ScratchOwed s) := by
  unfold keyExchange
  split
  · exact ecjpakeKeyExchange_scratch
  · exact pskKeyExchange_scratch
  · exact ecdhKeyExchange_scratch
  · unfold certificateKeyExchange
    exact .bind (rsaDecryptPreMaster_scratch hk) fun _ =>
      .bind checkPadding_falls_through fun _ => .modify fun _ _ => trivial

/-- With `NX_SECURE_KEY_CLEAR`, a call on a clear buffer returns with a clear buffer, unless a
decryption failed. -/
theorem scratchClear_after_call {session : Session} {globals : Globals} {status : TlsStatus}
    {s : State} (hk : cfg.keyClear = true) (hg : ScratchClear globals)
    (h : Returns cfg env m session globals status s) (hd : NoFailedDecrypt s.trace) :
    ScratchClear s.globals := by
  obtain ⟨fuel, hrun⟩ := h
  cases hcs : session.sessionCiphersuite with
  | none =>
    rw [tlsProcessClientKeyExchange_none hcs] at hrun
    cases hrun
    exact hg
  | some cs =>
    refine wp_ret hrun (tlsProcessClientKeyExchange_triple (Q := fun _ _ => True)
      (keyExchange_scratch hk) ?_ _ ⟨hg, hcs⟩) hd
    intro s _
    rw [wp_commonExit]
    intro _
    simp only [hk, if_true]
    split_ifs <;> simpa using scratchClear_clearScratch s

-- ════════════════════════════════════════════════════════════════════════
-- Runs
-- ════════════════════════════════════════════════════════════════════════

/-- Successive calls that share the globals, from `g` to `g'`, each on its own session, message
and collaborators, none of which failed in a decryption. -/
inductive RunWithoutFailedDecrypt (cfg : Config) : Globals → Globals → Prop
  | nil (g : Globals) : RunWithoutFailedDecrypt cfg g g
  | call {g g' : Globals} {env : Env} {m : Message} {session : Session} {status : TlsStatus}
      {s : State} (h : Returns cfg env m session g status s) (hd : NoFailedDecrypt s.trace)
      (rest : RunWithoutFailedDecrypt cfg s.globals g') : RunWithoutFailedDecrypt cfg g g'

/-- **The scratch buffer across calls.** With `NX_SECURE_KEY_CLEAR`, from a clear buffer (as at
start-up, the array being static), the buffer is clear after every run of calls in which no
decryption failed, whatever the sessions, messages, certificates and providers. -/
theorem scratch_clear_across_calls {g g' : Globals} (hk : cfg.keyClear = true)
    (hg : ScratchClear g) (hrun : RunWithoutFailedDecrypt cfg g g') : ScratchClear g' := by
  induction hrun with
  | nil => exact hg
  | call h hd _ ih => exact ih (scratchClear_after_call hk hg h hd)

/-- One call from start-up, on a user-defined RSA key that decrypts and succeeds. -/
theorem scratch_clear_across_calls_rsa :
    ∃ s, Returns serverBuild paddedBlockEnv shortCiphertext userKeySession startGlobals .success s ∧
      ScratchClear s.globals := by
  obtain ⟨s, hrun, hd⟩ : ∃ s, tlsProcessClientKeyExchange serverBuild paddedBlockEnv 0
      shortCiphertext ⟨userKeySession, startGlobals, []⟩ = .ret .success s ∧
      NoFailedDecrypt s.trace := ⟨_, rfl, by decide⟩
  exact ⟨s, ⟨0, hrun⟩, scratch_clear_across_calls rfl (fun _ _ _ => rfl)
    (.call ⟨0, hrun⟩ hd (.nil _))⟩

/-- **A failed decryption leaves its output in the buffer.** With `NX_SECURE_KEY_CLEAR`, a
user-defined key whose decryption writes the buffer and then fails: the call returns the failure
with the written byte still in `_nx_secure_client_padded_pre_master`. -/
theorem failed_decrypt_leaves_scratch :
    ∃ s, Returns serverBuild (scriptedEnv fun _ => (1, some fun _ => 1)) shortCiphertext
      userKeySession startGlobals (.propagated 1) s ∧ serverBuild.keyClear = true ∧
      s.globals.clientPaddedPreMaster 0 = 1 :=
  ⟨_, ⟨0, rfl⟩, rfl, rfl⟩

/-- `TLS_RSA_WITH_AES_128_CBC_SHA256` over an RSA method with `nx_crypto_init` and
`nx_crypto_cleanup` but no `nx_crypto_operation`. -/
def rsaSuiteWithoutOperation : CiphersuiteInfo :=
  ⟨0x003C, ⟨.keyExchangeRsa, true, false, true⟩, fullMethod (.other 0)⟩

/-- A block left by an earlier call: `0x00 0x02`, zeros, then 48 bytes `0x05` ending at offset
60. -/
def staleBlock : Int → UInt8 := fun i => if i = 1 then 2 else if 12 ≤ i ∧ i < 60 then 5 else 0

/-- **A stale block becomes the pre-master secret.** With a parsed RSA key whose method has no
`nx_crypto_operation`, the decryption is skipped and the padding check runs on what the buffer
holds: from a buffer holding a well-padded block the pre-master secret is that block's secret,
from a zero buffer it is random; both calls succeed. -/
theorem stale_scratch_becomes_premaster :
    ∃ s₁ s₂,
      Returns serverBuild (scriptedEnv fun _ => (0, none)) ⟨fun i => if i = 1 then 60 else 0, 62, 0⟩
        (serverSession rsaSuiteWithoutOperation [rsaCertificate 0]) ⟨staleBlock, 0⟩ .success s₁ ∧
      Returns serverBuild (scriptedEnv fun _ => (0, none)) ⟨fun i => if i = 1 then 60 else 0, 62, 0⟩
        (serverSession rsaSuiteWithoutOperation [rsaCertificate 0]) startGlobals .success s₂ ∧
      s₁.session.keyMaterial.preMasterSecret 0 = 5 ∧ s₂.session.keyMaterial.preMasterSecret 0 = 1 :=
  ⟨_, _, ⟨0, rfl⟩, ⟨1, rfl⟩, rfl, rfl⟩

end NxSecure
