import NxSecure.KeyExchange.Reads

/-!
# What the message determines

`packet_reads_within_prefix` bounds the reads of the message that the trace records. The bytes
inside that bound are also all that matter: two messages of one `message_length` and one `id`
that agree on their first `message_length + w` bytes, `w` the width of the length prefix of the
branch, make `_nx_secure_tls_process_client_key_exchange` end alike, in status, state and trace.
No byte further on has any effect; the `w` bytes past the message may have one, as
`ecdh_reads_past_message` shows.

## Main definitions

- `Message.AgreeBelow` — two messages alike in length, `id` and their first `n` bytes

## Main results

- `ecdhKeyExchange_agree`, `rsaDecryptPreMaster_agree`, ... — each branch uses the message only
  below its bound
- `message_prefix_determines_call` — the whole call
-/

namespace NxSecure

open Code

/-- Two messages with the same `message_length` and `id` whose first `n` bytes agree. -/
structure Message.AgreeBelow (n : Nat) (m m' : Message) : Prop where
  messageLength : m.messageLength = m'.messageLength
  id : m.id = m'.id
  packetBuffer : ∀ i < n, m.packetBuffer i = m'.packetBuffer i

namespace Message.AgreeBelow

variable {n : Nat} {m m' : Message}

/-- A range of bytes that ends at or before the bound is the same in both messages. -/
theorem bytes (h : AgreeBelow n m m') (o l : Nat) (hl : o + l ≤ n) :
    m.bytes o l = m'.bytes o l :=
  List.map_congr_left fun i hi => h.packetBuffer _ (by simp at hi; omega)

end Message.AgreeBelow

/-- `NX_SECURE_MEMCPY` of `n` bytes reads the first `n` bytes of its source only. -/
theorem State.copyToPreMasterSecret_congr (s : State) {src src' : Nat → UInt8} {n : Nat}
    (h : ∀ i < n, src i = src' i) :
    s.copyToPreMasterSecret src n = s.copyToPreMasterSecret src' n := by
  unfold State.copyToPreMasterSecret
  congr 1
  funext i
  split_ifs with hi
  · exact h i hi
  · rfl

variable {cfg : Config} {env : Env} {fuel : Nat} {m m' : Message} {cs : CiphersuiteInfo}

-- ════════════════════════════════════════════════════════════════════════
-- The branches
-- ════════════════════════════════════════════════════════════════════════

/-- The whole message goes to the ECJ-PAKE method, and nothing after it. -/
theorem ecjpakeKeyExchange_agree (h : m.AgreeBelow m.messageLength m') :
    ecjpakeKeyExchange env m cs = ecjpakeKeyExchange env m' cs := by
  unfold ecjpakeKeyExchange
  rw [h.bytes 0 m.messageLength (by omega), h.messageLength]

/-- A PSK exchange reads no byte of the message: only its `id`. -/
theorem pskKeyExchange_agree {n : Nat} (h : m.AgreeBelow n m') :
    pskKeyExchange env m = pskKeyExchange env m' := by
  unfold pskKeyExchange
  rw [h.id]

/-- The public key of the client, once its length has passed the check against the message. -/
theorem ecdhKeyExchange_agree (h : m.AgreeBelow (m.messageLength + 1) m') :
    ecdhKeyExchange cfg env m cs = ecdhKeyExchange cfg env m' cs := by
  unfold ecdhKeyExchange
  simp only [pure_bind, exit_bind, h.packetBuffer 0 (by omega), ← h.messageLength]
  refine bind_congr fun _ => ite_congr rfl (fun _ => rfl) fun hlen => ?_
  rw [h.bytes 1 (m'.packetBuffer 0).toNat (by omega)]

/-- The NULL-suite copy never lengthens `length`. -/
theorem nullCiphersuiteCopy_le {length length' : Nat} {s s' : State}
    (h : nullCiphersuiteCopy cfg m cs length s = .next length' s') : length' ≤ length := by
  unfold nullCiphersuiteCopy at h
  split_ifs at h <;> cases h <;> omega

/-- The NULL-suite copy of a length that passed the check reads below the bound. -/
theorem nullCiphersuiteCopy_agree (h : m.AgreeBelow (m.messageLength + 2) m') (length : Nat)
    (hlen : length ≤ m.messageLength) :
    nullCiphersuiteCopy cfg m cs length = nullCiphersuiteCopy cfg m' cs length := by
  have hcopy : ∀ L ≤ length, ∀ s : State,
      s.copyToPreMasterSecret (fun i => m.packetBuffer (2 + i)) L =
        s.copyToPreMasterSecret (fun i => m'.packetBuffer (2 + i)) L :=
    fun L hL s => s.copyToPreMasterSecret_congr fun i _ => h.packetBuffer (2 + i) (by omega)
  unfold nullCiphersuiteCopy
  split_ifs with _ hgt
  · simp only [hcopy _ (Nat.le_of_lt hgt)]
  · simp only [hcopy _ (Nat.le_refl _)]
  · rfl

/-- The ciphertext handed to a user-defined key, when it ends below the bound. -/
theorem userKeyDecrypt_agree {n length : Nat} (h : m.AgreeBelow n m') (hl : 2 + length ≤ n)
    {method : NxCryptoMethod} {cert : X509Cert} :
    userKeyDecrypt env m method cert length = userKeyDecrypt env m' method cert length := by
  unfold userKeyDecrypt
  rw [h.bytes 2 length hl]

/-- The ciphertext handed to `NX_CRYPTO_DECRYPT`, when it ends below the bound. -/
theorem parsedKeyDecrypt_agree {n length : Nat} (h : m.AgreeBelow n m') (hl : 2 + length ≤ n)
    {method : NxCryptoMethod} {cert : X509Cert} :
    parsedKeyDecrypt cfg env m method cert length =
      parsedKeyDecrypt cfg env m' method cert length := by
  unfold parsedKeyDecrypt
  rw [h.bytes 2 length hl]

/-- The ciphertext, once its length has passed the check against the message; the NULL suite
copies no more than that length. -/
theorem rsaDecryptPreMaster_agree (h : m.AgreeBelow (m.messageLength + 2) m') :
    rsaDecryptPreMaster cfg env m cs = rsaDecryptPreMaster cfg env m' cs := by
  unfold rsaDecryptPreMaster
  simp only [pure_bind, exit_bind, h.packetBuffer 0 (by omega), h.packetBuffer 1 (by omega),
    ← h.messageLength]
  refine bind_congr fun _ => ite_congr rfl (fun _ => rfl) fun hlen => ?_
  rw [nullCiphersuiteCopy_agree h _ (by omega)]
  refine bind_congr_next fun _ length _ hcopy => ?_
  have hle := nullCiphersuiteCopy_le hcopy
  simp only [userKeyDecrypt_agree h (by omega : 2 + length ≤ m.messageLength + 2),
    parsedKeyDecrypt_agree h (by omega : 2 + length ≤ m.messageLength + 2)]

/-- Each branch, below the bound its length prefix sets. -/
theorem keyExchange_agree
    (h : m.AgreeBelow (m.messageLength + prefixWidth (keyExchangeBranch cfg cs)) m') :
    keyExchange cfg env fuel m cs = keyExchange cfg env fuel m' cs := by
  cases hb : keyExchangeBranch cfg cs <;> simp only [hb, prefixWidth, Nat.add_zero] at h <;>
    simp only [keyExchange, certificateKeyExchange, hb]
  · exact ecjpakeKeyExchange_agree h
  · exact pskKeyExchange_agree h
  · exact ecdhKeyExchange_agree h
  · rw [rsaDecryptPreMaster_agree h]

-- ════════════════════════════════════════════════════════════════════════
-- The whole call
-- ════════════════════════════════════════════════════════════════════════

/-- **The message past the prefix bound has no effect.** Two messages of one `message_length`
and one `id` that agree on their first `message_length + w` bytes, `w` the width of the length
prefix of the branch, make the call end alike: the same status, state and trace, or neither
returns. -/
theorem message_prefix_determines_call {s : State}
    (hcs : s.session.sessionCiphersuite = some cs)
    (h : m.AgreeBelow (m.messageLength + prefixWidth (keyExchangeBranch cfg cs)) m') :
    tlsProcessClientKeyExchange cfg env fuel m s =
      tlsProcessClientKeyExchange cfg env fuel m' s := by
  simp only [tlsProcessClientKeyExchange, bind_apply, Code.get, ofOption, hcs, keyExchange_agree h]

/-- Two one-byte ECDHE messages that differ from offset 2 on. -/
theorem message_prefix_determines_call_ecdhe :
    tlsProcessClientKeyExchange serverBuild (scriptedEnv fun _ => (0, none)) 0
        ⟨fun i => if i < 2 then 1 else 0, 1, 0⟩ ⟨serverSession ecdheSuite [], startGlobals, []⟩ =
      tlsProcessClientKeyExchange serverBuild (scriptedEnv fun _ => (0, none)) 0
        ⟨fun i => if i < 2 then 1 else 7, 1, 0⟩ ⟨serverSession ecdheSuite [], startGlobals, []⟩ :=
  message_prefix_determines_call rfl ⟨rfl, rfl, by decide⟩

end NxSecure
