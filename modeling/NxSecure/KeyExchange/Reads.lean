import NxSecure.KeyExchange.Calls

/-!
# What the key exchange reads

A branch reads a length prefix of `w` bytes at the start of the message (one for ECDH(E), two for
a certificate-based exchange, none for ECJ-PAKE and PSK), then the data the prefix announces. The
checks of lines 181 and 330 compare the announced length with the whole message, not with what
follows the prefix, so a call may read up to `w` bytes past the message, and no further. The
padding check then reads the decrypted block at an offset computed from the announced length,
which nothing keeps inside the scratch buffer.

## Main results

- `packet_reads_within_prefix` — every read of the message ends at most `w` bytes past its end
- `ecdh_reads_past_message` — an ECDHE call reads past its message, and succeeds
- `padding_check_reads_before_buffer` — a short RSA ciphertext makes the padding check read, and
  copy, memory before the scratch buffer
-/

namespace NxSecure

open Code

/-- Every read of the message that the trace records ends at or before offset `bound`. -/
def PacketReadsWithin (bound : Nat) (t : List Event) : Prop :=
  ∀ o l, Event.packetRead o l ∈ t → o + l ≤ bound

/-- How many bytes of length prefix a branch reads before the data it announces. -/
def prefixWidth : KeyExchangeBranch → Nat
  | .ecdh => 1
  | .certificate => 2
  | .ecjpake | .psk => 0

variable {b : Nat} {t : List Event}

@[simp] theorem packetReadsWithin_append (e : Event) :
    PacketReadsWithin b (t ++ [e]) ↔
      PacketReadsWithin b t ∧ ∀ o l, e = .packetRead o l → o + l ≤ b := by
  simp [PacketReadsWithin, or_imp, forall_and, eq_comm]

theorem PacketReadsWithin.read {o l : Nat} (h : PacketReadsWithin b t) (hb : o + l ≤ b) :
    PacketReadsWithin b (t ++ [.packetRead o l]) := by
  simpa using ⟨h, hb⟩

variable {cfg : Config} {env : Env} {fuel : Nat} {m : Message} {cs : CiphersuiteInfo}

-- ════════════════════════════════════════════════════════════════════════
-- The branches
-- ════════════════════════════════════════════════════════════════════════

/-- The whole message goes to the ECJ-PAKE method. -/
theorem ecjpakeKeyExchange_reads :
    Triple (PacketReadsWithin m.messageLength ·.trace) (ecjpakeKeyExchange env m cs)
      (fun _ s => PacketReadsWithin m.messageLength s.trace)
      (fun _ s => PacketReadsWithin m.messageLength s.trace) := by
  unfold ecjpakeKeyExchange
  refine .bind (.modify_keep fun s h => by simpa using h) fun _ => ?_
  refine .bind .get_keep fun _ => ?_
  refine .bind (.modify_keep fun s h => h.read (by simp)) fun _ => ?_
  refine .bind (.cryptoOperation_keep fun _ _ h => by simpa using h) fun _ => ?_
  exact .cryptoCleanup_keep (fun _ => rfl) fun _ _ h => by simpa using h

theorem pskKeyExchange_reads :
    Triple (PacketReadsWithin b ·.trace) (pskKeyExchange env m)
      (fun _ s => PacketReadsWithin b s.trace) (fun _ s => PacketReadsWithin b s.trace) := by
  unfold pskKeyExchange
  refine .bind .get_keep fun _ => ?_
  refine .bind (.modify_keep fun s h => by simpa using h) fun _ => ?_
  exact .ite (fun _ => .exit fun _ => id) fun _ => .pure fun _ => id

/-- The public key of the client follows its one-byte length. -/
theorem ecdhKeyExchange_reads :
    Triple (PacketReadsWithin (m.messageLength + 1) ·.trace) (ecdhKeyExchange cfg env m cs)
      (fun _ s => PacketReadsWithin (m.messageLength + 1) s.trace)
      (fun _ s => PacketReadsWithin (m.messageLength + 1) s.trace) := by
  unfold ecdhKeyExchange
  simp only [pure_bind, exit_bind]
  refine .bind (.modify_keep fun s h => h.read (by omega)) fun _ => ?_
  refine .ite (fun _ => .exit fun _ => id) fun hlen => ?_
  refine .bind (ecdhPrivateKey_readOnly fun _ _ => id) fun key => ?_
  refine .bind (.ofOption (fun _ _ _ => id) fun _ _ => id) fun curve => ?_
  refine .ite (fun _ => .exit fun _ => id) fun _ => ?_
  refine .bind (.cryptoInit_keep fun _ _ h => by simpa using h) fun hd => ?_
  refine .bind (.cryptoOperation_keep fun _ _ h => by simpa using h) fun _ => ?_
  refine .bind (.cryptoOperation_keep fun _ _ h => by simpa using h) fun _ => ?_
  refine .bind (.modify_keep fun s h => h.read (by omega)) fun _ => ?_
  refine .bind (.cryptoOperation_keep fun _ _ h => by simpa using h) fun _ => ?_
  refine .bind (.modify_keep fun s h => by simpa using h) fun _ => ?_
  exact .cryptoCleanup_keep (fun _ => rfl) fun _ _ h => by simpa using h

theorem nullCiphersuiteCopy_reads {length : Nat} (hlen : length ≤ m.messageLength) :
    Triple (PacketReadsWithin (m.messageLength + 2) ·.trace) (nullCiphersuiteCopy cfg m cs length)
      (fun length s => length ≤ m.messageLength ∧
        PacketReadsWithin (m.messageLength + 2) s.trace)
      (fun _ s => PacketReadsWithin (m.messageLength + 2) s.trace) := by
  intro s hs
  simp only [nullCiphersuiteCopy, wp_ite, wp_bind, wp_modify, wp_pure]
  refine ⟨fun _ => ⟨by split_ifs <;> omega, ?_⟩, fun _ => ⟨hlen, hs⟩⟩
  simpa using hs.read (by split_ifs <;> omega)

theorem userKeyDecrypt_reads {method : NxCryptoMethod} {cert : X509Cert} {length : Nat}
    (hb : 2 + length ≤ b) :
    Triple (PacketReadsWithin b ·.trace) (userKeyDecrypt env m method cert length)
      (fun _ s => PacketReadsWithin b s.trace) (fun _ s => PacketReadsWithin b s.trace) := by
  unfold userKeyDecrypt
  refine .bind (.modify_keep fun s h => h.read hb) fun _ => ?_
  exact .bind (.cryptoOperation_keep fun _ _ h => by simpa using h) fun _ => .pure fun _ => id

theorem parsedKeyDecrypt_reads {method : NxCryptoMethod} {cert : X509Cert} {length : Nat}
    (hb : 2 + length ≤ b) :
    Triple (PacketReadsWithin b ·.trace) (parsedKeyDecrypt cfg env m method cert length)
      (fun _ s => PacketReadsWithin b s.trace) (fun _ s => PacketReadsWithin b s.trace) := by
  unfold parsedKeyDecrypt
  simp only [pure_bind]
  have hcleanup : Triple (PacketReadsWithin b ·.trace)
      (cryptoCleanup env method .publicCipher fun s => if cfg.keyClear then s.clearScratch else s)
      (fun _ s => PacketReadsWithin b s.trace) (fun _ s => PacketReadsWithin b s.trace) :=
    .cryptoCleanup_keep (fun s => by split_ifs <;> rfl) fun _ _ h => by simpa using h
  refine .bind (.cryptoInit_keep fun _ _ h => by simpa using h) fun hd => ?_
  refine .ite (fun _ => ?_) fun _ => hcleanup
  refine .bind (setRsaPrimes_trace (fun _ _ h => by simpa using h)
    fun _ _ _ h _ => by simpa using h) fun _ => ?_
  refine .bind (.modify_keep fun s h => h.read hb) fun _ => ?_
  exact .bind (.cryptoOperation_keep fun _ _ h => by simpa using h) fun _ => hcleanup

/-- The encrypted pre-master secret follows its two-byte length; the NULL suite copies at most
that many bytes. -/
theorem rsaDecryptPreMaster_reads :
    Triple (PacketReadsWithin (m.messageLength + 2) ·.trace) (rsaDecryptPreMaster cfg env m cs)
      (fun _ s => PacketReadsWithin (m.messageLength + 2) s.trace)
      (fun _ s => PacketReadsWithin (m.messageLength + 2) s.trace) := by
  unfold rsaDecryptPreMaster
  simp only [pure_bind, exit_bind]
  refine .bind (.modify_keep fun s h => h.read (by omega)) fun _ => ?_
  refine .ite (fun _ => .exit fun _ => id) fun hlen => ?_
  refine .bind (nullCiphersuiteCopy_reads (by omega)) fun length => ?_
  refine .bind (.get (Q := fun _ s => length ≤ m.messageLength ∧
    PacketReadsWithin (m.messageLength + 2) s.trace) fun _ => id) fun _ => ?_
  refine .bind (.ofOption_keep fun _ h => h.2) fun cert => Triple.of_pure fun hL => ?_
  refine .ite (fun _ => .ite (fun _ => ?_) fun _ => ?_) fun _ => .exit fun _ => id
  · exact .bind (userKeyDecrypt_reads (by omega)) fun _ => .pure fun _ => id
  · exact .bind (parsedKeyDecrypt_reads (by omega)) fun _ => .pure fun _ => id

theorem keyExchange_reads :
    Triple (PacketReadsWithin (m.messageLength + prefixWidth (keyExchangeBranch cfg cs)) ·.trace)
      (keyExchange cfg env fuel m cs)
      (fun _ s =>
        PacketReadsWithin (m.messageLength + prefixWidth (keyExchangeBranch cfg cs)) s.trace)
      (fun _ s =>
        PacketReadsWithin (m.messageLength + prefixWidth (keyExchangeBranch cfg cs)) s.trace) := by
  unfold keyExchange
  split <;> rename_i hb <;> simp only [hb, prefixWidth, Nat.add_zero]
  · exact ecjpakeKeyExchange_reads
  · exact pskKeyExchange_reads
  · exact ecdhKeyExchange_reads
  · exact .bind rsaDecryptPreMaster_reads fun _ =>
      .bind (checkPadding_trace fun _ _ _ h => by simpa using h) fun _ =>
        .modify_keep fun _ h => by simpa using h

/-- **Reads of the message.** Every byte a call reads of the message, or hands to a crypto
operation, lies before `message_length` plus the width of the length prefix of its branch. -/
theorem packet_reads_within_prefix {session : Session} {globals : Globals} {status : TlsStatus}
    {s : State} (h : Returns cfg env m session globals status s)
    (hcs : session.sessionCiphersuite = some cs) :
    ∀ o l, Event.packetRead o l ∈ s.trace →
      o + l ≤ m.messageLength + prefixWidth (keyExchangeBranch cfg cs) := by
  obtain ⟨fuel, hrun⟩ := h
  refine wp_ret hrun (tlsProcessClientKeyExchange_triple (Q := fun _ _ => True) keyExchange_reads
    ?_ _ ⟨by simp [PacketReadsWithin], hcs⟩)
  exact Triple.commonExit_trace fun _ => id

/-- An ECDHE exchange reads within its message and the prefix. -/
theorem packet_reads_within_prefix_ecdhe :
    ∃ s, Returns serverBuild (scriptedEnv fun _ => (0, none)) ⟨fun _ => 0, 1, 0⟩
      (serverSession ecdheSuite []) startGlobals .success s ∧
      ∀ o l, Event.packetRead o l ∈ s.trace → o + l ≤ 1 + 1 := by
  obtain ⟨s, h⟩ : ∃ s, Returns serverBuild (scriptedEnv fun _ => (0, none)) ⟨fun _ => 0, 1, 0⟩
      (serverSession ecdheSuite []) startGlobals .success s := ⟨_, 0, rfl⟩
  exact ⟨s, h, packet_reads_within_prefix h rfl⟩

/-- **An ECDHE call reads past its message.** A one-byte message announcing a one-byte public key
passes the check `length > message_length`, and the call hands the byte after the message to
`NX_CRYPTO_DH_CALCULATE` and succeeds. -/
theorem ecdh_reads_past_message :
    ∃ s, Returns serverBuild (scriptedEnv fun _ => (0, none))
      ⟨fun i => if i = 0 then 1 else 0, 1, 0⟩ (serverSession ecdheSuite []) startGlobals
        .success s ∧
      Event.packetRead 1 1 ∈ s.trace :=
  ⟨_, ⟨0, rfl⟩, by decide⟩

-- ════════════════════════════════════════════════════════════════════════
-- The padding check
-- ════════════════════════════════════════════════════════════════════════

/-- **The padding check reads before the scratch buffer.** A 10-byte ciphertext, decrypted by a
user-defined key into a block that starts `0x00 0x02`, makes the check read the byte 39 before
`_nx_secure_client_padded_pre_master` and copy the pre-master secret from 38 bytes before it. -/
theorem padding_check_reads_before_buffer :
    ∃ s, Returns serverBuild paddedBlockEnv shortCiphertext userKeySession startGlobals .success s ∧
      Event.scratchRead (-39) 1 ∈ s.trace ∧ Event.scratchRead (-38) 48 ∈ s.trace :=
  ⟨_, ⟨0, rfl⟩, by decide, by decide⟩

end NxSecure
