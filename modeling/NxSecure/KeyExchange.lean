import NxSecure.Code

/-!
# `_nx_secure_tls_process_client_key_exchange`

The faithful model of `nx_secure_tls_process_client_key_exchange.c`, one definition for each
stretch of the source: the crypto calls every branch makes (`cryptoInit`, `cryptoOperation`,
`cryptoCleanup`), the four key-exchange branches, the RSA decryption and its PKCS#1 padding check
with the Bleichenbacher countermeasure, and the common exit.

## Main definitions

- `tlsProcessClientKeyExchange` — the function, as `Code` over the call's `State`
- `Returns` — the call returns `status` and leaves `State`, given enough fuel for its one loop

## Design notes

The loop `do { rand_byte = (UCHAR)NX_RAND(); } while (rand_byte == 0);` runs as long as the random
source yields zero bytes; the model gives it `fuel` draws and is `stuck` when they are spent. A
call through a null `nx_crypto_operation` (the ECJ-PAKE and user-defined-key calls do not test
for one) is `stuck` too: neither returns to the caller.
-/

namespace NxSecure

open Code

/-- `length << 3`, a key size in bits as the `UINT` the source passes. -/
def keyBits (length : Nat) : Nat := (length <<< 3) % UInt32.size

/-- The output buffer the source hands a crypto call: none (`NX_NULL, 0`), the scratch buffer, or
the first `length` bytes of the pre-master secret (directly, or through
`NX_CRYPTO_EXTENDED_OUTPUT`). -/
inductive Output where
  | none
  | scratch
  | preMasterSecret (length : Nat)

/-- `output_length_in_byte` of a call. -/
def Output.length : Output → Nat
  | .none => 0
  | .scratch => paddedPreMasterSize
  | .preMasterSecret length => length

/-- The current contents of an output buffer. -/
def State.outputBuffer (s : State) : Output → Nat → UInt8
  | .none => fun _ => 0
  | .scratch => fun i => s.globals.clientPaddedPreMaster i
  | .preMasterSecret _ => s.session.keyMaterial.preMasterSecret

/-- The state after a call left `out` in its output buffer; it writes nothing past the buffer's
length. -/
def State.storeOutput (s : State) : Output → (Nat → UInt8) → State
  | .none, _ => s
  | .scratch, out => s.setScratch fun i =>
      if 0 ≤ i ∧ i < paddedPreMasterSize then out i.toNat else s.globals.clientPaddedPreMaster i
  | .preMasterSecret length, out => s.copyToPreMasterSecret out length

/-- What `nx_crypto_init` answers from state `s`, on the public cipher's metadata area. -/
def State.initReturn (s : State) (env : Env) (method : NxCryptoMethod) (key : List UInt8)
    (bits : Nat) : InitReturn :=
  env.crypto.init method key bits (s.metadata .publicCipher)

/-- The state after that call. -/
def State.afterInit (s : State) (env : Env) (method : NxCryptoMethod) (key : List UInt8)
    (bits : Nat) : State :=
  let r := s.initReturn env method key bits
  (s.setMetadata .publicCipher r.metadata).log (.cryptoInit r.status)

/-- `if (method -> nx_crypto_init) { status = method -> nx_crypto_init(method, key, key_bits,
&handler, metadata_area, size); if (status != NX_CRYPTO_SUCCESS) return(status); }` on the public
cipher's metadata area. The value is `handler`, which is `NX_NULL` when there is no `init`. -/
def cryptoInit (env : Env) (method : NxCryptoMethod) (key : List UInt8) (bits : Nat) : Code Nat :=
  fun s =>
  if method.nxCryptoInit then
    let r := s.initReturn env method key bits
    if r.status ≠ 0 then .ret (.propagated r.status) (s.afterInit env method key bits)
    else .next r.handler (s.afterInit env method key bits)
  else .next 0 s

/-- What `nx_crypto_operation` answers from state `s`: it is handed the old contents of its output
buffer and the metadata area. -/
def State.operationReturn (s : State) (env : Env) (method : NxCryptoMethod) (area : MetadataArea)
    (req : Request) (out : Output) : OperationReturn :=
  env.crypto.operation method req (s.outputBuffer out) out.length (s.metadata area)

/-- The state after that call. -/
def State.afterOperation (s : State) (env : Env) (method : NxCryptoMethod) (area : MetadataArea)
    (req : Request) (out : Output) : State :=
  let r := s.operationReturn env method area req out
  ((s.storeOutput out r.output).setMetadata area r.metadata).log (.cryptoOperation req.op r.status)

/-- `status = method -> nx_crypto_operation(...); if (status != NX_CRYPTO_SUCCESS) return(status);`
The call may already have written its output buffer when it fails. A null `nx_crypto_operation`
is a call through a null pointer. -/
def cryptoOperation (env : Env) (method : NxCryptoMethod) (area : MetadataArea) (req : Request)
    (out : Output) : Code OperationReturn := fun s =>
  if method.nxCryptoOperation then
    let r := s.operationReturn env method area req out
    if r.status ≠ 0 then .ret (.propagated r.status) (s.afterOperation env method area req out)
    else .next r (s.afterOperation env method area req out)
  else .stuck

/-- What `nx_crypto_cleanup` answers from state `s`: its status and the metadata it leaves. -/
def State.cleanupReturn (s : State) (env : Env) (method : NxCryptoMethod) (area : MetadataArea) :
    UInt32 × Metadata :=
  env.crypto.cleanup method (s.metadata area)

/-- The state after that call. -/
def State.afterCleanup (s : State) (env : Env) (method : NxCryptoMethod) (area : MetadataArea) :
    State :=
  let r := s.cleanupReturn env method area
  (s.setMetadata area r.2).log (.cryptoCleanup area r.1)

/-- `if (method -> nx_crypto_cleanup) { status = method -> nx_crypto_cleanup(metadata_area);
if (status != NX_CRYPTO_SUCCESS) { onError; return(status); } }`. -/
def cryptoCleanup (env : Env) (method : NxCryptoMethod) (area : MetadataArea)
    (onError : State → State) : Code Unit := fun s =>
  if method.nxCryptoCleanup then
    let r := s.cleanupReturn env method area
    if r.1 ≠ 0 then .ret (.propagated r.1) (onError (s.afterCleanup env method area))
    else .next () (s.afterCleanup env method area)
  else .next () s

-- ════════════════════════════════════════════════════════════════════════
-- The four branches
-- ════════════════════════════════════════════════════════════════════════

/-- Lines 127-159: ECJ-PAKE hands the whole message to the public-auth method, which writes a
32-byte pre-master secret. -/
def ecjpakeKeyExchange (env : Env) (m : Message) (cs : CiphersuiteInfo) : Code Unit := do
  modify (·.setPreMasterSecretSize 32)
  let s ← get
  modify (·.log (.packetRead 0 m.messageLength))
  let _ ← cryptoOperation env cs.publicAuth .publicAuth
    ⟨.ecjpakeClientKeyExchangeProcess, s.session.publicAuthHandler, [], 0,
      m.bytes 0 m.messageLength⟩ (.preMasterSecret 32)
  cryptoCleanup env cs.publicAuth .publicAuth id

/-- Lines 166-174: a PSK suite leaves the pre-master secret to
`_nx_secure_tls_generate_premaster_secret`. -/
def pskKeyExchange (env : Env) (m : Message) : Code Unit := do
  let s ← get
  let r := env.generatePremasterSecret s.session m.id
  modify (·.setKeyMaterial r.2)
  if r.1 ≠ 0 then exit (.propagated r.1)

/-- Lines 189-240: the curve method and private key of an ECDH exchange come from the local
certificate, those of an ECDHE exchange from the ephemeral key generated earlier. -/
def ecdhPrivateKey (env : Env) (cs : CiphersuiteInfo) : Code (Option Nat × List UInt8) := do
  let s ← get
  if cs.publicCipher.nxCryptoAlgorithm = .keyExchangeEcdh then
    let localCertificate := match s.session.credentials.activeCertificate with
      | some cert => some cert
      | none => env.x509LocalDeviceCertificateGet s.session.credentials.certificateStore
    let cert ← ofOption localCertificate .certificateNotFound
    let r := env.findCurveMethod cert.ecNamedCurve.toUInt16
    if r.1 ≠ 0 then exit (.propagated r.1)
    pure (r.2, cert.ecPrivateKey)
  else
    let ecdheData := s.session.keyMaterial.newKeyMaterialData
    let r := env.findCurveMethod ecdheData.namedCurve.toUInt16
    if r.1 ≠ 0 then exit (.propagated r.1)
    pure (r.2, ecdheData.privateKey)

/-- Lines 178-322: (EC)DH(E). The one-byte length of the client's public key, the curve and the
private key, then curve set, key import and the shared-secret computation straight into the
pre-master secret, whose length the method reports. -/
def ecdhKeyExchange (cfg : Config) (env : Env) (m : Message) (cs : CiphersuiteInfo) :
    Code Unit := do
  modify (·.log (.packetRead 0 1))
  let length := (m.packetBuffer 0).toNat
  if length > m.messageLength then exit .incorrectMessageLength
  let key ← ecdhPrivateKey env cs
  let curveMethod ← ofOption key.1 .unsupportedEccCurve
  let ecdhMethod := cs.publicCipher
  if !ecdhMethod.nxCryptoOperation then exit .missingCryptoRoutine
  let handler ← cryptoInit env ecdhMethod [] 0
  let _ ← cryptoOperation env ecdhMethod .publicCipher
    ⟨.ecCurveSet curveMethod, handler, [], 0, []⟩ .none
  let _ ← cryptoOperation env ecdhMethod .publicCipher
    ⟨.dhKeyPairImport, handler, key.2, keyBits key.2.length, []⟩ .none
  modify (·.log (.packetRead 1 length))
  let r ← cryptoOperation env ecdhMethod .publicCipher
    ⟨.dhCalculate, handler, [], 0, m.bytes 1 length⟩ (.preMasterSecret cfg.premasterSize)
  modify (·.setPreMasterSecretSize r.actualSize)
  cryptoCleanup env ecdhMethod .publicCipher id

/-- Lines 341-350: the NULL ciphersuite copies the message body into the pre-master secret,
truncated to the array. The value is `length` afterwards. -/
def nullCiphersuiteCopy (cfg : Config) (m : Message) (cs : CiphersuiteInfo) (length : Nat) :
    Code Nat :=
  if cs.ciphersuite = tlsNullWithNullNull then do
    let length := if length > cfg.premasterSize then cfg.premasterSize else length
    modify fun s => ((s.log (.packetRead 2 length)).copyToPreMasterSecret
      (fun i => m.packetBuffer (2 + i)) length).setPreMasterSecretSize length
    pure length
  else pure length

/-- Lines 366-371: the key is user-defined or in hardware. -/
def userDefinedKey (cfg : Config) (cert : X509Cert) : Prop :=
  cert.privateKeyType &&& cfg.keyTypeUserDefinedMask ≠ 0 ∨ cert.privateKeyType = cfg.keyTypeHardware

instance (cfg : Config) (cert : X509Cert) : Decidable (userDefinedKey cfg cert) :=
  inferInstanceAs (Decidable (_ ∨ _))

/-- Lines 378-399: a user-defined key decrypts in one call, with its key type as opcode. -/
def userKeyDecrypt (env : Env) (m : Message) (method : NxCryptoMethod) (cert : X509Cert)
    (length : Nat) : Code Unit := do
  modify (·.log (.packetRead 2 length))
  let _ ← cryptoOperation env method .publicCipher
    ⟨.keyType cert.privateKeyType, 0, cert.userKeyData, cert.userKeyData.length, m.bytes 2 length⟩
    .scratch

/-- Lines 425-468: with both CRT primes of the key present, hand them to the method. -/
def setRsaPrimes (env : Env) (method : NxCryptoMethod) (handler : Nat) :
    Option (List UInt8) → Option (List UInt8) → Code Unit
  | some p, some q => do
    let _ ← cryptoOperation env method .publicCipher ⟨.setPrimeP, handler, [], 0, p⟩ .none
    let _ ← cryptoOperation env method .publicCipher ⟨.setPrimeQ, handler, [], 0, q⟩ .none
  | _, _ => pure ()

/-- Lines 402-505: a parsed RSA key. `init` with the modulus; if the method has an operation, the
CRT primes when both are present, then the decryption; `cleanup`, clearing the scratch buffer
when that fails. -/
def parsedKeyDecrypt (cfg : Config) (env : Env) (m : Message) (method : NxCryptoMethod)
    (cert : X509Cert) (length : Nat) : Code Unit := do
  let handler ← cryptoInit env method cert.rsaPublicModulus (keyBits cert.rsaPublicModulus.length)
  if method.nxCryptoOperation then
    setRsaPrimes env method handler cert.rsaPrivatePrimeP cert.rsaPrivatePrimeQ
    modify (·.log (.packetRead 2 length))
    let _ ← cryptoOperation env method .publicCipher
      ⟨.decrypt, handler, cert.rsaPrivateExponent, keyBits cert.rsaPrivateExponent.length,
        m.bytes 2 length⟩ .scratch
  cryptoCleanup env method .publicCipher fun s => if cfg.keyClear then s.clearScratch else s

/-- `do { rand_byte = (UCHAR)NX_RAND(); } while (rand_byte == 0);` from the `pos`-th value of
`NX_RAND()` on, with at most `fuel` draws: the byte, and the number of values drawn after it. -/
def nxRandNonzero (rand : Nat → UInt32) : (fuel pos : Nat) → Option (UInt8 × Nat)
  | 0, _ => none
  | fuel + 1, pos =>
    if (rand pos).toUInt8 = 0 then nxRandNonzero rand fuel (pos + 1)
    else some ((rand pos).toUInt8, pos + 1)

/-- The `n` iterations `i, i + 1, ...` of the loop of lines 522-531: the pre-master secret and the
number of values drawn afterwards. -/
def randomPreMasterLoop (rand : Nat → UInt32) (fuel : Nat) :
    (n i : Nat) → (Nat → UInt8) → Nat → Option ((Nat → UInt8) × Nat)
  | 0, _, pms, pos => some (pms, pos)
  | n + 1, i, pms, pos =>
    match nxRandNonzero rand fuel pos with
    | some (b, pos) => randomPreMasterLoop rand fuel n (i + 1) (Function.update pms i b) pos
    | none => none

/-- Lines 522-531: a pre-master secret of random nonzero bytes. -/
def randomPreMasterSecret (env : Env) (fuel : Nat) : Code Unit := fun s =>
  match randomPreMasterLoop env.nxRand fuel tlsRsaPremasterSize 0
      s.session.keyMaterial.preMasterSecret s.globals.randDraws with
  | some (pms, pos) => .next () ((s.setPreMasterSecret pms).setRandDraws pos)
  | none => .stuck

/-- Lines 508-540: the PKCS#1 check of the first two bytes and of the byte before the last
`NX_SECURE_TLS_RSA_PREMASTER_SIZE`, read with C's short-circuit `||`. Invalid padding gets a
random pre-master secret, valid padding the last 48 bytes of the decrypted block. -/
def checkPadding (env : Env) (fuel length : Nat) : Code Unit := do
  let s ← get
  let buf := s.globals.clientPaddedPreMaster
  let index : Int := length - tlsRsaPremasterSize - 1
  modify (·.log (.scratchRead 0 1))
  let rejected ←
    if buf 0 ≠ 0 then pure true
    else do
      modify (·.log (.scratchRead 1 1))
      if buf 1 ≠ 2 then pure true
      else do
        modify (·.log (.scratchRead index 1))
        pure (decide (buf index ≠ 0))
  if rejected then randomPreMasterSecret env fuel
  else
    modify fun s => (s.log (.scratchRead (index + 1) tlsRsaPremasterSize)).copyToPreMasterSecret
      (fun i => buf (index + 1 + i)) tlsRsaPremasterSize

/-- Lines 327-506: certificate-based key exchange up to the padding check. The two-byte length
of the encrypted pre-master secret, the NULL-suite copy, the local certificate, then the RSA
decryption into the scratch buffer, or `NX_SECURE_TLS_UNSUPPORTED_PUBLIC_CIPHER`. The value is
`length`. -/
def rsaDecryptPreMaster (cfg : Config) (env : Env) (m : Message) (cs : CiphersuiteInfo) :
    Code Nat := do
  modify (·.log (.packetRead 0 2))
  let length := (m.packetBuffer 0).toNat <<< 8 + (m.packetBuffer 1).toNat
  if length > m.messageLength then exit .incorrectMessageLength
  let length ← nullCiphersuiteCopy cfg m cs length
  let s ← get
  let cert ← ofOption (env.x509LocalDeviceCertificateGet s.session.credentials.certificateStore)
    .certificateNotFound
  let method := cs.publicCipher
  if method.nxCryptoAlgorithm = .keyExchangeRsa ∧ cert.publicAlgorithm = .rsa then do
    if userDefinedKey cfg cert then userKeyDecrypt env m method cert length
    else parsedKeyDecrypt cfg env m method cert length
    pure length
  else exit .unsupportedPublicCipher

/-- Lines 325-548: certificate-based key exchange. -/
def certificateKeyExchange (cfg : Config) (env : Env) (fuel : Nat) (m : Message)
    (cs : CiphersuiteInfo) : Code Unit := do
  let length ← rsaDecryptPreMaster cfg env m cs
  checkPadding env fuel length
  modify (·.setPreMasterSecretSize tlsRsaPremasterSize)

-- ════════════════════════════════════════════════════════════════════════
-- The function
-- ════════════════════════════════════════════════════════════════════════

/-- Which branch a ciphersuite takes under a build. -/
inductive KeyExchangeBranch where
  | ecjpake
  | psk
  | ecdh
  | certificate
  deriving DecidableEq, Repr

/-- Lines 127, 166 and 178: the public-auth method selects ECJ-PAKE or PSK, the public cipher
ECDH or ECDHE, each when its build option is on; everything else is certificate-based. -/
def keyExchangeBranch (cfg : Config) (cs : CiphersuiteInfo) : KeyExchangeBranch :=
  if cfg.enableEcjpakeCiphersuite ∧ cs.publicAuth.nxCryptoAlgorithm = .keyExchangeEcjpake then
    .ecjpake
  else if cfg.enablePskCiphersuites ∧ cs.publicAuth.nxCryptoAlgorithm = .keyExchangePsk then
    .psk
  else if cfg.enableEccCiphersuite ∧ (cs.publicCipher.nxCryptoAlgorithm = .keyExchangeEcdh ∨
      cs.publicCipher.nxCryptoAlgorithm = .keyExchangeEcdhe) then
    .ecdh
  else .certificate

/-- Lines 550-560: clear the scratch buffer, then succeed, or, in a build without TLS server,
put the session in the error state and fail. -/
def commonExit (cfg : Config) : Code Unit := do
  if cfg.keyClear then modify State.clearScratch
  if cfg.serverDisabled then do
    modify (·.setClientState .error)
    exit .invalidState
  else exit .success

/-- Lines 121-548: the key exchange of the negotiated suite. -/
def keyExchange (cfg : Config) (env : Env) (fuel : Nat) (m : Message) (cs : CiphersuiteInfo) :
    Code Unit :=
  match keyExchangeBranch cfg cs with
  | .ecjpake => ecjpakeKeyExchange env m cs
  | .psk => pskKeyExchange env m
  | .ecdh => ecdhKeyExchange cfg env m cs
  | .certificate => certificateKeyExchange cfg env fuel m cs

/-- `_nx_secure_tls_process_client_key_exchange(tls_session, packet_buffer, message_length, id)`. -/
def tlsProcessClientKeyExchange (cfg : Config) (env : Env) (fuel : Nat) (m : Message) :
    Code Unit := do
  let s ← get
  let cs ← ofOption s.session.sessionCiphersuite .unknownCiphersuite
  keyExchange cfg env fuel m cs
  commonExit cfg

/-- A call on `session` with the shared state `globals` returns `status`, leaving `s`. -/
def Returns (cfg : Config) (env : Env) (m : Message) (session : Session) (globals : Globals)
    (status : TlsStatus) (s : State) : Prop :=
  ∃ fuel, tlsProcessClientKeyExchange cfg env fuel m ⟨session, globals, []⟩ = .ret status s

end NxSecure
