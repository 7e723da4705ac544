import NxSecure.Crypto

/-!
# The TLS session control block and what a call shares with other calls

`Session` is the part of `NX_SECURE_TLS_SESSION` the two modelled functions read or write;
`Globals` is the static state every call shares (the scratch buffer
`_nx_secure_client_padded_pre_master` and the random source); `Env` is what the external
collaborators do. A call threads a `State`: the session, the globals, and the trace of the
memory it has read and of the crypto calls it has made.

## Design notes

Byte arrays are functions from offsets to bytes. The scratch buffer is indexed by `Int`: the
source indexes it with `length - NX_SECURE_TLS_RSA_PREMASTER_SIZE - 1`, which is negative for a
short ciphertext, so the offsets outside `0 .. 599` stand for the memory around the array. The
function reads that memory but never writes it.
-/

namespace NxSecure

/-- The fields of an `NX_SECURE_X509_CERT` the key exchange reads; each key is the byte string its
pointer and length field describe. The private key is a union in the source; the model keeps its
three readings (RSA, EC, user-defined) side by side. -/
structure X509Cert where
  privateKeyType : UInt32
  publicAlgorithm : X509PublicAlgorithm
  rsaPublicModulus : List UInt8
  rsaPrivateExponent : List UInt8
  rsaPrivatePrimeP : Option (List UInt8)
  rsaPrivatePrimeQ : Option (List UInt8)
  ecNamedCurve : UInt32
  ecPrivateKey : List UInt8
  userKeyData : List UInt8

/-- `NX_SECURE_TLS_CIPHERSUITE_INFO`: the negotiated suite and the methods of its key exchange
(`nx_secure_tls_public_cipher`) and of its authentication (`nx_secure_tls_public_auth`). -/
structure CiphersuiteInfo where
  ciphersuite : UInt16
  publicCipher : NxCryptoMethod
  publicAuth : NxCryptoMethod

/-- `NX_SECURE_TLS_ECDHE_HANDSHAKE_DATA`, the reading of `nx_secure_tls_new_key_material_data`
the ECDHE branch makes: the curve and the ephemeral private key generated earlier. -/
structure EcdheHandshakeData where
  namedCurve : UInt32
  privateKey : List UInt8

/-- `NX_SECURE_TLS_KEY_MATERIAL`: the pre-master secret, its length, and the ECDHE data. -/
structure KeyMaterial where
  preMasterSecret : Nat → UInt8
  preMasterSecretSize : Nat
  newKeyMaterialData : EcdheHandshakeData

/-- `NX_SECURE_TLS_CREDENTIALS`: the certificate in use, if one was chosen, and the local
certificates of the store. -/
structure Credentials where
  activeCertificate : Option X509Cert
  certificateStore : List X509Cert

/-- The fields of `NX_SECURE_TLS_SESSION` the two modelled functions read or write. -/
structure Session where
  sessionCiphersuite : Option CiphersuiteInfo
  keyMaterial : KeyMaterial
  credentials : Credentials
  publicAuthHandler : Nat
  publicAuthMetadataArea : Metadata
  publicCipherMetadataArea : Metadata
  socketType : SocketType
  clientState : ClientState
  serverState : ServerState
  renegotiationHandshake : Bool

/-- The static state every call shares: `_nx_secure_client_padded_pre_master` with the memory
around it, and how many values `NX_RAND()` has returned so far. -/
structure Globals where
  clientPaddedPreMaster : Int → UInt8
  randDraws : Nat

/-- What the collaborators outside the sources do: the crypto provider,
`_nx_secure_x509_local_device_certificate_get` with a null name,
`_nx_secure_tls_find_curve_method` (its status and the curve method, null or not),
`_nx_secure_tls_generate_premaster_secret`, and the successive values of `NX_RAND()`. -/
structure Env where
  crypto : CryptoProvider
  x509LocalDeviceCertificateGet : List X509Cert → Option X509Cert
  findCurveMethod : UInt16 → UInt32 × Option Nat
  generatePremasterSecret : Session → Nat → UInt32 × KeyMaterial
  nxRand : Nat → UInt32

/-- The arguments of a call besides the session: `packet_buffer` (the memory from the first
byte of the message on), `message_length` and `id`. -/
structure Message where
  packetBuffer : Nat → UInt8
  messageLength : Nat
  id : Nat

/-- The bytes `packet_buffer[offset .. offset + length)`. -/
def Message.bytes (m : Message) (offset length : Nat) : List UInt8 :=
  (List.range length).map fun i => m.packetBuffer (offset + i)

/-- The metadata areas of a session. -/
inductive MetadataArea where
  | publicCipher
  | publicAuth
  deriving DecidableEq, Repr

/-- What the trace records of a call: the memory it reads or hands to a callee, and its calls
into the crypto provider with the statuses they return. -/
inductive Event where
  | packetRead (offset length : Nat)
  | scratchRead (index : Int) (length : Nat)
  | cryptoInit (status : UInt32)
  | cryptoOperation (op : Opcode) (status : UInt32)
  | cryptoCleanup (area : MetadataArea) (status : UInt32)
  deriving DecidableEq, Repr

/-- The state a call threads. -/
structure State where
  session : Session
  globals : Globals
  trace : List Event

namespace State

/-- Record an event. -/
def log (s : State) (e : Event) : State := { s with trace := s.trace ++ [e] }

/-- A metadata area of the session. -/
def metadata (s : State) : MetadataArea → Metadata
  | .publicCipher => s.session.publicCipherMetadataArea
  | .publicAuth => s.session.publicAuthMetadataArea

/-- Replace a metadata area of the session. -/
def setMetadata (s : State) : MetadataArea → Metadata → State
  | .publicCipher, md => { s with session := { s.session with publicCipherMetadataArea := md } }
  | .publicAuth, md => { s with session := { s.session with publicAuthMetadataArea := md } }

/-- Replace the session's key material. -/
def setKeyMaterial (s : State) (km : KeyMaterial) : State :=
  { s with session := { s.session with keyMaterial := km } }

/-- Replace the pre-master secret bytes. -/
def setPreMasterSecret (s : State) (pms : Nat → UInt8) : State :=
  s.setKeyMaterial { s.session.keyMaterial with preMasterSecret := pms }

/-- `nx_secure_tls_pre_master_secret_size = n`. -/
def setPreMasterSecretSize (s : State) (n : Nat) : State :=
  s.setKeyMaterial { s.session.keyMaterial with preMasterSecretSize := n }

/-- Replace the contents of the scratch buffer and the memory around it. -/
def setScratch (s : State) (buf : Int → UInt8) : State :=
  { s with globals := { s.globals with clientPaddedPreMaster := buf } }

/-- `NX_SECURE_MEMSET(_nx_secure_client_padded_pre_master, 0, sizeof(...))`. -/
def clearScratch (s : State) : State :=
  s.setScratch fun i =>
    if 0 ≤ i ∧ i < paddedPreMasterSize then 0 else s.globals.clientPaddedPreMaster i

/-- `NX_SECURE_MEMCPY(nx_secure_tls_pre_master_secret, src, n)`. -/
def copyToPreMasterSecret (s : State) (src : Nat → UInt8) (n : Nat) : State :=
  s.setPreMasterSecret fun i => if i < n then src i else s.session.keyMaterial.preMasterSecret i

/-- Replace the number of values `NX_RAND()` has returned. -/
def setRandDraws (s : State) (n : Nat) : State :=
  { s with globals := { s.globals with randDraws := n } }

/-- `nx_secure_tls_client_state = st`. -/
def setClientState (s : State) (st : ClientState) : State :=
  { s with session := { s.session with clientState := st } }

@[simp] theorem log_session (s : State) (e : Event) : (s.log e).session = s.session := rfl
@[simp] theorem log_globals (s : State) (e : Event) : (s.log e).globals = s.globals := rfl
@[simp] theorem log_trace (s : State) (e : Event) : (s.log e).trace = s.trace ++ [e] := rfl

@[simp] theorem setMetadata_keyMaterial (s : State) (a : MetadataArea) (md : Metadata) :
    (s.setMetadata a md).session.keyMaterial = s.session.keyMaterial := by
  cases a <;> rfl
@[simp] theorem setMetadata_globals (s : State) (a : MetadataArea) (md : Metadata) :
    (s.setMetadata a md).globals = s.globals := by
  cases a <;> rfl
@[simp] theorem setMetadata_trace (s : State) (a : MetadataArea) (md : Metadata) :
    (s.setMetadata a md).trace = s.trace := by
  cases a <;> rfl
@[simp] theorem setMetadata_sessionCiphersuite (s : State) (a : MetadataArea) (md : Metadata) :
    (s.setMetadata a md).session.sessionCiphersuite = s.session.sessionCiphersuite := by
  cases a <;> rfl
@[simp] theorem setMetadata_credentials (s : State) (a : MetadataArea) (md : Metadata) :
    (s.setMetadata a md).session.credentials = s.session.credentials := by
  cases a <;> rfl
@[simp] theorem metadata_setMetadata (s : State) (a : MetadataArea) (md : Metadata) :
    (s.setMetadata a md).metadata a = md := by
  cases a <;> rfl

@[simp] theorem setKeyMaterial_keyMaterial (s : State) (km : KeyMaterial) :
    (s.setKeyMaterial km).session.keyMaterial = km := rfl
@[simp] theorem setKeyMaterial_globals (s : State) (km : KeyMaterial) :
    (s.setKeyMaterial km).globals = s.globals := rfl
@[simp] theorem setKeyMaterial_trace (s : State) (km : KeyMaterial) :
    (s.setKeyMaterial km).trace = s.trace := rfl
@[simp] theorem setKeyMaterial_credentials (s : State) (km : KeyMaterial) :
    (s.setKeyMaterial km).session.credentials = s.session.credentials := rfl

@[simp] theorem setPreMasterSecret_trace (s : State) (pms : Nat → UInt8) :
    (s.setPreMasterSecret pms).trace = s.trace := rfl
@[simp] theorem setPreMasterSecret_globals (s : State) (pms : Nat → UInt8) :
    (s.setPreMasterSecret pms).globals = s.globals := rfl
@[simp] theorem setPreMasterSecretSize_trace (s : State) (n : Nat) :
    (s.setPreMasterSecretSize n).trace = s.trace := rfl
@[simp] theorem setPreMasterSecretSize_globals (s : State) (n : Nat) :
    (s.setPreMasterSecretSize n).globals = s.globals := rfl
@[simp] theorem copyToPreMasterSecret_trace (s : State) (src : Nat → UInt8) (n : Nat) :
    (s.copyToPreMasterSecret src n).trace = s.trace := rfl
@[simp] theorem copyToPreMasterSecret_globals (s : State) (src : Nat → UInt8) (n : Nat) :
    (s.copyToPreMasterSecret src n).globals = s.globals := rfl

@[simp] theorem setScratch_session (s : State) (buf : Int → UInt8) :
    (s.setScratch buf).session = s.session := rfl
@[simp] theorem setScratch_trace (s : State) (buf : Int → UInt8) :
    (s.setScratch buf).trace = s.trace := rfl
@[simp] theorem setScratch_clientPaddedPreMaster (s : State) (buf : Int → UInt8) :
    (s.setScratch buf).globals.clientPaddedPreMaster = buf := rfl
@[simp] theorem setScratch_randDraws (s : State) (buf : Int → UInt8) :
    (s.setScratch buf).globals.randDraws = s.globals.randDraws := rfl

@[simp] theorem clearScratch_session (s : State) : s.clearScratch.session = s.session := rfl
@[simp] theorem clearScratch_trace (s : State) : s.clearScratch.trace = s.trace := rfl

@[simp] theorem setRandDraws_session (s : State) (n : Nat) :
    (s.setRandDraws n).session = s.session := rfl
@[simp] theorem setRandDraws_trace (s : State) (n : Nat) : (s.setRandDraws n).trace = s.trace := rfl

@[simp] theorem setClientState_globals (s : State) (st : ClientState) :
    (s.setClientState st).globals = s.globals := rfl
@[simp] theorem setClientState_trace (s : State) (st : ClientState) :
    (s.setClientState st).trace = s.trace := rfl
@[simp] theorem setClientState_keyMaterial (s : State) (st : ClientState) :
    (s.setClientState st).session.keyMaterial = s.session.keyMaterial := rfl

end State

-- ════════════════════════════════════════════════════════════════════════
-- Concrete sessions, suites and collaborators
-- ════════════════════════════════════════════════════════════════════════

/-- `TLS_ECDHE_RSA_WITH_AES_128_GCM_SHA256` over methods with all entry points. -/
def ecdheSuite : CiphersuiteInfo := ⟨0xC02F, fullMethod .keyExchangeEcdhe, fullMethod (.other 0)⟩

/-- `TLS_RSA_WITH_AES_128_CBC_SHA256` over methods with all entry points. -/
def rsaSuite : CiphersuiteInfo := ⟨0x003C, fullMethod .keyExchangeRsa, fullMethod (.other 0)⟩

/-- An RSA certificate whose private key has the type `privateKeyType`, its keys and primes
empty. -/
def rsaCertificate (privateKeyType : UInt32) : X509Cert where
  privateKeyType := privateKeyType
  publicAlgorithm := .rsa
  rsaPublicModulus := []
  rsaPrivateExponent := []
  rsaPrivatePrimeP := none
  rsaPrivatePrimeQ := none
  ecNamedCurve := 0
  ecPrivateKey := []
  userKeyData := []

/-- A server session on the suite `cs`, with the local certificates `store` and zero key
material. -/
def serverSession (cs : CiphersuiteInfo) (store : List X509Cert) : Session where
  sessionCiphersuite := some cs
  keyMaterial := ⟨fun _ => 0, 0, ⟨0, []⟩⟩
  credentials := ⟨none, store⟩
  publicAuthHandler := 0
  publicAuthMetadataArea := []
  publicCipherMetadataArea := []
  socketType := .server
  clientState := .other 0
  serverState := .other 0
  renegotiationHandshake := false

/-- A server whose only certificate has a user-defined RSA key. -/
def userKeySession : Session := serverSession rsaSuite [rsaCertificate 0x10000]

/-- The globals at start-up: the scratch buffer and the memory around it zero, no random value
drawn. -/
def startGlobals : Globals := ⟨fun _ => 0, 0⟩

/-- A 10-byte ciphertext in a 12-byte message. -/
def shortCiphertext : Message := ⟨fun i => if i = 1 then 10 else 0, 12, 0⟩

/-- The collaborators around a scripted provider: the first certificate of the store, a curve
method for every curve, a PSK generator that keeps the key material, and `NX_RAND()` always `1`. -/
def scriptedEnv (answer : Opcode → UInt32 × Option (Nat → UInt8)) : Env where
  crypto := scriptedProvider answer
  x509LocalDeviceCertificateGet := List.head?
  findCurveMethod _ := (0, some 0)
  generatePremasterSecret s _ := (0, s.keyMaterial)
  nxRand _ := 1

/-- Scripted collaborators whose decryption succeeds with a block that starts `0x00 0x02`, zeros
after. -/
def paddedBlockEnv : Env := scriptedEnv fun _ => (0, some fun i => if i = 1 then 2 else 0)

/-- Scripted collaborators whose decryption succeeds with an all-zero block, whose second byte is
not the `0x02` of a padded block. -/
def zeroBlockEnv : Env := scriptedEnv fun _ => (0, some fun _ => 0)

end NxSecure
