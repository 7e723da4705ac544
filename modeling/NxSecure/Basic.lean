import Mathlib.Logic.Function.Basic

/-!
# NetX Secure TLS: statuses, build options and constants

The part of `nx_secure_tls.h`, `nx_secure_x509.h`, `nx_crypto.h` and of the build configuration
that `_nx_secure_tls_process_client_key_exchange` and `_nx_secure_tls_session_receive` read.

## Design notes

The headers are not among the sources. Their status codes, algorithm identifiers and session
states are kept by name, as inductive types: a status that a callee hands back unchanged is
`TlsStatus.propagated`, so that a status the function raises itself can be told apart from one it
only passes on. The two numeric constants the key exchange computes with are the ones the source
itself states (`tlsRsaPremasterSize`, `paddedPreMasterSize`); the size of the session's pre-master
buffer is a build parameter of `Config`, which carries the bound the RSA path relies on.
-/

namespace NxSecure

/-- `NX_SECURE_TLS_RSA_PREMASTER_SIZE`: the length of an RSA pre-master secret, "the last 48 bytes"
of the decrypted block as the source's comment says. -/
def tlsRsaPremasterSize : Nat := 48

/-- `sizeof(_nx_secure_client_padded_pre_master)`. -/
def paddedPreMasterSize : Nat := 600

/-- `TLS_NULL_WITH_NULL_NULL`, the ciphersuite without key exchange (IANA value `0x0000`). -/
def tlsNullWithNullNull : UInt16 := 0x0000

/-- The completion statuses of the modelled functions. The named ones are the codes the functions
raise themselves (`NX_SUCCESS` and `NX_SECURE_TLS_*`); `propagated code` is a nonzero status of a
callee returned unchanged. -/
inductive TlsStatus where
  | success
  | unknownCiphersuite
  | incorrectMessageLength
  | certificateNotFound
  | unsupportedEccCurve
  | missingCryptoRoutine
  | unsupportedPublicCipher
  | invalidState
  | postHandshakeReceived
  | propagated (code : UInt32)
  deriving DecidableEq, Repr

/-- The errors `_nx_secure_tls_process_client_key_exchange` raises from its own checks. -/
def TlsStatus.IsValidationError (status : TlsStatus) : Prop :=
  status ∈ [.unknownCiphersuite, .incorrectMessageLength, .certificateNotFound,
    .unsupportedEccCurve, .missingCryptoRoutine, .unsupportedPublicCipher]

instance : DecidablePred TlsStatus.IsValidationError := fun status =>
  inferInstanceAs (Decidable (status ∈ _))

/-- The values of `nx_crypto_algorithm` the key exchange tests for
(`NX_CRYPTO_KEY_EXCHANGE_*`); `other` is any other algorithm. -/
inductive CryptoAlgorithm where
  | keyExchangeEcjpake
  | keyExchangePsk
  | keyExchangeEcdh
  | keyExchangeEcdhe
  | keyExchangeRsa
  | other (id : UInt32)
  deriving DecidableEq, Repr

/-- `nx_secure_x509_public_algorithm`: `NX_SECURE_TLS_X509_TYPE_RSA` or another key type. -/
inductive X509PublicAlgorithm where
  | rsa
  | other (id : UInt32)
  deriving DecidableEq, Repr

/-- `nx_secure_tls_socket_type`. -/
inductive SocketType where
  | client
  | server
  deriving DecidableEq, Repr

/-- `nx_secure_tls_client_state`: the two states the modelled functions name, and the rest. -/
inductive ClientState where
  | renegotiating
  | error
  | other (id : Nat)
  deriving DecidableEq, Repr

/-- `nx_secure_tls_server_state`: `NX_SECURE_TLS_SERVER_STATE_HELLO_REQUEST`, and the rest. -/
inductive ServerState where
  | helloRequest
  | other (id : Nat)
  deriving DecidableEq, Repr

/-- The build options the two functions are compiled under, and the constants of the absent
headers their code depends on. `premasterSize` is
`sizeof(nx_secure_tls_pre_master_secret)`; the RSA path writes `tlsRsaPremasterSize` bytes into
that array, so a build in which they would not fit does not exist. -/
structure Config where
  enableEcjpakeCiphersuite : Bool
  enablePskCiphersuites : Bool
  enableEccCiphersuite : Bool
  keyClear : Bool
  serverDisabled : Bool
  clientDisabled : Bool
  disableSecureRenegotiation : Bool
  premasterSize : Nat
  rsaPremasterSize_le : tlsRsaPremasterSize ≤ premasterSize
  keyTypeUserDefinedMask : UInt32
  keyTypeHardware : UInt32

-- ════════════════════════════════════════════════════════════════════════
-- A build
-- ════════════════════════════════════════════════════════════════════════

/-- A server build with every key exchange and `NX_SECURE_KEY_CLEAR`, a 48-byte pre-master secret,
the user-defined key types in the upper half-word and `3` as the hardware key type. -/
def serverBuild : Config where
  enableEcjpakeCiphersuite := true
  enablePskCiphersuites := true
  enableEccCiphersuite := true
  keyClear := true
  serverDisabled := false
  clientDisabled := false
  disableSecureRenegotiation := false
  premasterSize := 48
  rsaPremasterSize_le := Nat.le_refl 48
  keyTypeUserDefinedMask := 0xFFFF0000
  keyTypeHardware := 3

end NxSecure
