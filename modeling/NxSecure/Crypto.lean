import NxSecure.Basic

/-!
# The crypto provider boundary

An `NX_CRYPTO_METHOD` is a table of three entry points, `nx_crypto_init`, `nx_crypto_operation`
and `nx_crypto_cleanup`, any of which may be null. The key exchange only orchestrates calls into
them, so the model splits a method in two: its static data (`NxCryptoMethod`: the algorithm and
which entry points are non-null), which the session points to, and what its entry points do
(`CryptoProvider`), which is arbitrary.

## Design notes

A call is given everything the source hands it, and the old contents of the buffer it may write:
a provider that writes only part of its output buffer, or writes it and then fails, is one of the
behaviours the key exchange has to cope with. The metadata area is the method's private state.
-/

namespace NxSecure

/-- The `nx_crypto_metadata_area` a method keeps its state in. -/
abbrev Metadata := List UInt8

/-- The opcodes `_nx_secure_tls_process_client_key_exchange` calls `nx_crypto_operation` with.
`ecCurveSet` carries the curve method it installs (its input in the source), and a certificate
whose key is user-defined or in hardware is used with its own key type as the opcode. -/
inductive Opcode where
  | ecCurveSet (curveMethod : Nat)
  | dhKeyPairImport
  | dhCalculate
  | setPrimeP
  | setPrimeQ
  | decrypt
  | ecjpakeClientKeyExchangeProcess
  | keyType (privateKeyType : UInt32)
  deriving DecidableEq, Repr

/-- The opcodes that decrypt the encrypted pre-master secret into
`_nx_secure_client_padded_pre_master`. -/
def Opcode.IsRsaDecrypt : Opcode → Prop
  | .decrypt | .keyType _ => True
  | _ => False

instance : DecidablePred Opcode.IsRsaDecrypt
  | .decrypt | .keyType _ => inferInstanceAs (Decidable True)
  | .ecCurveSet _ | .dhKeyPairImport | .dhCalculate | .setPrimeP | .setPrimeQ
  | .ecjpakeClientKeyExchangeProcess => inferInstanceAs (Decidable False)

/-- An `NX_CRYPTO_METHOD` as the session points to it: the algorithm and which entry points are
non-null. -/
structure NxCryptoMethod where
  nxCryptoAlgorithm : CryptoAlgorithm
  nxCryptoInit : Bool
  nxCryptoOperation : Bool
  nxCryptoCleanup : Bool
  deriving DecidableEq, Repr

/-- What `nx_crypto_init(method, key, key_size_in_bits, &handler, metadata, size)` returns and
leaves behind: its status, the handler it sets, and the metadata area. -/
structure InitReturn where
  status : UInt32
  handler : Nat
  metadata : Metadata

/-- The arguments of `nx_crypto_operation(op, handler, method, key, key_size_in_bits, input,
input_length, iv, output, output_length_in_byte, metadata, size, packet, callback)` that do not
depend on the state: the input is the bytes the call is handed. -/
structure Request where
  op : Opcode
  handler : Nat
  key : List UInt8
  keyBits : Nat
  input : List UInt8

/-- What `nx_crypto_operation` returns and leaves behind: its status, the contents of its output
buffer, `nx_crypto_extended_output_actual_size` (for `NX_CRYPTO_DH_CALCULATE`) and its metadata. -/
structure OperationReturn where
  status : UInt32
  output : Nat → UInt8
  actualSize : Nat
  metadata : Metadata

/-- What the entry points of each method do. `init` is given the key, its size in bits and the
metadata area; `operation` the request, the old contents and the length of its output buffer, and
the metadata area; `cleanup` the metadata area. -/
structure CryptoProvider where
  init : NxCryptoMethod → List UInt8 → Nat → Metadata → InitReturn
  operation : NxCryptoMethod → Request → (Nat → UInt8) → Nat → Metadata → OperationReturn
  cleanup : NxCryptoMethod → Metadata → UInt32 × Metadata

-- ════════════════════════════════════════════════════════════════════════
-- Concrete methods and providers
-- ════════════════════════════════════════════════════════════════════════

/-- A method with all three entry points. -/
def fullMethod (algorithm : CryptoAlgorithm) : NxCryptoMethod := ⟨algorithm, true, true, true⟩

/-- A provider whose `init` and `cleanup` succeed, and whose `operation` answers with the status,
and the contents of its output buffer when there are any, that `answer` gives for its opcode; it
reports a 32-byte result. -/
def scriptedProvider (answer : Opcode → UInt32 × Option (Nat → UInt8)) : CryptoProvider where
  init _ _ _ md := ⟨0, 0, md⟩
  operation _ req old _ md := ⟨(answer req.op).1, (answer req.op).2.getD old, 32, md⟩
  cleanup _ md := (0, md)

end NxSecure
