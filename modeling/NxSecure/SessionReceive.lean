import NxSecure.Session

/-!
# `_nx_secure_tls_session_receive`

The receive path: one record fetch, then either the renegotiation handshake (followed by one
more fetch when the peer started it) or, while the fetches report post-handshake messages, more
fetches. `_nx_secure_tls_session_receive_records` and `_nx_secure_tls_handshake_process` are not
among the sources; a `ReceiveEnv` gives any sequence of their outcomes.

## Design notes

A fetch may raise `nx_secure_tls_renegotiation_handshake`; nothing but the receive path clears
it. The post-handshake loop runs as long as the fetches report post-handshake messages, so it
gets `fuel` iterations and gives `none` when they are spent. The packet a fetch hands back and
the wait option are left out: no branch of the function reads them.
-/

namespace NxSecure

/-- What one call of `_nx_secure_tls_session_receive_records` reports: its status, and whether
it raised `nx_secure_tls_renegotiation_handshake`. -/
structure RecordsOutcome where
  status : TlsStatus
  renegotiationHandshake : Bool

/-- The outcomes of the successive record fetches, and the status of the handshake. -/
structure ReceiveEnv where
  sessionReceiveRecords : Nat → RecordsOutcome
  handshakeProcess : TlsStatus

/-- The session, and how many record fetches have been made. -/
structure ReceiveState where
  session : Session
  fetches : Nat

/-- `nx_secure_tls_renegotiation_handshake = flag`. -/
def ReceiveState.setRenegotiationHandshake (st : ReceiveState) (flag : Bool) : ReceiveState :=
  { st with session := { st.session with renegotiationHandshake := flag } }

/-- `status = _nx_secure_tls_session_receive_records(tls_session, packet_ptr_ptr, wait_option)`. -/
def tlsSessionReceiveRecords (env : ReceiveEnv) (st : ReceiveState) : TlsStatus × ReceiveState :=
  let o := env.sessionReceiveRecords st.fetches
  (o.status,
    { st.setRenegotiationHandshake (st.session.renegotiationHandshake || o.renegotiationHandshake)
      with fetches := st.fetches + 1 })

/-- Lines 326-329: `while (status == NX_SECURE_TLS_POST_HANDSHAKE_RECEIVED)` fetch again, for at
most `fuel` iterations. -/
def postHandshakeLoop (env : ReceiveEnv) : (fuel : Nat) → TlsStatus → ReceiveState →
    Option (TlsStatus × ReceiveState)
  | fuel, status, st =>
    if status = .postHandshakeReceived then
      match fuel with
      | 0 => none
      | fuel + 1 =>
        let r := tlsSessionReceiveRecords env st
        postHandshakeLoop env fuel r.1 r.2
    else some (status, st)

/-- Lines 274-290: whether this side started the renegotiation in flight: a client that sent
its renegotiating hello, or a server that sent a HelloRequest. -/
def localInitiatedRenegotiation (cfg : Config) (s : Session) : Bool :=
  !cfg.disableSecureRenegotiation &&
    ((!cfg.clientDisabled && s.socketType = .client && s.clientState = .renegotiating) ||
      (!cfg.serverDisabled && s.socketType = .server && s.serverState = .helloRequest))

/-- `_nx_secure_tls_session_receive(tls_session, packet_ptr_ptr, wait_option)`. -/
def tlsSessionReceive (cfg : Config) (env : ReceiveEnv) (fuel : Nat) (st : ReceiveState) :
    Option (TlsStatus × ReceiveState) :=
  let localInitiated := localInitiatedRenegotiation cfg st.session
  let (status, st) := tlsSessionReceiveRecords env st
  if !cfg.disableSecureRenegotiation ∧ status = .success ∧ st.session.renegotiationHandshake then
    let st := st.setRenegotiationHandshake false
    let status := env.handshakeProcess
    if status ≠ .success then some (status, st)
    else if !localInitiated then some (tlsSessionReceiveRecords env st)
    else some (status, st)
  else if status = .postHandshakeReceived then postHandshakeLoop env fuel status st
  else some (status, st)

end NxSecure
