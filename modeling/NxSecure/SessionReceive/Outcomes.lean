import NxSecure.SessionReceive

/-!
# What `_nx_secure_tls_session_receive` returns

The post-handshake loop consumes every `NX_SECURE_TLS_POST_HANDSHAKE_RECEIVED` a fetch reports and
stops at the first other status. But after a renegotiation started by the peer, the function makes
one more fetch and returns its outcome as it is: a post-handshake message, or another
renegotiation request, reaches the caller unprocessed.

## Main results

- `receive_consumes_post_handshake` — consecutive post-handshake outcomes are all consumed, and the
  call returns the first other status
- `receive_nonterminal_outcomes` — `NX_SECURE_TLS_POST_HANDSHAKE_RECEIVED`, or `NX_SUCCESS` with the
  renegotiation indicator raised, is returned only in the cases listed there
- `follow_up_fetch_returns_post_handshake` — the follow-up fetch of a renegotiation started by
  the peer returns a post-handshake message to the caller
-/

namespace NxSecure

variable {cfg : Config} {env : ReceiveEnv} {st st' : ReceiveState} {status r : TlsStatus}

@[simp] theorem tlsSessionReceiveRecords_fetches :
    (tlsSessionReceiveRecords env st).2.fetches = st.fetches + 1 := rfl

@[simp] theorem tlsSessionReceiveRecords_status :
    (tlsSessionReceiveRecords env st).1 = (env.sessionReceiveRecords st.fetches).status := rfl

theorem postHandshakeLoop_of_ne {fuel : Nat} (h : status ≠ .postHandshakeReceived) :
    postHandshakeLoop env fuel status st = some (status, st) := by
  cases fuel <;> simp [postHandshakeLoop, h]

theorem postHandshakeLoop_succ {fuel : Nat} :
    postHandshakeLoop env (fuel + 1) .postHandshakeReceived st =
      postHandshakeLoop env fuel (tlsSessionReceiveRecords env st).1
        (tlsSessionReceiveRecords env st).2 := by
  rw [postHandshakeLoop]
  simp

/-- The loop returns no post-handshake status. -/
theorem postHandshakeLoop_ne {fuel : Nat}
    (h : postHandshakeLoop env fuel status st = some (r, st')) : r ≠ .postHandshakeReceived := by
  induction fuel generalizing status st with
  | zero =>
    unfold postHandshakeLoop at h
    split_ifs at h with hs
    cases h
    exact hs
  | succ fuel ih =>
    unfold postHandshakeLoop at h
    split_ifs at h with hs
    · exact ih h
    · cases h
      exact hs

/-- **The loop consumes consecutive post-handshake outcomes.** If the next `k` fetches report
post-handshake messages and the one after reports `r`, the loop, given more than `k` iterations,
returns `r` after `k + 1` fetches. -/
theorem postHandshakeLoop_consumes {fuel k : Nat}
    (hpost : ∀ j < k, (env.sessionReceiveRecords (st.fetches + j)).status = .postHandshakeReceived)
    (hr : (env.sessionReceiveRecords (st.fetches + k)).status = r)
    (hne : r ≠ .postHandshakeReceived) (hfuel : k < fuel) :
    ∃ st', postHandshakeLoop env fuel .postHandshakeReceived st = some (r, st') ∧
      st'.fetches = st.fetches + k + 1 := by
  induction k generalizing st fuel with
  | zero =>
    obtain ⟨fuel, rfl⟩ : ∃ f, fuel = f + 1 := ⟨fuel - 1, by omega⟩
    refine ⟨(tlsSessionReceiveRecords env st).2, ?_, rfl⟩
    rw [postHandshakeLoop_succ, tlsSessionReceiveRecords_status, ← Nat.add_zero st.fetches, hr,
      postHandshakeLoop_of_ne hne]
  | succ k ih =>
    obtain ⟨fuel, rfl⟩ : ∃ f, fuel = f + 1 := ⟨fuel - 1, by omega⟩
    have h0 : (env.sessionReceiveRecords st.fetches).status = .postHandshakeReceived :=
      hpost 0 (by omega)
    obtain ⟨st', hloop, hfetch⟩ : ∃ st', postHandshakeLoop env fuel .postHandshakeReceived
        (tlsSessionReceiveRecords env st).2 = some (r, st') ∧
        st'.fetches = (tlsSessionReceiveRecords env st).2.fetches + k + 1 := ih
      (fun j hj => by simpa [Nat.add_assoc, Nat.add_comm 1] using hpost (j + 1) (by omega))
      (by simpa [Nat.add_assoc, Nat.add_comm 1] using hr) (by omega)
    refine ⟨st', ?_, by simp at hfetch; omega⟩
    rwa [postHandshakeLoop_succ, tlsSessionReceiveRecords_status, h0]

/-- **Post-handshake messages are consumed.** If the first `k + 1` fetches of a call report
post-handshake messages and the next reports `r`, the call, given more than `k` iterations of its
loop, returns `r` after `k + 2` fetches. -/
theorem receive_consumes_post_handshake {fuel k : Nat}
    (hpost : ∀ j ≤ k, (env.sessionReceiveRecords (st.fetches + j)).status = .postHandshakeReceived)
    (hr : (env.sessionReceiveRecords (st.fetches + k + 1)).status = r)
    (hne : r ≠ .postHandshakeReceived) (hfuel : k < fuel) :
    ∃ st', tlsSessionReceive cfg env fuel st = some (r, st') ∧
      st'.fetches = st.fetches + k + 2 := by
  have h0 : (env.sessionReceiveRecords st.fetches).status = .postHandshakeReceived :=
    hpost 0 (by omega)
  obtain ⟨st', hloop, hfetch⟩ : ∃ st', postHandshakeLoop env fuel .postHandshakeReceived
      (tlsSessionReceiveRecords env st).2 = some (r, st') ∧
      st'.fetches = (tlsSessionReceiveRecords env st).2.fetches + k + 1 :=
    postHandshakeLoop_consumes
      (fun j hj => by simpa [Nat.add_assoc, Nat.add_comm 1] using hpost (j + 1) (by omega))
      (by simpa [Nat.add_assoc, Nat.add_comm 1] using hr) hne hfuel
  refine ⟨st', ?_, by simp at hfetch; omega⟩
  simp [tlsSessionReceive, h0, hloop]

/-- Three post-handshake messages, then data. -/
def threePostHandshake : ReceiveEnv where
  sessionReceiveRecords n := if n < 3 then ⟨.postHandshakeReceived, false⟩ else ⟨.success, false⟩
  handshakeProcess := .success

/-- Three post-handshake messages are consumed in four fetches. -/
theorem receive_consumes_three_post_handshake :
    ∃ st', tlsSessionReceive serverBuild threePostHandshake 3 ⟨serverSession ecdheSuite [], 0⟩ =
      some (.success, st') ∧ st'.fetches = 0 + 2 + 2 :=
  receive_consumes_post_handshake (k := 2)
    (fun j hj => by simp [threePostHandshake, show j < 3 by omega]) rfl (by decide) (by decide)

-- ════════════════════════════════════════════════════════════════════════
-- Outcomes that are not terminal
-- ════════════════════════════════════════════════════════════════════════

/-- **When the outcome is not terminal.** `_nx_secure_tls_session_receive` returns
`NX_SECURE_TLS_POST_HANDSHAKE_RECEIVED` only after processing a renegotiation: its first fetch
succeeded with the indicator raised, secure renegotiation is built in, and either
`_nx_secure_tls_handshake_process` reported it, or the handshake succeeded, the peer started the
renegotiation, and the follow-up fetch reported it. It returns `NX_SUCCESS` with the indicator
raised only in a build without secure renegotiation, after the post-handshake loop, or when the
follow-up fetch of a renegotiation started by the peer raised it. -/
theorem receive_nonterminal_outcomes {fuel : Nat}
    (h : tlsSessionReceive cfg env fuel st = some (status, st')) :
    (status = .postHandshakeReceived →
      cfg.disableSecureRenegotiation = false ∧
      (env.sessionReceiveRecords st.fetches).status = .success ∧
      (st.session.renegotiationHandshake ||
        (env.sessionReceiveRecords st.fetches).renegotiationHandshake) = true ∧
      (env.handshakeProcess = .postHandshakeReceived ∨
        (env.handshakeProcess = .success ∧ localInitiatedRenegotiation cfg st.session = false ∧
          (env.sessionReceiveRecords (st.fetches + 1)).status = .postHandshakeReceived))) ∧
    (status = .success → st'.session.renegotiationHandshake = true →
      cfg.disableSecureRenegotiation = true ∨
      (env.sessionReceiveRecords st.fetches).status = .postHandshakeReceived ∨
      (env.handshakeProcess = .success ∧ localInitiatedRenegotiation cfg st.session = false ∧
        (env.sessionReceiveRecords (st.fetches + 1)).renegotiationHandshake = true)) := by
  simp only [tlsSessionReceive, tlsSessionReceiveRecords, ReceiveState.setRenegotiationHandshake]
    at h
  split_ifs at h with hren hhs hloc hpost
  · -- the handshake failed: its status is returned
    cases h
    simp_all
  · -- a renegotiation started by the peer: the follow-up fetch is returned
    cases h
    simp_all
  · -- a renegotiation started here
    cases h
    simp_all
  · -- the post-handshake loop
    exact ⟨fun hs => absurd hs (postHandshakeLoop_ne h), fun _ _ => .inr (.inl hpost)⟩
  · -- the first fetch is returned
    cases h
    refine ⟨fun hs => absurd hs hpost, fun hs hflag => .inl ?_⟩
    simp only at hflag
    simpa [hs, hflag] using hren

/-- The peer starts a renegotiation, and a post-handshake message follows the handshake. -/
def renegotiationThenPost : ReceiveEnv where
  sessionReceiveRecords n := if n = 0 then ⟨.success, true⟩ else ⟨.postHandshakeReceived, false⟩
  handshakeProcess := .success

/-- A renegotiation started by the peer, whose follow-up fetch reports a post-handshake message. -/
theorem receive_nonterminal_outcomes_remote :
    ∃ st', tlsSessionReceive serverBuild renegotiationThenPost 0 ⟨serverSession ecdheSuite [], 0⟩ =
      some (.postHandshakeReceived, st') ∧
      (renegotiationThenPost.handshakeProcess = .postHandshakeReceived ∨
        (renegotiationThenPost.handshakeProcess = .success ∧
          localInitiatedRenegotiation serverBuild (serverSession ecdheSuite []) = false ∧
          (renegotiationThenPost.sessionReceiveRecords 1).status = .postHandshakeReceived)) := by
  obtain ⟨st', h⟩ : ∃ st', tlsSessionReceive serverBuild renegotiationThenPost 0
      ⟨serverSession ecdheSuite [], 0⟩ = some (.postHandshakeReceived, st') := ⟨_, rfl⟩
  exact ⟨st', h, ((receive_nonterminal_outcomes h).1 rfl).2.2.2⟩

/-- **The follow-up fetch is not processed.** After a renegotiation started by the peer, the
fetch that follows the handshake reports a post-handshake message, and the call returns it. -/
theorem follow_up_fetch_returns_post_handshake :
    ∃ st', tlsSessionReceive serverBuild renegotiationThenPost 0 ⟨serverSession ecdheSuite [], 0⟩ =
      some (.postHandshakeReceived, st') :=
  ⟨_, rfl⟩

end NxSecure
