import NxSecure.KeyExchange.Padding
import NxSecure.KeyExchange.Frame

/-!
# What a call draws from `NX_RAND()`

Besides the scratch buffer, a call shares the stream of `NX_RAND()` with every other call. It
draws from it only in the loop of lines 522-531, which runs once the check of lines 508-520 has
failed: the number of values drawn tells a block that fails the check from one that passes it,
although the status, the session and the buffer do not (`decrypted_block_oblivious`).

## Main definitions

- `RejectsPadding` — a call whose decrypted block fails the padding check

## Main results

- `randDraws_frame` — every statement but the rejection loop keeps the number of values drawn,
  so that the chains of `NxSecure.KeyExchange.Frame` apply
- `ret_keeps_draws_or_rejected` — a return draws nothing, or went through the rejection loop
- `rand_drawn_only_on_rejection` — a call draws from `NX_RAND()` exactly when the padding check
  rejects the block, and then at least 48 values
-/

namespace NxSecure

open Code

/-- An operation may write the buffer, but draws nothing. -/
@[simp] theorem State.afterOperation_randDraws (s : State) (env : Env) (method : NxCryptoMethod)
    (area : MetadataArea) (req : Request) (out : Output) :
    (s.afterOperation env method area req out).globals.randDraws = s.globals.randDraws := by
  cases out <;> simp [State.afterOperation, State.storeOutput]

variable {cfg : Config} {env : Env} {fuel : Nat} {m : Message} {cs : CiphersuiteInfo}
  {method : NxCryptoMethod} {n : Nat}

-- ════════════════════════════════════════════════════════════════════════
-- The statements but the rejection loop
-- ════════════════════════════════════════════════════════════════════════

/-- Every statement of the call but the rejection loop keeps the number of values drawn. -/
theorem randDraws_frame (n : Nat) : Frame (·.globals.randDraws = n) where
  trace _ _ := id
  setKeyMaterial _ _ := id
  afterInit _ _ _ _ _ := id
  afterOperation s _ _ _ _ _ h := (s.afterOperation_randDraws ..).trans h
  afterCleanup _ _ _ _ h := by simpa using h
  clearScratch _ := id

/-- The common exit draws nothing. -/
theorem commonExit_randDraws {Q : Unit → State → Prop} :
    Triple (·.globals.randDraws = n) (commonExit cfg) Q (fun _ s => s.globals.randDraws = n) := by
  intro s h
  rw [wp_commonExit]
  split_ifs <;> exact h

-- ════════════════════════════════════════════════════════════════════════
-- The rejection loop
-- ════════════════════════════════════════════════════════════════════════

theorem lowBytes_length (rand : Nat → UInt32) (pos n : Nat) : (lowBytes rand pos n).length = n := by
  induction n generalizing pos with
  | zero => rfl
  | succ n ih => simp [lowBytes, ih]

/-- The loop draws at least one value per byte of the pre-master secret. -/
theorem randomPreMasterSecret_draws {s s' : State} {u : Unit}
    (h : randomPreMasterSecret env fuel s = .next u s') :
    s.globals.randDraws + tlsRsaPremasterSize ≤ s'.globals.randDraws := by
  unfold randomPreMasterSecret at h
  split at h
  · rename_i pms pos hl
    cases h
    obtain ⟨N, rfl, hN, -⟩ := randomPreMasterLoop_spec hl
    have hlen := congrArg List.length hN
    simp only [List.length_map, List.length_range'] at hlen
    have hle : (nonzeroLowBytes env.nxRand s.globals.randDraws N).length ≤ N := by
      have := List.length_filter_le (fun b : UInt8 => decide (b ≠ 0))
        (lowBytes env.nxRand s.globals.randDraws N)
      rwa [lowBytes_length] at this
    simp only [State.setRandDraws]
    omega
  · cases h

/-- The padding check draws from `NX_RAND()` exactly when it rejects the block, at least one value
per byte of the pre-master secret. -/
theorem checkPadding_draws {length : Nat} {s s' : State} {u : Unit}
    (h : checkPadding env fuel length s = .next u s') :
    (PaddingRejected s.globals.clientPaddedPreMaster (paddingIndex length) →
        s.globals.randDraws + tlsRsaPremasterSize ≤ s'.globals.randDraws) ∧
      (¬PaddingRejected s.globals.clientPaddedPreMaster (paddingIndex length) →
        s'.globals.randDraws = s.globals.randDraws) := by
  rw [checkPadding_eq] at h
  dsimp only at h
  split_ifs at h with hrej
  · exact ⟨fun _ => (randomPreMasterSecret_draws h :), fun h => absurd hrej h⟩
  · cases h
    exact ⟨fun h => absurd h hrej, fun _ => rfl⟩

-- ════════════════════════════════════════════════════════════════════════
-- The whole call
-- ════════════════════════════════════════════════════════════════════════

/-- The call from `s₀` takes the certificate branch, its decryption falls through, and the
padding check rejects the block: the one case in which the rejection loop runs. -/
def RejectsPadding (cfg : Config) (env : Env) (m : Message) (s₀ : State) : Prop :=
  ∃ cs length s₁, s₀.session.sessionCiphersuite = some cs ∧
    keyExchangeBranch cfg cs = .certificate ∧
    rsaDecryptPreMaster cfg env m cs s₀ = .next length s₁ ∧
    PaddingRejected s₁.globals.clientPaddedPreMaster (paddingIndex length)

/-- A return of the certificate branch after the decryption. -/
theorem certificate_ret_draws {s₀ s₁ s : State} {length : Nat} {status : TlsStatus}
    (hcs : s₀.session.sessionCiphersuite = some cs) (hbr : keyExchangeBranch cfg cs = .certificate)
    (hD : rsaDecryptPreMaster cfg env m cs s₀ = .next length s₁)
    (h : tlsProcessClientKeyExchange cfg env fuel m s₀ = .ret status s) :
    (PaddingRejected s₁.globals.clientPaddedPreMaster (paddingIndex length) →
        s₀.globals.randDraws + tlsRsaPremasterSize ≤ s.globals.randDraws) ∧
      (¬PaddingRejected s₁.globals.clientPaddedPreMaster (paddingIndex length) →
        s.globals.randDraws = s₀.globals.randDraws) := by
  obtain ⟨s₂, hc, he⟩ := (certificate_ret_iff hcs hbr hD).1 h
  have h₁ : s₁.globals.randDraws = s₀.globals.randDraws :=
    wp_next hD (rsaDecryptPreMaster_keeps (randDraws_frame _) s₀ rfl)
  have hexit : s.globals.randDraws = s₂.globals.randDraws :=
    wp_ret he (commonExit_randDraws (Q := fun _ _ => True) _ rfl)
  obtain ⟨hrej, hacc⟩ := checkPadding_draws hc
  refine ⟨fun hr => ?_, fun hr => by rw [hexit, hacc hr, h₁]⟩
  calc s₀.globals.randDraws + tlsRsaPremasterSize
      = s₁.globals.randDraws + tlsRsaPremasterSize := by rw [h₁]
    _ ≤ s₂.globals.randDraws := hrej hr
    _ = s.globals.randDraws := hexit.symm

/-- **A return draws nothing, or went through the rejection loop.** Either the padding check did
not reject a decrypted block, and the return drew no value from `NX_RAND()`; or it did, and the
return drew at least 48. -/
theorem ret_keeps_draws_or_rejected {s₀ s : State} {status : TlsStatus}
    (h : tlsProcessClientKeyExchange cfg env fuel m s₀ = .ret status s) :
    (¬RejectsPadding cfg env m s₀ ∧ s.globals.randDraws = s₀.globals.randDraws) ∨
      (RejectsPadding cfg env m s₀ ∧
        s₀.globals.randDraws + tlsRsaPremasterSize ≤ s.globals.randDraws) := by
  by_cases hr : RejectsPadding cfg env m s₀
  · obtain ⟨cs, length, s₁, hcs, hbr, hD, hrej⟩ := hr
    exact .inr ⟨⟨cs, length, s₁, hcs, hbr, hD, hrej⟩, (certificate_ret_draws hcs hbr hD h).1 hrej⟩
  refine .inl ⟨hr, ?_⟩
  cases hcs : s₀.session.sessionCiphersuite with
  | none =>
    rw [tlsProcessClientKeyExchange_none hcs] at h
    cases h
    rfl
  | some cs =>
    by_cases hbr : keyExchangeBranch cfg cs = .certificate
    · cases hD : rsaDecryptPreMaster cfg env m cs s₀ with
      | next length s₁ =>
        exact (certificate_ret_draws hcs hbr hD h).2 fun hrej =>
          hr ⟨cs, length, s₁, hcs, hbr, hD, hrej⟩
      | ret =>
        rw [tlsProcessClientKeyExchange_certificate hcs hbr, hD] at h
        cases h
        exact wp_ret hD (rsaDecryptPreMaster_keeps (randDraws_frame _) s₀ rfl)
      | stuck =>
        rw [tlsProcessClientKeyExchange_certificate hcs hbr, hD] at h
        cases h
    · exact wp_ret h (tlsProcessClientKeyExchange_triple
        (keyExchange_keeps_of_ne (randDraws_frame _) hbr)
        (commonExit_randDraws (Q := fun _ _ => True)) _ ⟨rfl, hcs⟩)

/-- **`NX_RAND()` is drawn only when the padding check fails.** A call whose decrypted block the
check of lines 508-520 rejects draws at least 48 values; every other call draws none. -/
theorem rand_drawn_only_on_rejection {session : Session} {globals : Globals}
    {status : TlsStatus} {s : State} (h : Returns cfg env m session globals status s) :
    (RejectsPadding cfg env m ⟨session, globals, []⟩ →
      globals.randDraws + tlsRsaPremasterSize ≤ s.globals.randDraws) ∧
    (¬RejectsPadding cfg env m ⟨session, globals, []⟩ →
      s.globals.randDraws = globals.randDraws) := by
  obtain ⟨fuel, h⟩ := h
  rcases ret_keeps_draws_or_rejected h with ⟨hnr, hd⟩ | ⟨hr, hdraws⟩
  · exact ⟨fun hr => absurd hr hnr, fun _ => hd⟩
  · exact ⟨fun _ => hdraws, fun hnr => absurd hr hnr⟩

/-- The all-zero block fails the check, and the call draws 48 values or more. -/
theorem rand_drawn_only_on_rejection_zero_block :
    ∃ s, Returns serverBuild zeroBlockEnv shortCiphertext userKeySession startGlobals .success s ∧
      startGlobals.randDraws + tlsRsaPremasterSize ≤ s.globals.randDraws := by
  obtain ⟨s, h⟩ : ∃ s, Returns serverBuild zeroBlockEnv shortCiphertext userKeySession
      startGlobals .success s := ⟨_, 1, rfl⟩
  exact ⟨s, h, (rand_drawn_only_on_rejection h).1 ⟨rsaSuite, 10, _, rfl, rfl, rfl, by decide⟩⟩

end NxSecure
