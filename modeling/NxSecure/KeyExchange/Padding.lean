import NxSecure.KeyExchange.Reads

/-!
# The pre-master secret of the RSA exchange

What the certificate branch stores as pre-master secret once the provider has decrypted the
client's block into `_nx_secure_client_padded_pre_master`. A block that passes the three-byte
PKCS#1 check gives the 48 bytes after the separator; a block that fails it gives 48 nonzero
bytes of `NX_RAND()`, drawn by the rejection loop of lines 522-531, which ends whenever the
random source keeps producing nonzero low bytes.

## Main definitions

- `emePkcs1Encode` — the EME-PKCS1-v1_5 encoding `0x00 0x02 || PS || 0x00 || M`
- `lowBytes`, `nonzeroLowBytes` — the low bytes of successive `NX_RAND()` values, and the nonzero
  ones among them
- `NonzeroRecurs` — the random source never stops producing nonzero low bytes

## Main results

- `randomPreMasterLoop_spec` — every run of the loop stores the nonzero low bytes of the values it
  drew, in order
- `randomPreMasterLoop_exists` — with `NonzeroRecurs`, enough fuel ends the loop
- `rsa_premaster_secret` — the pre-master secret the whole call stores, in both cases

## Design notes

The loop draws values until `n` of them have a nonzero low byte, so its result is described by
the number `N` of values drawn: the pre-master secret is then `nonzeroLowBytes rand pos N`, a list
of exactly 48 bytes. Termination is the existence of enough fuel; the description holds of every
fuel that ends the loop.
-/

namespace NxSecure

open Code

-- ════════════════════════════════════════════════════════════════════════
-- The random source
-- ════════════════════════════════════════════════════════════════════════

/-- The low bytes `(UCHAR)NX_RAND()` of the `n` values of the random source from the `pos`-th
on. -/
def lowBytes (rand : Nat → UInt32) (pos : Nat) : Nat → List UInt8
  | 0 => []
  | n + 1 => (rand pos).toUInt8 :: lowBytes rand (pos + 1) n

/-- The nonzero ones among them, in the order they were drawn. -/
def nonzeroLowBytes (rand : Nat → UInt32) (pos n : Nat) : List UInt8 :=
  (lowBytes rand pos n).filter (· ≠ 0)

/-- The random source keeps producing values whose low byte is not zero. -/
def NonzeroRecurs (rand : Nat → UInt32) : Prop := ∀ p, ∃ q, p ≤ q ∧ (rand q).toUInt8 ≠ 0

variable {rand : Nat → UInt32}

theorem lowBytes_add (pos a b : Nat) :
    lowBytes rand pos (a + b) = lowBytes rand pos a ++ lowBytes rand (pos + a) b := by
  induction a generalizing pos with
  | zero => simp [lowBytes]
  | succ a ih =>
    rw [Nat.add_right_comm, lowBytes, lowBytes, ih, Nat.add_right_comm pos, Nat.add_assoc pos]
    rfl

theorem nonzeroLowBytes_add (pos a b : Nat) :
    nonzeroLowBytes rand pos (a + b) =
      nonzeroLowBytes rand pos a ++ nonzeroLowBytes rand (pos + a) b := by
  simp only [nonzeroLowBytes, lowBytes_add, List.filter_append]

theorem ne_zero_of_mem_nonzeroLowBytes {pos n : Nat} {b : UInt8}
    (h : b ∈ nonzeroLowBytes rand pos n) : b ≠ 0 := by
  simpa [nonzeroLowBytes] using (List.mem_filter.mp h).2

-- ════════════════════════════════════════════════════════════════════════
-- The rejection loop
-- ════════════════════════════════════════════════════════════════════════

/-- One run of `do { rand_byte = (UCHAR)NX_RAND(); } while (rand_byte == 0);`: it draws `k`
values, and the byte it keeps is the only nonzero one among them. -/
theorem nxRandNonzero_spec {fuel pos pos' : Nat} {b : UInt8}
    (h : nxRandNonzero rand fuel pos = some (b, pos')) :
    ∃ k, pos' = pos + k ∧ nonzeroLowBytes rand pos k = [b] := by
  induction fuel generalizing pos with
  | zero => cases h
  | succ fuel ih =>
    unfold nxRandNonzero at h
    split_ifs at h with h0
    · obtain ⟨k, rfl, hk⟩ := ih h
      exact ⟨k + 1, by omega, by simpa [nonzeroLowBytes, lowBytes, h0] using hk⟩
    · cases h
      exact ⟨1, rfl, by simp [nonzeroLowBytes, lowBytes, h0]⟩

theorem nxRandNonzero_mono {fuel fuel' pos : Nat} {r : UInt8 × Nat}
    (h : nxRandNonzero rand fuel pos = some r) (hle : fuel ≤ fuel') :
    nxRandNonzero rand fuel' pos = some r := by
  induction fuel generalizing pos fuel' with
  | zero => cases h
  | succ fuel ih =>
    obtain ⟨fuel', rfl⟩ : ∃ f, fuel' = f + 1 := ⟨fuel' - 1, by omega⟩
    unfold nxRandNonzero at h ⊢
    split_ifs at h ⊢
    · exact ih h (by omega)
    · exact h

/-- The do-while loop ends at the first value with a nonzero low byte. -/
theorem nxRandNonzero_isSome {pos d : Nat} (hnz : (rand (pos + d)).toUInt8 ≠ 0) :
    ∃ r, nxRandNonzero rand (d + 1) pos = some r := by
  induction d generalizing pos with
  | zero => exact ⟨((rand pos).toUInt8, pos + 1), by simp_all [nxRandNonzero]⟩
  | succ d ih =>
    unfold nxRandNonzero
    split_ifs
    · exact ih (by rwa [Nat.add_right_comm, Nat.add_assoc])
    · exact ⟨_, rfl⟩

/-- The loop of lines 522-531 fills the pre-master secret from index `i` on with the nonzero low
bytes of the values it draws, and leaves the bytes before `i` alone. -/
theorem randomPreMasterLoop_spec {fuel n i pos pos' : Nat} {pms pms' : Nat → UInt8}
    (h : randomPreMasterLoop rand fuel n i pms pos = some (pms', pos')) :
    ∃ N, pos' = pos + N ∧ (List.range' i n).map pms' = nonzeroLowBytes rand pos N ∧
      ∀ k < i, pms' k = pms k := by
  induction n generalizing i pms pos with
  | zero =>
    cases h
    exact ⟨0, rfl, rfl, fun _ _ => rfl⟩
  | succ n ih =>
    unfold randomPreMasterLoop at h
    split at h
    · rename_i b q hr
      obtain ⟨k, rfl, hk⟩ := nxRandNonzero_spec hr
      obtain ⟨N, rfl, hl, hf⟩ := ih h
      have hi : pms' i = b := by simpa using hf i (Nat.lt_succ_self i)
      refine ⟨k + N, by omega, ?_, fun j hj => ?_⟩
      · rw [List.range'_succ, List.map_cons, hl, nonzeroLowBytes_add, hk, hi]
        rfl
      · rw [hf j (by omega), Function.update_noteq (by omega)]
    · cases h

theorem randomPreMasterLoop_mono {fuel fuel' n i pos : Nat} {pms : Nat → UInt8}
    {r : (Nat → UInt8) × Nat} (h : randomPreMasterLoop rand fuel n i pms pos = some r)
    (hle : fuel ≤ fuel') : randomPreMasterLoop rand fuel' n i pms pos = some r := by
  induction n generalizing i pms pos with
  | zero => exact h
  | succ n ih =>
    unfold randomPreMasterLoop at h ⊢
    split at h
    · rename_i b q hr
      rw [nxRandNonzero_mono hr hle]
      exact ih h
    · cases h

/-- **Termination**: when nonzero low bytes keep occurring, enough fuel ends the loop. -/
theorem randomPreMasterLoop_exists (hrand : NonzeroRecurs rand) (n i : Nat) (pms : Nat → UInt8)
    (pos : Nat) : ∃ fuel r, randomPreMasterLoop rand fuel n i pms pos = some r := by
  induction n generalizing i pms pos with
  | zero => exact ⟨0, _, rfl⟩
  | succ n ih =>
    obtain ⟨q, hq, hnz⟩ := hrand pos
    obtain ⟨⟨b, p⟩, hb⟩ := nxRandNonzero_isSome (d := q - pos) (by rwa [Nat.add_sub_cancel' hq])
    obtain ⟨fuel, r, hr⟩ := ih (i + 1) (Function.update pms i b) p
    refine ⟨max (q - pos + 1) fuel, r, ?_⟩
    rw [randomPreMasterLoop, nxRandNonzero_mono hb (Nat.le_max_left _ _)]
    exact randomPreMasterLoop_mono hr (Nat.le_max_right _ _)

-- ════════════════════════════════════════════════════════════════════════
-- The certificate branch after the decryption
-- ════════════════════════════════════════════════════════════════════════

/-- The first `n` bytes of `_nx_secure_client_padded_pre_master`. -/
def scratchBytes (g : Globals) (n : Nat) : List UInt8 :=
  (List.range n).map fun i : Nat => g.clientPaddedPreMaster i

/-- The EME-PKCS1-v1_5 encoding `0x00 0x02 || PS || 0x00 || M` of a message `M` with padding
string `PS`. -/
def emePkcs1Encode (ps msg : List UInt8) : List UInt8 := [0x00, 0x02] ++ ps ++ [0x00] ++ msg

/-- The pre-master secret bytes of a state, as far as a secret of the RSA exchange goes. -/
def premasterBytes (s : State) : List UInt8 :=
  (List.range tlsRsaPremasterSize).map s.session.keyMaterial.preMasterSecret

/-- The certificate branch as a whole: the decryption, then the padding check, the size and the
common exit, each from the state the one before left. -/
theorem tlsProcessClientKeyExchange_certificate {cfg : Config} {env : Env} {fuel : Nat}
    {m : Message} {cs : CiphersuiteInfo} {s : State}
    (hcs : s.session.sessionCiphersuite = some cs)
    (hbr : keyExchangeBranch cfg cs = .certificate) :
    tlsProcessClientKeyExchange cfg env fuel m s =
      match rsaDecryptPreMaster cfg env m cs s with
      | .next length s₁ =>
        match checkPadding env fuel length s₁ with
        | .next _ s₂ => commonExit cfg (s₂.setPreMasterSecretSize tlsRsaPremasterSize)
        | .ret status s₂ => .ret status s₂
        | .stuck => .stuck
      | .ret status s₁ => .ret status s₁
      | .stuck => .stuck := by
  simp only [tlsProcessClientKeyExchange, keyExchange, hbr, certificateKeyExchange, bind_apply,
    Code.get, ofOption, hcs]
  cases rsaDecryptPreMaster cfg env m cs s with
  | next length s₁ =>
    dsimp only
    cases checkPadding env fuel length s₁ <;> rfl
  | ret => rfl
  | stuck => rfl

/-- The common exit keeps the pre-master secret. -/
theorem commonExit_keyMaterial {cfg : Config} {s s' : State} {status : TlsStatus}
    (h : commonExit cfg s = .ret status s') :
    status = (if cfg.serverDisabled then .invalidState else .success) ∧
      s'.session.keyMaterial = s.session.keyMaterial := by
  rw [commonExit_eq] at h
  cases h
  refine ⟨rfl, ?_⟩
  split_ifs <;> simp

theorem emePkcs1Encode_eq (ps msg : List UInt8) :
    emePkcs1Encode ps msg = 0x00 :: 0x02 :: (ps ++ 0x00 :: msg) := by
  simp [emePkcs1Encode]

/-- The separator is the byte after the padding string. -/
theorem emePkcs1Encode_separator (ps msg : List UInt8) :
    (emePkcs1Encode ps msg)[ps.length + 2]? = some 0x00 := by
  rw [emePkcs1Encode_eq, List.getElem?_cons_succ, List.getElem?_cons_succ,
    List.getElem?_append_right (Nat.le_refl _), Nat.sub_self, List.getElem?_cons_zero]

/-- The message follows the separator. -/
theorem emePkcs1Encode_message (ps msg : List UInt8) (j : Nat) :
    (emePkcs1Encode ps msg)[ps.length + 3 + j]? = msg[j]? := by
  rw [emePkcs1Encode_eq, show ps.length + 3 + j = ps.length + (j + 1) + 1 + 1 by omega,
    List.getElem?_cons_succ, List.getElem?_cons_succ, List.getElem?_append_right (by omega),
    Nat.add_sub_cancel_left, List.getElem?_cons_succ]

/-- A block that is an EME-PKCS1-v1_5 encoding passes the check of lines 508-520, and the 48
bytes after its separator are `M`. The check never reads the padding string, so this holds of
every `PS`, the well-formed ones of at least eight nonzero bytes among them. -/
theorem emePkcs1Encode_passes {g : Globals} {length : Nat} {ps msg : List UInt8}
    (hmsg : msg.length = tlsRsaPremasterSize)
    (hB : scratchBytes g length = emePkcs1Encode ps msg) :
    ¬ PaddingRejected g.clientPaddedPreMaster (paddingIndex length) ∧
      (List.range tlsRsaPremasterSize).map
        (fun i : Nat => g.clientPaddedPreMaster (paddingIndex length + 1 + i)) = msg := by
  have hlen : length = ps.length + 51 := by
    have := congrArg List.length hB
    simp [scratchBytes, emePkcs1Encode, hmsg, tlsRsaPremasterSize] at this
    omega
  have hbyte : ∀ j < length, (emePkcs1Encode ps msg)[j]? = some (g.clientPaddedPreMaster j) :=
    fun j hj => by simp [← hB, scratchBytes, hj]
  have hidx : paddingIndex length = ((ps.length + 2 : Nat) : Int) := by
    simp only [paddingIndex, tlsRsaPremasterSize, hlen]
    omega
  have h0 : g.clientPaddedPreMaster 0 = 0 := by
    simpa [emePkcs1Encode_eq] using (hbyte 0 (by omega)).symm
  have h1 : g.clientPaddedPreMaster 1 = 2 := by
    simpa [emePkcs1Encode_eq] using (hbyte 1 (by omega)).symm
  have h2 : g.clientPaddedPreMaster ((ps.length + 2 : Nat) : Int) = 0 :=
    (Option.some.inj ((emePkcs1Encode_separator ps msg).symm.trans (hbyte _ (by omega)))).symm
  refine ⟨by rw [PaddingRejected, hidx, h0, h1, h2]; decide, List.ext_getElem? fun j => ?_⟩
  by_cases hj : j < tlsRsaPremasterSize
  · have hj48 : j < 48 := hj
    rw [List.getElem?_map, List.getElem?_range hj, Option.map_some',
      ← emePkcs1Encode_message ps msg, hbyte _ (by omega), hidx]
    congr 2
  · rw [List.getElem?_eq_none (by simpa using Nat.le_of_not_lt hj),
      List.getElem?_eq_none (by omega)]

-- ════════════════════════════════════════════════════════════════════════
-- The padding check
-- ════════════════════════════════════════════════════════════════════════

variable {env : Env} {fuel length : Nat} {s s' : State}

theorem premasterBytes_copyToPreMasterSecret (s : State) (f : Nat → UInt8) :
    premasterBytes (s.copyToPreMasterSecret f tlsRsaPremasterSize) =
      (List.range tlsRsaPremasterSize).map f :=
  List.map_congr_left fun _ hi => if_pos (List.mem_range.1 hi)

theorem ne_zero_of_premasterBytes {pos N i : Nat}
    (h : premasterBytes s = nonzeroLowBytes env.nxRand pos N) (hi : i < tlsRsaPremasterSize) :
    s.session.keyMaterial.preMasterSecret i ≠ 0 :=
  ne_zero_of_mem_nonzeroLowBytes (by rw [← h]; exact List.mem_map_of_mem _ (List.mem_range.2 hi))

/-- Every run of lines 522-531 that ends stores the nonzero low bytes of the values it drew. -/
theorem randomPreMasterSecret_next {u : Unit} (h : randomPreMasterSecret env fuel s = .next u s') :
    ∃ N, premasterBytes s' = nonzeroLowBytes env.nxRand s.globals.randDraws N := by
  unfold randomPreMasterSecret at h
  split at h
  · rename_i pms pos hl
    cases h
    obtain ⟨N, -, hN, -⟩ := randomPreMasterLoop_spec hl
    exact ⟨N, by simpa [premasterBytes, List.range_eq_range', State.setPreMasterSecret] using hN⟩
  · cases h

theorem randomPreMasterSecret_ne_ret {status : TlsStatus} :
    randomPreMasterSecret env fuel s ≠ .ret status s' := by
  unfold randomPreMasterSecret
  split <;> simp

theorem randomPreMasterSecret_exists (hrand : NonzeroRecurs env.nxRand) :
    ∃ fuel s', randomPreMasterSecret env fuel s = .next () s' := by
  obtain ⟨fuel, ⟨pms, pos⟩, h⟩ := randomPreMasterLoop_exists hrand tlsRsaPremasterSize 0
    s.session.keyMaterial.preMasterSecret s.globals.randDraws
  exact ⟨fuel, _, by rw [randomPreMasterSecret, h]⟩

/-- The check never returns to the caller: the countermeasure reveals no failure. -/
theorem checkPadding_ne_ret {status : TlsStatus} :
    checkPadding env fuel length s ≠ .ret status s' := by
  rw [checkPadding_eq]
  dsimp only
  split_ifs
  · exact randomPreMasterSecret_ne_ret
  · simp

/-- A block that passes the check gives the 48 bytes after its separator. -/
theorem checkPadding_accepted (env : Env) (fuel : Nat)
    (h : ¬ PaddingRejected s.globals.clientPaddedPreMaster (paddingIndex length)) :
    ∃ s', checkPadding env fuel length s = .next () s' ∧
      premasterBytes s' = (List.range tlsRsaPremasterSize).map
        fun i : Nat => s.globals.clientPaddedPreMaster (paddingIndex length + 1 + i) :=
  ⟨_, by rw [checkPadding_eq]; exact if_neg h, premasterBytes_copyToPreMasterSecret _ _⟩

/-- A block that fails the check gives nonzero random bytes, whenever the loop ends. -/
theorem checkPadding_rejected {u : Unit}
    (h : PaddingRejected s.globals.clientPaddedPreMaster (paddingIndex length))
    (hc : checkPadding env fuel length s = .next u s') :
    ∃ N, premasterBytes s' = nonzeroLowBytes env.nxRand s.globals.randDraws N := by
  simp only [checkPadding_eq, h, if_true] at hc
  obtain ⟨N, hN⟩ := randomPreMasterSecret_next hc
  exact ⟨N, hN⟩

/-- With a random source that keeps producing nonzero low bytes, enough fuel ends the check. -/
theorem checkPadding_rejected_exists (h : PaddingRejected s.globals.clientPaddedPreMaster
      (paddingIndex length)) (hrand : NonzeroRecurs env.nxRand) :
    ∃ fuel s', checkPadding env fuel length s = .next () s' := by
  obtain ⟨fuel, s', hs'⟩ := randomPreMasterSecret_exists (s := { s with
    trace := s.trace ++ paddingReads s.globals.clientPaddedPreMaster (paddingIndex length) })
    hrand
  exact ⟨fuel, s', by rw [checkPadding_eq]; simpa only [h, if_true] using hs'⟩

-- ════════════════════════════════════════════════════════════════════════
-- The whole call
-- ════════════════════════════════════════════════════════════════════════

section Call

variable {cfg : Config} {m : Message} {cs : CiphersuiteInfo} {s₀ s₁ : State}

/-- Once the decryption has fallen through, the call returns exactly when the padding check
falls through, and then through the common exit. -/
theorem certificate_ret_iff (hcs : s₀.session.sessionCiphersuite = some cs)
    (hbr : keyExchangeBranch cfg cs = .certificate)
    (hdec : rsaDecryptPreMaster cfg env m cs s₀ = .next length s₁) {status : TlsStatus} :
    tlsProcessClientKeyExchange cfg env fuel m s₀ = .ret status s' ↔
      ∃ s₂, checkPadding env fuel length s₁ = .next () s₂ ∧
        commonExit cfg (s₂.setPreMasterSecretSize tlsRsaPremasterSize) = .ret status s' := by
  simp only [tlsProcessClientKeyExchange_certificate hcs hbr, hdec]
  cases hc : checkPadding env fuel length s₁ with
  | next u s₂ => exact ⟨fun h => ⟨s₂, rfl, h⟩, fun ⟨_, h₂, h⟩ => by cases h₂; exact h⟩
  | ret st s₂ => exact absurd hc checkPadding_ne_ret
  | stuck => simp

/-- A return of the call stores what the padding check stored, with size 48. -/
theorem certificate_ret (hcs : s₀.session.sessionCiphersuite = some cs)
    (hbr : keyExchangeBranch cfg cs = .certificate)
    (hdec : rsaDecryptPreMaster cfg env m cs s₀ = .next length s₁) {status : TlsStatus}
    (h : tlsProcessClientKeyExchange cfg env fuel m s₀ = .ret status s') :
    ∃ s₂, checkPadding env fuel length s₁ = .next () s₂ ∧
      status = (if cfg.serverDisabled then .invalidState else .success) ∧
      premasterBytes s' = premasterBytes s₂ ∧
      s'.session.keyMaterial.preMasterSecretSize = tlsRsaPremasterSize := by
  obtain ⟨s₂, hc, hexit⟩ := (certificate_ret_iff hcs hbr hdec).1 h
  obtain ⟨hst, hkm⟩ := commonExit_keyMaterial hexit
  exact ⟨s₂, hc, hst, by simp [premasterBytes, hkm, State.setPreMasterSecretSize],
    by simp [hkm, State.setPreMasterSecretSize]⟩

/-- **The pre-master secret of the RSA exchange.** Once the provider has decrypted a block of
`length` bytes into `_nx_secure_client_padded_pre_master`: a block `0x00 0x02 || PS || 0x00 || M`
makes every run return with `M` as pre-master secret; a block that fails the three-byte check
makes the call return, when the random source keeps producing nonzero low bytes, and every
return stores the nonzero low bytes of the values drawn from the call's position on, 48 of them.
Either way the size is 48 and the status that of the common exit. -/
theorem rsa_premaster_secret {session : Session} {globals : Globals}
    (hcs : session.sessionCiphersuite = some cs) (hbr : keyExchangeBranch cfg cs = .certificate)
    (hdec : rsaDecryptPreMaster cfg env m cs ⟨session, globals, []⟩ = .next length s₁) :
    (∀ ps msg, msg.length = tlsRsaPremasterSize →
      scratchBytes s₁.globals length = emePkcs1Encode ps msg →
      ∀ fuel, ∃ s, tlsProcessClientKeyExchange cfg env fuel m ⟨session, globals, []⟩ =
          .ret (if cfg.serverDisabled then .invalidState else .success) s ∧
        premasterBytes s = msg ∧
        s.session.keyMaterial.preMasterSecretSize = tlsRsaPremasterSize) ∧
    (PaddingRejected s₁.globals.clientPaddedPreMaster (paddingIndex length) →
      NonzeroRecurs env.nxRand →
      (∃ s, Returns cfg env m session globals
        (if cfg.serverDisabled then .invalidState else .success) s) ∧
      ∀ status s, Returns cfg env m session globals status s →
        status = (if cfg.serverDisabled then .invalidState else .success) ∧
        (∃ N, premasterBytes s = nonzeroLowBytes env.nxRand s₁.globals.randDraws N) ∧
        (∀ i < tlsRsaPremasterSize, s.session.keyMaterial.preMasterSecret i ≠ 0) ∧
        s.session.keyMaterial.preMasterSecretSize = tlsRsaPremasterSize) := by
  refine ⟨fun ps msg hmsg hB fuel => ?accepted, fun hrej hrand => ⟨?terminates, ?random⟩⟩
  case accepted =>
    obtain ⟨hpass, hbytes⟩ := emePkcs1Encode_passes hmsg hB
    obtain ⟨s₂, hc, hpms⟩ := checkPadding_accepted env fuel hpass
    obtain ⟨s, hrun⟩ : ∃ s, tlsProcessClientKeyExchange cfg env fuel m ⟨session, globals, []⟩ =
        .ret (if cfg.serverDisabled then .invalidState else .success) s :=
      ⟨_, (certificate_ret_iff hcs hbr hdec).2 ⟨s₂, hc, commonExit_eq⟩⟩
    obtain ⟨s₂', hc', -, hs, hsize⟩ := certificate_ret hcs hbr hdec hrun
    cases hc.symm.trans hc'
    exact ⟨s, hrun, hs.trans (hpms.trans hbytes), hsize⟩
  case terminates =>
    obtain ⟨fuel, s₂, hc⟩ := checkPadding_rejected_exists hrej hrand
    exact ⟨_, fuel, (certificate_ret_iff hcs hbr hdec).2 ⟨s₂, hc, commonExit_eq⟩⟩
  case random =>
    rintro status s ⟨fuel, hrun⟩
    obtain ⟨s₂, hc, hst, hs, hsize⟩ := certificate_ret hcs hbr hdec hrun
    obtain ⟨N, hN⟩ := checkPadding_rejected hrej hc
    exact ⟨hst, ⟨N, hs.trans hN⟩, fun i hi => ne_zero_of_premasterBytes (hs.trans hN) hi, hsize⟩

theorem rsa_premaster_secret_zero_block :
    ∃ s₁, rsaDecryptPreMaster serverBuild zeroBlockEnv shortCiphertext rsaSuite
        ⟨userKeySession, startGlobals, []⟩ = .next 10 s₁ ∧
      (∃ s, Returns serverBuild zeroBlockEnv shortCiphertext userKeySession startGlobals
        .success s) ∧
      ∀ status s, Returns serverBuild zeroBlockEnv shortCiphertext userKeySession startGlobals
          status s →
        status = .success ∧
          ∀ i < tlsRsaPremasterSize, s.session.keyMaterial.preMasterSecret i ≠ 0 := by
  refine ⟨_, rfl, ?_⟩
  obtain ⟨hret, hall⟩ := (rsa_premaster_secret
    (show userKeySession.sessionCiphersuite = some rsaSuite from rfl)
    (show keyExchangeBranch serverBuild rsaSuite = .certificate from rfl)
    (show rsaDecryptPreMaster serverBuild zeroBlockEnv shortCiphertext rsaSuite
      ⟨userKeySession, startGlobals, []⟩ = .next 10 _ from rfl)).2 (by decide) fun p =>
    ⟨p, Nat.le_refl p, show (1 : UInt32).toUInt8 ≠ 0 by decide⟩
  exact ⟨hret, fun status s h => ⟨(hall status s h).1, (hall status s h).2.2.1⟩⟩

end Call

end NxSecure
