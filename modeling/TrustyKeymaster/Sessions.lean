/-
  Trusty Keymaster formalization — the hardware key sessions over a run of the context.

  `DeriveMasterKey` opens a session with `hwkey_open` and reaches `hwkey_close` only after
  `hwkey_derive` has succeeded; the allocation and derivation failures return with the
  session open. The key-blob methods reach `DeriveMasterKey` through `CreateKeyBlob`,
  `ParseKeyBlob`, `UpgradeKeyBlob` and `UnwrapKey`.

  * `Call.derivations` lists the `DeriveMasterKey` calls one call makes, each with its hwkey
    outcome, and `runSessions` counts the sessions open after a run;
  * `step_fault_of_derivation_error`: a call whose derivation fails returns that status, so a
    session is left open only on a failing call;
  * `runSessions_eq`: after any run, the sessions open are those open before it plus one for
    each `DeriveMasterKey` call of the run that opened a session and failed;
  * `runSessions_le_failures`: a call leaves at most one session open, and only when it fails,
    so the sessions a run leaves open are at most its failed calls.
-/
import TrustyKeymaster.Machine

namespace TrustyKeymaster

/-! ## The `DeriveMasterKey` calls of a run -/

section
variable (cfg : BuildConfig) (w : Nat) (env : Collaborators)

/-- The hwkey outcomes of the `DeriveMasterKey` calls a call makes, in order. -/
def Call.derivations (c : Context) : Call → List HwkeyOutcome
  | .createKeyBlob keyDescription origin _ o _ =>
    createKeyBlobDerivations cfg c keyDescription origin o
  | .parseKeyBlob blob _ _ o => parseKeyBlobDerivations env.lib blob o
  | .upgradeKeyBlob keyToUpgrade upgradeParams oParse oCreate _ =>
    upgradeKeyBlobDerivations env.lib cfg c keyToUpgrade upgradeParams oParse oCreate
  | .unwrapKey _ wrappingKeyBlob _ _ out o _ => unwrapKeyDerivations env.lib wrappingKeyBlob out o
  | _ => []

/-- The hwkey sessions open after a sequence of `DeriveMasterKey` calls, from `sessions` open
    before it. -/
def derivationSessions (os : List HwkeyOutcome) (sessions : Nat) : Nat :=
  os.foldl (fun sessions o => deriveMasterKeySessions o sessions) sessions

/-- The hwkey sessions open after a run, from `sessions` open before it. -/
def runSessions (c : Context) (sessions : Nat) : List Call → Nat
  | [] => sessions
  | call :: calls =>
    runSessions (step cfg w env c call).1
      (derivationSessions (call.derivations cfg env c) sessions) calls

/-- The `DeriveMasterKey` calls of a run, in order. -/
def runDerivations (c : Context) : List Call → List HwkeyOutcome
  | [] => []
  | call :: calls => call.derivations cfg env c ++ runDerivations (step cfg w env c call).1 calls

end

/-- The failure an `Except` result carries, if any. -/
def faultOf {α : Type} : Except Fault α → Option Fault
  | .error f => some f
  | .ok _ => none

/-- The failure a key-blob reply carries, if any. -/
def Reply.fault : Reply → Option Fault
  | .keyBlob r => faultOf r.1
  | .key r => faultOf r
  | .upgraded r => faultOf r
  | .unwrapped r => faultOf r.1
  | _ => none

/-! ## One call -/

section
variable {cfg : BuildConfig} {w : Nat} {env : Collaborators}

/-- A call whose `DeriveMasterKey` call fails returns that status. -/
theorem step_fault_of_derivation_error {c : Context} {call : Call} {o : HwkeyOutcome}
    {e : KmError} (ho : o ∈ call.derivations cfg env c)
    (he : deriveMasterKey env.lib cfg o = .error e) :
    (step cfg w env c call).2.fault = some (.error e) := by
  cases call
  case createKeyBlob =>
    simp [step, Reply.fault, faultOf, createKeyBlob_of_derivation_error ho he]
  case parseKeyBlob =>
    simp [step, Reply.fault, faultOf, parseKeyBlob_of_derivation_error ho he]
  case upgradeKeyBlob =>
    simp [step, Reply.fault, faultOf, upgradeKeyBlob_of_derivation_error ho he]
  case unwrapKey =>
    simp [step, Reply.fault, faultOf, unwrapKey_of_derivation_error ho he]
  all_goals simp [Call.derivations] at ho

@[simp] theorem derivationSessions_eq (os : List HwkeyOutcome) (sessions : Nat) :
    derivationSessions os sessions = sessions + os.countP HwkeyOutcome.leaks := by
  induction os generalizing sessions with
  | nil => rfl
  | cons o os ih =>
    simp only [derivationSessions, List.foldl_cons] at ih ⊢
    rw [ih, deriveMasterKeySessions_eq, List.countP_cons]
    cases o.leaks
    · simp
    · simp only [Bool.toNat_true, if_true]; omega

end

/-! ## Runs -/

section
variable (cfg : BuildConfig) (w : Nat) (env : Collaborators)

/-- **The sessions a run leaves open.** After any run, the hwkey sessions open are those open
    before it plus one for each `DeriveMasterKey` call of the run that leaks its session,
    that is, on which `hwkey_open` succeeded and the call failed (`HwkeyOutcome.leaks_iff`). -/
theorem runSessions_eq (c : Context) (sessions : Nat) (calls : List Call) :
    runSessions cfg w env c sessions calls =
      sessions + (runDerivations cfg w env c calls).countP HwkeyOutcome.leaks := by
  induction calls generalizing c sessions with
  | nil => rfl
  | cons call calls ih =>
    simp only [runSessions, runDerivations, ih, derivationSessions_eq, List.countP_append]
    omega

end

/-- A `CreateKeyBlob` whose master-key buffer is not allocated fails with
    `KM_ERROR_MEMORY_ALLOCATION_FAILED` and leaves its session open. -/
theorem runSessions_createKeyBlob_allocation_failure :
    (step .plain 32 .unavailable .initial
        (.createKeyBlob [{ tag := .algorithm, integer := 32 }] 0 [1] ⟨true, false, true⟩
          [9])).2.fault =
      some (.error .memoryAllocationFailed) ∧
    runSessions .plain 32 .unavailable .initial 0
        [.createKeyBlob [{ tag := .algorithm, integer := 32 }] 0 [1] ⟨true, false, true⟩ [9]] = 1 :=
  ⟨rfl, by rw [runSessions_eq]; rfl⟩

/-! ## Each open session is owed to a failed call -/

section
variable {lib : Library} {cfg : BuildConfig} {c : Context}

theorem createKeyBlobDerivations_length_le (d : AuthorizationSet) (origin : Nat)
    (o : HwkeyOutcome) : (createKeyBlobDerivations cfg c d origin o).length ≤ 1 := by
  unfold createKeyBlobDerivations; split_ifs <;> simp

theorem parseKeyBlobDerivations_length_le (blob : Bytes) (o : HwkeyOutcome) :
    (parseKeyBlobDerivations lib blob o).length ≤ 1 := by
  unfold parseKeyBlobDerivations; split <;> simp

theorem unwrapKeyDerivations_length_le (blob : Bytes) (out : UnwrapOutputs) (o : HwkeyOutcome) :
    (unwrapKeyDerivations lib blob out o).length ≤ 1 := by
  unfold unwrapKeyDerivations; split_ifs
  · simp
  · exact parseKeyBlobDerivations_length_le blob o

/-- `UpgradeKeyBlob` leaves at most one session open: a parse whose derivation leaks fails,
    and the upgrade then derives no second master key. -/
theorem upgradeKeyBlobDerivations_leaks_le (blob : Bytes) (q : AuthorizationSet)
    (oParse oCreate : HwkeyOutcome) :
    (upgradeKeyBlobDerivations lib cfg c blob q oParse oCreate).countP HwkeyOutcome.leaks ≤ 1 := by
  unfold upgradeKeyBlobDerivations
  rw [List.countP_append]
  by_cases hl : ∃ o ∈ parseKeyBlobDerivations lib blob oParse, o.leaks = true
  · obtain ⟨o, ho, hleak⟩ := hl
    obtain ⟨-, e, he⟩ := (@HwkeyOutcome.leaks_iff lib cfg o).1 hleak
    rw [parseKeyBlob_of_derivation_error ho he]
    simpa using (List.countP_le_length HwkeyOutcome.leaks).trans
      (@parseKeyBlobDerivations_length_le lib blob oParse)
  · rw [List.countP_eq_zero.2 (by simpa using hl), Nat.zero_add]
    refine (List.countP_le_length _).trans ?_
    split
    · split <;> simp
    · simp

end

section
variable {cfg : BuildConfig} {w : Nat} {env : Collaborators}

/-- A call leaves at most one session open, and one only when it fails. -/
theorem derivations_leaks_le_fault (c : Context) (call : Call) :
    (call.derivations cfg env c).countP HwkeyOutcome.leaks ≤
      ((step cfg w env c call).2.fault.isSome).toNat := by
  have hle : (call.derivations cfg env c).countP HwkeyOutcome.leaks ≤ 1 := by
    cases call
    case upgradeKeyBlob => exact upgradeKeyBlobDerivations_leaks_le _ _ _ _
    case createKeyBlob =>
      exact (List.countP_le_length _).trans (createKeyBlobDerivations_length_le _ _ _)
    case parseKeyBlob =>
      exact (List.countP_le_length _).trans (parseKeyBlobDerivations_length_le _ _)
    case unwrapKey =>
      exact (List.countP_le_length _).trans (unwrapKeyDerivations_length_le _ _ _)
    all_goals simp [Call.derivations]
  by_cases hl : ∃ o ∈ call.derivations cfg env c, o.leaks = true
  · obtain ⟨o, ho, hleak⟩ := hl
    obtain ⟨-, e, he⟩ := (@HwkeyOutcome.leaks_iff env.lib cfg o).1 hleak
    simpa [step_fault_of_derivation_error (w := w) ho he] using hle
  · simp [List.countP_eq_zero.2 (by simpa using hl)]

/-- **Every session left open is owed to a distinct failed call.** After any run, the hwkey
    sessions open exceed those open before it by at most the number of calls whose reply
    carries a failure; a run in which every call succeeds opens none for good. -/
theorem runSessions_le_failures (c : Context) (sessions : Nat) (calls : List Call) :
    runSessions cfg w env c sessions calls ≤
      sessions + (run cfg w env c calls).2.countP (·.fault.isSome) := by
  induction calls generalizing c sessions with
  | nil => simp [runSessions, run]
  | cons call calls ih =>
    have hcall := @derivations_leaks_le_fault cfg w env c call
    have hrest := ih (step cfg w env c call).1 (derivationSessions (call.derivations cfg env c) sessions)
    simp only [runSessions, run, List.countP_cons, derivationSessions_eq] at hrest ⊢
    cases h : (step cfg w env c call).2.fault.isSome <;>
      simp only [h, Bool.toNat_true, Bool.toNat_false, if_true, Bool.false_eq_true, if_false]
        at hcall ⊢ <;> omega

end

end TrustyKeymaster
