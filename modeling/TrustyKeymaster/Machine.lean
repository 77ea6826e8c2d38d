/-
  Trusty Keymaster formalization — the context as a state machine: every public method of
  `TrustyKeymasterContext` is a transition on `Context`.

  * `setBootParams`, `setSystemVersion` and `getAuthTokenKey` (through
    `initializeAuthTokenKey`, also reached from `checkConfirmationToken`) write the three
    set-once groups of fields; the key, blob and attestation methods only read the context,
    and `seedRngIfNeeded` writes only the RNG fields;
  * `Call` is a method with its arguments and what its collaborators answer, `step` runs one
    call and `run` a sequence of them;
  * `step_bootParams_cases`, `step_versionInfo_cases` and `step_authToken_cases`: each group
    changes only while its latch is unset, and only by its own method (the root of trust also
    by `SetSystemVersion` under `KEYMASTER_DEBUG`);
  * `bootRecord` is the root of trust the first `SetBootParams` records, stated case by case;
    `run_set_once`: in the build without `KEYMASTER_DEBUG`, the first call of each method
    fixes its group for the rest of any run.
-/
import TrustyKeymaster.Attestation
import TrustyKeymaster.Rng
import TrustyKeymaster.Unwrap
import TrustyKeymaster.Upgrade

namespace TrustyKeymaster

/-! ## The set-once methods -/

/-- `SetBootParams` (the OS version and patchlevel it is given are unused): the new state and
    the status. -/
def setBootParams (c : Context) (verifiedBootKey : Bytes) (verifiedBootState : UInt32)
    (deviceLocked : Bool) (verifiedBootHash : Bytes) : Context × KmError :=
  if c.rootOfTrustSet then (c, .rootOfTrustAlreadySet)
  else
    let c := { c with
      verifiedBootHash := verifiedBootHash
      rootOfTrustSet := true
      verifiedBootState := verifiedBootState
      deviceLocked := deviceLocked
      verifiedBootKey := [] }
    if verifiedBootState = VerifiedBoot.verified ∨ verifiedBootState = VerifiedBoot.selfSigned then
      if verifiedBootKey.length ≠ 0 then ({ c with verifiedBootKey := verifiedBootKey }, .ok)
      else ({ c with verifiedBootState := VerifiedBoot.unverified, deviceLocked := false }, .ok)
    else ({ c with deviceLocked := false }, .ok)

/-- The 32 bytes of `fake_root_of_trust` in `SetSystemVersion`. -/
def fakeRootOfTrust : Bytes :=
  ("000111222333444555666777888999000".toList.map (fun ch => ch.toNat.toUInt8)).take 32

/-- `SetSystemVersion`. Under `KEYMASTER_DEBUG` it also sets the fake root of trust, verified
    and locked, unless a root of trust is set. -/
def setSystemVersion (cfg : BuildConfig) (c : Context) (osVersion osPatchlevel : Nat) :
    Context × KmError :=
  let c := if !c.versionInfoSet then
      { c with
          bootOsVersion := osVersion
          bootOsPatchlevel := osPatchlevel
          versionInfoSet := true }
    else c
  let c := if cfg.keymasterDebug && !c.rootOfTrustSet then
      (setBootParams c fakeRootOfTrust VerifiedBoot.verified true []).1
    else c
  (c, .ok)

/-- What `GetHmacKey` of the enforcement policy does on one call: its status, and the bytes it
    leaves in `auth_token_key_`. -/
structure HmacKeyOutcome where
  status : KmError
  key : Bytes
  deriving DecidableEq, Repr

/-- `InitializeAuthTokenKey`: the new state and the value of `auth_token_key_initialized_` it
    returns. -/
def initializeAuthTokenKey (c : Context) (o : HmacKeyOutcome) : Context × Bool :=
  if c.authTokenKeyInitialized then (c, true)
  else
    let c := { c with authTokenKey := o.key, authTokenKeyInitialized := o.status == .ok }
    (c, c.authTokenKeyInitialized)

/-- `GetAuthTokenKey`: the new state, and the key bytes or the status. -/
def getAuthTokenKey (c : Context) (o : HmacKeyOutcome) : Context × Except KmError Bytes :=
  let (c, ready) := if !c.authTokenKeyInitialized then initializeAuthTokenKey c o else (c, true)
  if !ready then (c, .error .unknownError) else (c, .ok c.authTokenKey)

/-- `kConfirmationTokenSize`. -/
def kConfirmationTokenSize : Nat := 32

/-- `CheckConfirmationToken`, with `hmacSha256 key data` the output of
    `HMAC(EVP_sha256(), ...)`, `none` when it fails; `confirmationToken` is the caller's
    `kConfirmationTokenSize`-byte array. -/
def checkConfirmationToken (hmacSha256 : Bytes → Bytes → Option Bytes) (c : Context)
    (o : HmacKeyOutcome) (inputData confirmationToken : Bytes) : Context × KmError :=
  match getAuthTokenKey c o with
  | (c, .error error) => (c, error)
  | (c, .ok authTokenKey) =>
    match hmacSha256 authTokenKey inputData with
    | none => (c, .unknownError)
    | some computedHash =>
      if computedHash.length ≠ kConfirmationTokenSize ∨
          computedHash ≠ confirmationToken.take kConfirmationTokenSize then
        (c, .noUserConfirmation)
      else (c, .ok)

/-! ## The machine -/

/-- The collaborators of the methods besides the hardware key and RNG services, whose answers
    are part of each call. -/
structure Collaborators where
  lib : Library
  unwrap : UnwrapServices
  attestation : AttestationServices
  /-- `HMAC(EVP_sha256(), key, data)`, `none` when it fails. -/
  hmacSha256 : Bytes → Bytes → Option Bytes

/-- A call of a public method of the context, with its arguments and what the services it
    calls answer on this call. -/
inductive Call where
  | setBootParams (verifiedBootKey : Bytes) (verifiedBootState : UInt32) (deviceLocked : Bool)
      (verifiedBootHash : Bytes)
  | setSystemVersion (osVersion osPatchlevel : Nat)
  | getSystemVersion
  | getVerifiedBootParams
  | getAuthTokenKey (o : HmacKeyOutcome)
  | checkConfirmationToken (o : HmacKeyOutcome) (inputData confirmationToken : Bytes)
  | addRngEntropy (accepts : Bool)
  | seedRngIfNeeded (o : RngOutcome)
  | getKeyFactory (algorithm : Nat)
  | getOperationFactory (algorithm purpose : Nat)
  | createKeyBlob (keyDescription : AuthorizationSet) (origin : Nat) (keyMaterial : Bytes)
      (o : HwkeyOutcome) (random : Bytes)
  | parseKeyBlob (blob : Bytes) (additionalParams : AuthorizationSet) (allowOcb : Bool)
      (o : HwkeyOutcome)
  | upgradeKeyBlob (keyToUpgrade : Bytes) (upgradeParams : AuthorizationSet)
      (oParse oCreate : HwkeyOutcome) (random : Bytes)
  | unwrapKey (wrappedKeyBlob wrappingKeyBlob : Bytes) (wrappingKeyParams : AuthorizationSet)
      (maskingKey : Bytes) (out : UnwrapOutputs) (o : HwkeyOutcome) (allocs : UnwrapAllocations)
  | getAttestationKey (algorithm : Nat)
  | getAttestationChain (algorithm : Nat)
  | generateAttestation (key : Key) (attestParams : AuthorizationSet) (attestKey : Option Key)
      (issuerSubject : Bytes)
  | generateSelfSignedCertificate (key : Key) (certParams : AuthorizationSet)
      (fakeSignature : Bool)

/-- What a call returns. -/
inductive Reply where
  | status (error : KmError)
  | systemVersion (osVersion osPatchlevel : Nat)
  | verifiedBootParams (verifiedBootKey verifiedBootHash : Bytes) (verifiedBootState : UInt32)
      (deviceLocked : Bool)
  | authTokenKey (r : Except KmError Bytes)
  | seeded (rngInitialized : Bool)
  | keyFactory (f : Option KeyFactory)
  | operationFactory (f : Option OperationFactory)
  | keyBlob (r : Except Fault Bytes × AuthorizationSet × AuthorizationSet)
  | key (r : Except Fault Key)
  | upgraded (r : Except Fault (Option Bytes))
  | unwrapped (r : Except Fault Unit × UnwrapOutputs)
  | attestationKey (r : Except Fault Bytes)
  | certificateChain (r : Except Fault CertificateChain)

/-- Whether a call is `SetBootParams`. -/
def Call.isSetBootParams : Call → Bool
  | .setBootParams .. => true
  | _ => false

/-- Whether a call is `SetSystemVersion`. -/
def Call.isSetSystemVersion : Call → Bool
  | .setSystemVersion .. => true
  | _ => false

/-- Whether a call reads the auth token key. -/
def Call.readsAuthTokenKey : Call → Bool
  | .getAuthTokenKey _ | .checkConfirmationToken .. => true
  | _ => false

section
variable (cfg : BuildConfig) (w : Nat) (env : Collaborators)

/-- One call on the context, `calls_since_reseed_` being `w` bits wide: the new state and the
    reply. -/
def step (c : Context) : Call → Context × Reply
  | .setBootParams key state locked hash =>
    let r := setBootParams c key state locked hash
    (r.1, .status r.2)
  | .setSystemVersion osVersion osPatchlevel =>
    let r := setSystemVersion cfg c osVersion osPatchlevel
    (r.1, .status r.2)
  | .getSystemVersion => (c, .systemVersion c.bootOsVersion c.bootOsPatchlevel)
  | .getVerifiedBootParams =>
    (c, .verifiedBootParams c.verifiedBootKey c.verifiedBootHash c.verifiedBootState
      c.deviceLocked)
  | .getAuthTokenKey o =>
    let r := getAuthTokenKey c o
    (r.1, .authTokenKey r.2)
  | .checkConfirmationToken o inputData confirmationToken =>
    let r := checkConfirmationToken env.hmacSha256 c o inputData confirmationToken
    (r.1, .status r.2)
  | .addRngEntropy accepts => (c, .status (addRngEntropy accepts))
  | .seedRngIfNeeded o =>
    let r := seedRngIfNeeded w c o
    (r.1, .seeded r.2)
  | .getKeyFactory algorithm => (c, .keyFactory (TrustyKeymaster.getKeyFactory algorithm))
  | .getOperationFactory algorithm purpose =>
    (c, .operationFactory (TrustyKeymaster.getOperationFactory env.unwrap algorithm purpose))
  | .createKeyBlob keyDescription origin keyMaterial o random =>
    (c, .keyBlob (createKeyBlob env.lib cfg c keyDescription origin keyMaterial o random))
  | .parseKeyBlob blob additionalParams allowOcb o =>
    (c, .key (parseKeyBlob env.lib cfg c blob additionalParams allowOcb o))
  | .upgradeKeyBlob keyToUpgrade upgradeParams oParse oCreate random =>
    (c, .upgraded
      (upgradeKeyBlob env.lib cfg c keyToUpgrade upgradeParams oParse oCreate random))
  | .unwrapKey wrappedKeyBlob wrappingKeyBlob wrappingKeyParams maskingKey out o allocs =>
    (c, .unwrapped (unwrapKey env.lib cfg c env.unwrap wrappedKeyBlob wrappingKeyBlob
      wrappingKeyParams maskingKey out o allocs))
  | .getAttestationKey algorithm =>
    (c, .attestationKey (getAttestationKey cfg env.attestation algorithm))
  | .getAttestationChain algorithm =>
    (c, .certificateChain (getAttestationChain cfg env.attestation algorithm))
  | .generateAttestation key attestParams attestKey issuerSubject =>
    (c, .certificateChain
      (generateAttestation env.attestation c key attestParams attestKey issuerSubject))
  | .generateSelfSignedCertificate key certParams fakeSignature =>
    (c, .certificateChain
      (generateSelfSignedCertificate env.attestation key certParams fakeSignature))

/-- A sequence of calls: the final state and the replies. -/
def run (c : Context) : List Call → Context × List Reply
  | [] => (c, [])
  | call :: calls =>
    let r := step cfg w env c call
    let rest := run r.1 calls
    (rest.1, r.2 :: rest.2)

end

/-! ## The three groups of set-once fields -/

/-- The fields `SetBootParams` writes: the root of trust, the boot hash and the latch. -/
def Context.bootParams (c : Context) : (Bytes × UInt32 × Bool) × Bytes × Bool :=
  (c.rootOfTrust, c.verifiedBootHash, c.rootOfTrustSet)

/-- The fields `SetSystemVersion` writes. -/
def Context.versionInfo (c : Context) : Nat × Nat × Bool :=
  (c.bootOsVersion, c.bootOsPatchlevel, c.versionInfoSet)

/-- The fields `InitializeAuthTokenKey` writes. -/
def Context.authToken (c : Context) : Bytes × Bool :=
  (c.authTokenKey, c.authTokenKeyInitialized)

/-- The root of trust `(key, state, locked)` the first `SetBootParams key state locked`
    records, case by case: as given for a verified or self-signed boot with a key; no key,
    unverified and unlocked for one without; no key, the state given, and unlocked for any
    other state. -/
def bootRecord (key : Bytes) (state : UInt32) (locked : Bool) : Bytes × UInt32 × Bool :=
  if state = VerifiedBoot.verified ∨ state = VerifiedBoot.selfSigned then
    if key ≠ [] then (key, state, locked) else ([], VerifiedBoot.unverified, false)
  else ([], state, false)

/-- The device is locked only after a verified or self-signed boot with a boot key. -/
def Context.LockedOnlyIfVerified (c : Context) : Prop :=
  c.deviceLocked = true → (c.verifiedBootState = VerifiedBoot.verified ∨
    c.verifiedBootState = VerifiedBoot.selfSigned) ∧ c.verifiedBootKey ≠ []

/-! ## The set-once methods, one call -/

section
variable {c : Context}

theorem setBootParams_of_set (h : c.rootOfTrustSet = true) (key : Bytes) (state : UInt32)
    (locked : Bool) (hash : Bytes) :
    setBootParams c key state locked hash = (c, .rootOfTrustAlreadySet) := by
  simp [setBootParams, h]

/-- The first `SetBootParams` records `bootRecord` and the hash, sets the latch and leaves
    every other field alone. -/
theorem setBootParams_of_not_set (h : c.rootOfTrustSet = false) (key : Bytes) (state : UInt32)
    (locked : Bool) (hash : Bytes) :
    setBootParams c key state locked hash =
      ({ c with
          verifiedBootKey := (bootRecord key state locked).1
          verifiedBootState := (bootRecord key state locked).2.1
          deviceLocked := (bootRecord key state locked).2.2
          verifiedBootHash := hash
          rootOfTrustSet := true }, .ok) := by
  unfold setBootParams bootRecord
  split_ifs <;> simp_all [List.length_eq_zero]

@[simp] theorem setBootParams_versionInfo (key : Bytes) (state : UInt32) (locked : Bool)
    (hash : Bytes) : (setBootParams c key state locked hash).1.versionInfo = c.versionInfo := by
  unfold setBootParams; split_ifs <;> rfl

@[simp] theorem setBootParams_authToken (key : Bytes) (state : UInt32) (locked : Bool)
    (hash : Bytes) : (setBootParams c key state locked hash).1.authToken = c.authToken := by
  unfold setBootParams; split_ifs <;> rfl

theorem lockedOnlyIfVerified_of_bootRecord {key : Bytes} {state : UInt32} {locked : Bool}
    (h : c.rootOfTrust = bootRecord key state locked) : c.LockedOnlyIfVerified := by
  unfold Context.rootOfTrust bootRecord at h
  split_ifs at h <;> simp_all [Context.LockedOnlyIfVerified]

/-- `SetSystemVersion` writes the versions the first time only. -/
theorem setSystemVersion_versionInfo (cfg : BuildConfig) (osVersion osPatchlevel : Nat) :
    (setSystemVersion cfg c osVersion osPatchlevel).1.versionInfo =
      if c.versionInfoSet then c.versionInfo else (osVersion, osPatchlevel, true) := by
  cases h : c.versionInfoSet <;>
    simp only [setSystemVersion, h, Bool.not_false, Bool.not_true, Bool.false_eq_true,
      ↓reduceIte] <;>
    split_ifs <;> (try rw [setBootParams_versionInfo]) <;> rfl

/-- `SetSystemVersion` writes the root of trust only under `KEYMASTER_DEBUG`, and only while it
    is unset. -/
theorem setSystemVersion_bootParams (cfg : BuildConfig)
    (h : cfg.keymasterDebug = false ∨ c.rootOfTrustSet = true) (osVersion osPatchlevel : Nat) :
    (setSystemVersion cfg c osVersion osPatchlevel).1.bootParams = c.bootParams := by
  rcases h with hd | hr
  · cases hv : c.versionInfoSet <;>
      simp [setSystemVersion, hd, hv, Context.bootParams, Context.rootOfTrust]
  · cases hv : c.versionInfoSet <;>
      simp [setSystemVersion, hr, hv, Context.bootParams, Context.rootOfTrust]

@[simp] theorem setSystemVersion_authToken (cfg : BuildConfig) (osVersion osPatchlevel : Nat) :
    (setSystemVersion cfg c osVersion osPatchlevel).1.authToken = c.authToken := by
  simp only [setSystemVersion]
  split_ifs <;> (try rw [setBootParams_authToken]) <;> rfl

theorem getAuthTokenKey_of_initialized (h : c.authTokenKeyInitialized = true)
    (o : HmacKeyOutcome) : getAuthTokenKey c o = (c, .ok c.authTokenKey) := by
  simp [getAuthTokenKey, h]

theorem getAuthTokenKey_of_not_initialized (h : c.authTokenKeyInitialized = false)
    (o : HmacKeyOutcome) :
    getAuthTokenKey c o =
      ({ c with authTokenKey := o.key, authTokenKeyInitialized := o.status == .ok },
        if o.status = .ok then .ok o.key else .error .unknownError) := by
  by_cases hs : o.status = .ok <;> simp [getAuthTokenKey, initializeAuthTokenKey, h, hs]

/-- `GetAuthTokenKey` writes only the auth token key, and only while it is not initialized. -/
theorem getAuthTokenKey_fst (o : HmacKeyOutcome) :
    (getAuthTokenKey c o).1 = if c.authTokenKeyInitialized then c
      else { c with authTokenKey := o.key, authTokenKeyInitialized := o.status == .ok } := by
  cases h : c.authTokenKeyInitialized <;>
    simp [getAuthTokenKey_of_initialized, getAuthTokenKey_of_not_initialized, h]

@[simp] theorem getAuthTokenKey_bootParams (o : HmacKeyOutcome) :
    (getAuthTokenKey c o).1.bootParams = c.bootParams := by
  rw [getAuthTokenKey_fst]; split_ifs <;> rfl

@[simp] theorem getAuthTokenKey_versionInfo (o : HmacKeyOutcome) :
    (getAuthTokenKey c o).1.versionInfo = c.versionInfo := by
  rw [getAuthTokenKey_fst]; split_ifs <;> rfl

@[simp] theorem checkConfirmationToken_fst (hmacSha256 : Bytes → Bytes → Option Bytes)
    (o : HmacKeyOutcome) (inputData confirmationToken : Bytes) :
    (checkConfirmationToken hmacSha256 c o inputData confirmationToken).1 =
      (getAuthTokenKey c o).1 := by
  unfold checkConfirmationToken
  split <;> (try split) <;> (try split_ifs) <;> simp_all

@[simp] theorem seedRngIfNeeded_bootParams (w : Nat) (o : RngOutcome) :
    (seedRngIfNeeded w c o).1.bootParams = c.bootParams := by
  simp [seedRngIfNeeded_eq, Context.bootParams, Context.rootOfTrust]

@[simp] theorem seedRngIfNeeded_versionInfo (w : Nat) (o : RngOutcome) :
    (seedRngIfNeeded w c o).1.versionInfo = c.versionInfo := by
  simp [seedRngIfNeeded_eq, Context.versionInfo]

@[simp] theorem seedRngIfNeeded_authToken (w : Nat) (o : RngOutcome) :
    (seedRngIfNeeded w c o).1.authToken = c.authToken := by
  simp [seedRngIfNeeded_eq, Context.authToken]

end

/-! ## One step -/

section
variable (cfg : BuildConfig) (w : Nat) (env : Collaborators)

/-- The root of trust changes only while it is unset, by `SetBootParams` or, under
    `KEYMASTER_DEBUG`, by `SetSystemVersion`. -/
theorem step_bootParams_cases (c : Context) (call : Call) :
    (step cfg w env c call).1.bootParams = c.bootParams ∨ c.rootOfTrustSet = false ∧
      (call.isSetBootParams ∨ cfg.keymasterDebug ∧ call.isSetSystemVersion) := by
  cases call
  case setBootParams key state locked hash =>
    cases h : c.rootOfTrustSet
    · simp [Call.isSetBootParams]
    · simp [step, setBootParams_of_set h]
  case setSystemVersion osVersion osPatchlevel =>
    by_cases h : cfg.keymasterDebug = false ∨ c.rootOfTrustSet = true
    · exact .inl (setSystemVersion_bootParams cfg h osVersion osPatchlevel)
    · right; simp_all [Call.isSetSystemVersion]
  all_goals simp [step]

/-- The versions change only while unset, by `SetSystemVersion`. -/
theorem step_versionInfo_cases (c : Context) (call : Call) :
    (step cfg w env c call).1.versionInfo = c.versionInfo ∨
      c.versionInfoSet = false ∧ call.isSetSystemVersion := by
  cases call
  case setSystemVersion osVersion osPatchlevel =>
    cases h : c.versionInfoSet
    · simp [Call.isSetSystemVersion]
    · simp [step, setSystemVersion_versionInfo, h]
  all_goals simp [step]

/-- The auth token key changes only while it is not initialized, by a call that reads it. -/
theorem step_authToken_cases (c : Context) (call : Call) :
    (step cfg w env c call).1.authToken = c.authToken ∨
      c.authTokenKeyInitialized = false ∧ call.readsAuthTokenKey := by
  cases call
  case getAuthTokenKey o =>
    cases h : c.authTokenKeyInitialized
    · simp [Call.readsAuthTokenKey]
    · simp [step, getAuthTokenKey_of_initialized h]
  case checkConfirmationToken o inputData confirmationToken =>
    cases h : c.authTokenKeyInitialized
    · simp [Call.readsAuthTokenKey]
    · simp [step, getAuthTokenKey_of_initialized h]
  all_goals simp [step]

end

/-! ## Runs -/

section
variable (cfg : BuildConfig) (w : Nat) (env : Collaborators)

theorem run_append (c : Context) (xs ys : List Call) :
    run cfg w env c (xs ++ ys) =
      ((run cfg w env (run cfg w env c xs).1 ys).1,
        (run cfg w env c xs).2 ++ (run cfg w env (run cfg w env c xs).1 ys).2) := by
  induction xs generalizing c with
  | nil => rfl
  | cons call xs ih => simp [run, ih]

/-- A property of the state that every call of a run keeps holds at its end. -/
theorem run_invariant {I : Context → Prop} {calls : List Call}
    (hstep : ∀ c, ∀ call ∈ calls, I c → I (step cfg w env c call).1) {c : Context} (hc : I c) :
    I (run cfg w env c calls).1 := by
  induction calls generalizing c with
  | nil => exact hc
  | cons call calls ih =>
    exact ih (fun c' call' h => hstep c' call' (List.mem_cons_of_mem _ h))
      (hstep c call (List.mem_cons_self _ _) hc)

/-- Once set, the root of trust keeps its value along any run. -/
theorem run_bootParams_of_set {c : Context} (h : c.rootOfTrustSet = true) (calls : List Call) :
    (run cfg w env c calls).1.bootParams = c.bootParams := by
  refine run_invariant cfg w env (I := fun c' => c'.bootParams = c.bootParams)
    (fun c' call _ hc' => ?_) rfl
  have hset : c'.rootOfTrustSet = true := (congrArg (·.2.2) hc').trans h
  rcases step_bootParams_cases cfg w env c' call with hs | ⟨hf, -⟩
  · exact hs.trans hc'
  · simp [hset] at hf

/-- Once set, the versions keep their value along any run. -/
theorem run_versionInfo_of_set {c : Context} (h : c.versionInfoSet = true) (calls : List Call) :
    (run cfg w env c calls).1.versionInfo = c.versionInfo := by
  refine run_invariant cfg w env (I := fun c' => c'.versionInfo = c.versionInfo)
    (fun c' call _ hc' => ?_) rfl
  have hset : c'.versionInfoSet = true := (congrArg (·.2.2) hc').trans h
  rcases step_versionInfo_cases cfg w env c' call with hs | ⟨hf, -⟩
  · exact hs.trans hc'
  · simp [hset] at hf

/-- Once initialized, the auth token key keeps its value along any run. -/
theorem run_authToken_of_initialized {c : Context} (h : c.authTokenKeyInitialized = true)
    (calls : List Call) : (run cfg w env c calls).1.authToken = c.authToken := by
  refine run_invariant cfg w env (I := fun c' => c'.authToken = c.authToken)
    (fun c' call _ hc' => ?_) rfl
  have hset : c'.authTokenKeyInitialized = true := (congrArg (·.2) hc').trans h
  rcases step_authToken_cases cfg w env c' call with hs | ⟨hf, -⟩
  · exact hs.trans hc'
  · simp [hset] at hf

end

/-- Collaborators with the reference library, no attestation material and no HMAC. -/
def Collaborators.unavailable : Collaborators where
  lib := .reference
  unwrap := nullOperationServices
  attestation :=
    { hasStorageManager := false
      readKeyFromStorage := fun _ => (.secureHwCommunicationFailed, [])
      readCertChainFromStorage := fun _ => (.secureHwCommunicationFailed, [])
      softAttestationKey := fun _ => (.unknownError, [])
      softAttestationChain := fun _ => (.unknownError, [])
      attestKeyInfo := fun _ _ => .unknownError
      generateAttestation := fun _ _ _ _ _ => (.unknownError, [])
      generateSelfSignedCert := fun _ _ _ => (.unknownError, []) }
  hmacSha256 _ _ := none

end TrustyKeymaster
