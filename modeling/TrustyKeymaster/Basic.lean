/-
  Trusty Keymaster formalization — the data of `trusty_keymaster_context.cpp`.

  * `Tag` and `Tag.kind`: the authorization tags and the case groups of the `switch` in
    `SetAuthorizations`, one `TagKind` per commented group;
  * `Param` and `AuthorizationSet`: `keymaster_key_param_t` and the list it is kept in, with
    the lookups the context uses (`find`, `GetTagValue`, `Contains`, `AuthProxy`);
  * `KmError` and `Fault`: status codes, and how a call ends when it does not succeed;
  * `BuildConfig`: the compile-time flags the file tests;
  * `Context`: the fields of `TrustyKeymasterContext` that its methods read or write.
-/
import Mathlib.Data.List.Basic
import Mathlib.Algebra.Group.Nat.Basic

namespace TrustyKeymaster

/-- Byte strings: `KeymasterKeyBlob`, `Buffer` and `keymaster_blob_t` contents. -/
abbrev Bytes := List UInt8

/-- `keymaster_error_t`, with the codes this file names; `other` is any other code a
    collaborator may return. -/
inductive KmError where
  | ok | invalidKeyBlob | rollbackResistanceUnavailable | invalidArgument | unimplemented
  | memoryAllocationFailed | unknownError | unexpectedNullPointer | rootOfTrustAlreadySet
  | incompatiblePurpose | incompatibleDigest | incompatiblePaddingMode | unsupportedAlgorithm
  | secureHwCommunicationFailed | incompatibleAlgorithm | noUserConfirmation
  | other (code : Int)
  deriving DecidableEq, Repr

/-- How a call ends when it does not succeed: it returns a status code, or it reaches
    undefined behaviour (a call through a null pointer, an invalid downcast). -/
inductive Fault where
  | error (e : KmError)
  | undefined
  deriving DecidableEq, Repr

/-- A collaborator's status-returning call, seen from a caller that returns its error. -/
def liftKm {α : Type} (x : Except KmError α) : Except Fault α := x.mapError .error

@[simp] theorem liftKm_ok {α : Type} (a : α) : liftKm (.ok a : Except KmError α) = .ok a := rfl

@[simp] theorem liftKm_error {α : Type} (e : KmError) :
    liftKm (.error e : Except KmError α) = .error (.error e) := rfl

@[simp] theorem liftKm_eq_ok {α : Type} {x : Except KmError α} {a : α} :
    liftKm x = .ok a ↔ x = .ok a := by
  cases x <;> simp [liftKm, Except.mapError]

theorem bind_eq_ok {ε α β : Type} {x : Except ε α} {f : α → Except ε β} {b : β} :
    x >>= f = .ok b ↔ ∃ a, x = .ok a ∧ f a = .ok b := by
  cases x <;> simp [bind, Except.bind]

theorem liftKm_ne_undefined {α : Type} (x : Except KmError α) : liftKm x ≠ .error .undefined := by
  cases x <;> simp [liftKm, Except.mapError]

theorem bind_ne_undefined {α β : Type} {x : Except Fault α} {f : α → Except Fault β}
    (hx : x ≠ .error .undefined) (hf : ∀ a, f a ≠ .error .undefined) :
    x >>= f ≠ .error .undefined := by
  cases x with
  | error e => simpa [bind, Except.bind] using hx
  | ok a => simpa [bind, Except.bind] using hf a

/-- `if (!cond) return error;` -/
def ensure (cond : Prop) [Decidable cond] (error : KmError) : Except Fault Unit :=
  if cond then pure () else throw (.error error)

/-- `if (!found) return error;`, for a lookup or a pointer the code goes on to use. -/
def requireSome {α : Type} (error : KmError) : Option α → Except Fault α
  | some a => pure a
  | none => throw (.error error)

@[simp] theorem ensure_eq_ok {cond : Prop} [Decidable cond] {error : KmError} {u : Unit} :
    ensure cond error = .ok u ↔ cond := by
  unfold ensure
  split_ifs with h <;> simp [h, pure, Except.pure, throw, throwThe, MonadExceptOf.throw]

@[simp] theorem requireSome_eq_ok {α : Type} {error : KmError} {x : Option α} {a : α} :
    requireSome error x = .ok a ↔ x = some a := by
  cases x <;> simp [requireSome, pure, Except.pure, throw, throwThe, MonadExceptOf.throw]

theorem ensure_ne_undefined {cond : Prop} [Decidable cond] {error : KmError} :
    ensure cond error ≠ .error .undefined := by
  unfold ensure
  split_ifs <;> simp [pure, Except.pure, throw, throwThe, MonadExceptOf.throw]

theorem requireSome_ne_undefined {α : Type} {error : KmError} {x : Option α} :
    requireSome error x ≠ .error .undefined := by
  cases x <;> simp [requireSome, pure, Except.pure, throw, throwThe, MonadExceptOf.throw]

/-- `keymaster_tag_t`, in the order of the `switch` of `SetAuthorizations`. `unlisted`
    stands for any tag value that no case of that `switch` names. -/
inductive Tag where
  | associatedData | authToken | bootloaderOnly | invalid | macLength | nonce | rootOfTrust
  | uniqueId | identityCredentialKey
  | attestationApplicationId | attestationChallenge | attestationIdBrand | attestationIdDevice
  | attestationIdImei | attestationIdManufacturer | attestationIdMeid | attestationIdModel
  | attestationIdProduct | attestationIdSerial | certificateNotAfter | certificateNotBefore
  | certificateSerial | certificateSubject | resetSinceIdRotation
  | rollbackResistance | deviceUniqueAttestation
  | allowWhileOnBody
  | allApplications | rollbackResistant | confirmationToken
  | applicationId | applicationData
  | bootPatchlevel | origin | osPatchlevel | osVersion | vendorPatchlevel
  | algorithm | authTimeout | blobUsageRequirements | blockMode | callerNonce | digest
  | earlyBootOnly | eciesSingleHashMode | ecCurve | kdf | keySize | maxUsesPerBoot
  | minMacLength | minSecondsBetweenOps | noAuthRequired | padding | purpose
  | rsaOaepMgfDigest | rsaPublicExponent | trustedConfirmationRequired
  | trustedUserPresenceRequired | unlockedDeviceRequired | userSecureId
  | storageKey
  | userAuthType
  | activeDatetime | allUsers | creationDatetime | exportable | includeUniqueId | maxBootLevel
  | originationExpireDatetime | usageCountLimit | usageExpireDatetime | userId
  | unlisted
  deriving DecidableEq, Repr

/-- The case groups of the `switch` in `SetAuthorizations`, one per comment there. -/
inductive TagKind where
  /-- Tags that should never appear in key descriptions. -/
  | neverInDescription
  /-- Tags used only to provide information for certificate creation. -/
  | certificateOnly
  /-- Unimplemented tags for which an error is returned. -/
  | unimplementedError (e : KmError)
  /-- Unimplemented, obsolete, and not-to-be-added tags, silently ignored. -/
  | ignored
  /-- Tags ignored because `SetAuthorizations` sets them after the loop. -/
  | setBelow
  /-- Hardware-enforced tags. -/
  | hardwareEnforced
  /-- `KM_TAG_STORAGE_KEY`, whose handling depends on `WITH_HWWSK_SUPPORT`. -/
  | storageKey
  /-- `KM_TAG_USER_AUTH_TYPE`, masked to the supported authenticators. -/
  | userAuthType
  /-- Keystore-enforced tags. -/
  | keystoreEnforced
  /-- No case of the `switch`. -/
  | unlisted
  deriving DecidableEq, Repr

/-- The case group of a tag in the `switch` of `SetAuthorizations`. -/
def Tag.kind : Tag → TagKind
  | .associatedData | .authToken | .bootloaderOnly | .invalid | .macLength | .nonce
  | .rootOfTrust | .uniqueId | .identityCredentialKey => .neverInDescription
  | .attestationApplicationId | .attestationChallenge | .attestationIdBrand
  | .attestationIdDevice | .attestationIdImei | .attestationIdManufacturer
  | .attestationIdMeid | .attestationIdModel | .attestationIdProduct | .attestationIdSerial
  | .certificateNotAfter | .certificateNotBefore | .certificateSerial | .certificateSubject
  | .resetSinceIdRotation => .certificateOnly
  | .rollbackResistance => .unimplementedError .rollbackResistanceUnavailable
  | .deviceUniqueAttestation => .unimplementedError .invalidArgument
  | .allowWhileOnBody => .ignored
  | .allApplications | .rollbackResistant | .confirmationToken => .ignored
  | .applicationId | .applicationData => .ignored
  | .bootPatchlevel | .origin | .osPatchlevel | .osVersion | .vendorPatchlevel => .setBelow
  | .algorithm | .authTimeout | .blobUsageRequirements | .blockMode | .callerNonce | .digest
  | .earlyBootOnly | .eciesSingleHashMode | .ecCurve | .kdf | .keySize | .maxUsesPerBoot
  | .minMacLength | .minSecondsBetweenOps | .noAuthRequired | .padding | .purpose
  | .rsaOaepMgfDigest | .rsaPublicExponent | .trustedConfirmationRequired
  | .trustedUserPresenceRequired | .unlockedDeviceRequired | .userSecureId => .hardwareEnforced
  | .storageKey => .storageKey
  | .userAuthType => .userAuthType
  | .activeDatetime | .allUsers | .creationDatetime | .exportable | .includeUniqueId
  | .maxBootLevel | .originationExpireDatetime | .usageCountLimit | .usageExpireDatetime
  | .userId => .keystoreEnforced
  | .unlisted => .unlisted

/-- The tags `SetAuthorizations` may copy into `hw_enforced`. -/
def Tag.IsHardwareEnforced (t : Tag) : Prop :=
  t.kind = .hardwareEnforced ∨ t.kind = .storageKey ∨ t.kind = .userAuthType

/-- The tags `SetAuthorizations` copies into `sw_enforced`. -/
def Tag.IsKeystoreEnforced (t : Tag) : Prop := t.kind = .keystoreEnforced

instance (t : Tag) : Decidable t.IsHardwareEnforced := inferInstanceAs (Decidable (_ ∨ _))
instance (t : Tag) : Decidable t.IsKeystoreEnforced := inferInstanceAs (Decidable (_ = _))

theorem Tag.not_isKeystoreEnforced_of_isHardwareEnforced {t : Tag} (h : t.IsHardwareEnforced) :
    ¬ t.IsKeystoreEnforced := by
  unfold IsHardwareEnforced at h; unfold IsKeystoreEnforced
  rcases h with h | h | h <;> rw [h] <;> simp

/-- `keymaster_key_param_t`: a tag and its value. The union's numeric members
    (`enumerated`, `integer`, `boolean`, `long_integer`, `date_time`) are read as
    `integer`, its `blob` member as `blob`; the tag's type says which one is meant. -/
structure Param where
  tag : Tag
  integer : Nat := 0
  blob : Bytes := []
  deriving DecidableEq, Repr

/-- `AuthorizationSet`: the entries in order, duplicates allowed. -/
abbrev AuthorizationSet := List Param

namespace AuthorizationSet

/-- `AuthorizationSet::find`: the index of the first entry with `tag` (`-1` is `none`). -/
def find (s : AuthorizationSet) (tag : Tag) : Option Nat := s.findIdx? (·.tag == tag)

/-- `GetTagValue`: the first entry with `tag`. -/
def getTagValue (s : AuthorizationSet) (tag : Tag) : Option Param := s.find? (·.tag == tag)

/-- `Contains(tag, value)`: some entry has `tag` and the value `value`. -/
def contains (s : AuthorizationSet) (tag : Tag) (value : Nat) : Bool :=
  s.any fun p => p.tag == tag && p.integer == value

/-- The tags of the entries, in order. -/
def tags (s : AuthorizationSet) : List Tag := s.map (·.tag)

@[simp] theorem getTagValue_nil (tag : Tag) : getTagValue [] tag = none := rfl

theorem getTagValue_cons (p : Param) (s : AuthorizationSet) (tag : Tag) :
    getTagValue (p :: s) tag = if p.tag = tag then some p else getTagValue s tag := by
  by_cases h : p.tag = tag <;> simp [getTagValue, List.find?_cons, h]

theorem getTagValue_append (s t : AuthorizationSet) (tag : Tag) :
    getTagValue (s ++ t) tag = (getTagValue s tag).or (getTagValue t tag) := by
  simp [getTagValue, List.find?_append]

theorem getTagValue_of_not_mem {s : AuthorizationSet} {tag : Tag} (h : tag ∉ s.tags) :
    getTagValue s tag = none := by
  simpa [getTagValue, tags] using h

theorem getTagValue_tag {s : AuthorizationSet} {tag : Tag} {p : Param}
    (h : getTagValue s tag = some p) : p.tag = tag := by
  simpa using List.find?_some h

theorem getTagValue_mem {s : AuthorizationSet} {tag : Tag} {p : Param}
    (h : getTagValue s tag = some p) : p ∈ s := List.mem_of_find?_eq_some h

@[simp] theorem contains_append (s t : AuthorizationSet) (tag : Tag) (value : Nat) :
    contains (s ++ t) tag value = (contains s tag value || contains t tag value) := by
  simp [contains, List.any_append]

/-- The integer of the first entry with `tag`: what `GetTagValue` reads from an integer
    tag. -/
def integerValue (s : AuthorizationSet) (tag : Tag) : Option Nat :=
  (s.getTagValue tag).map (·.integer)

theorem find_eq_none {s : AuthorizationSet} {tag : Tag} : s.find tag = none ↔ tag ∉ s.tags := by
  simp [find, tags]

/-- The index `find` returns splits the set at the first entry with the tag. -/
theorem find_eq_some {s : AuthorizationSet} {tag : Tag} {i : Nat} (h : s.find tag = some i) :
    ∃ pre p post, s = pre ++ p :: post ∧ tag ∉ tags pre ∧ p.tag = tag ∧ i = pre.length := by
  induction s generalizing i with
  | nil => cases h
  | cons q s ih =>
    simp only [find, List.findIdx?_cons, Nat.zero_add] at h ih
    split at h
    · rename_i hq
      cases h; exact ⟨[], q, s, rfl, by simp [tags], by simpa using hq, rfl⟩
    · rename_i hq
      simp only [List.findIdx?_start_succ, Option.map_eq_some'] at h
      obtain ⟨j, hj, rfl⟩ := h
      obtain ⟨pre, p, post, rfl, hpre, hp, rfl⟩ := ih hj
      refine ⟨q :: pre, p, post, rfl, ?_, hp, by simp⟩
      simp only [tags, List.map_cons, List.mem_cons, not_or]
      exact ⟨fun h => hq (by simp [h]), hpre⟩

theorem getTagValue_split {pre post : AuthorizationSet} {p : Param} {tag : Tag}
    (hpre : tag ∉ pre.tags) (hp : p.tag = tag) : getTagValue (pre ++ p :: post) tag = some p := by
  simp [getTagValue_append, getTagValue_of_not_mem hpre, getTagValue_cons, hp]

/-- Replacing an entry by one with the same tag changes no lookup of another tag. -/
theorem getTagValue_replace (pre post : AuthorizationSet) {p q : Param} (hq : q.tag = p.tag)
    {t : Tag} (ht : t ≠ p.tag) :
    getTagValue (pre ++ q :: post) t = getTagValue (pre ++ p :: post) t := by
  simp [getTagValue_append, getTagValue_cons, hq, Ne.symm ht]

theorem tags_replace (pre post : AuthorizationSet) {p q : Param} (hq : q.tag = p.tag) :
    tags (pre ++ q :: post) = tags (pre ++ p :: post) := by
  simp [tags, hq]

end AuthorizationSet

/-- `AuthProxy(hw_enforced, sw_enforced)`: lookups see `hw_enforced` first, then
    `sw_enforced`. -/
def authProxy (hw sw : AuthorizationSet) : AuthorizationSet := hw ++ sw

/-! ## `keymaster_algorithm_t` values and the key factories -/

namespace KmAlgorithm
def rsa : Nat := 1
def ec : Nat := 3
def aes : Nat := 32
def tripleDes : Nat := 33
def hmac : Nat := 128
end KmAlgorithm

/-- The five key factories the constructor builds. -/
inductive KeyFactory where
  | rsa | ec | aes | hmac | tripleDes
  deriving DecidableEq, Repr

/-- `GetKeyFactory`: the factory of an algorithm, `nullptr` (`none`) for any other value. -/
def getKeyFactory (algorithm : Nat) : Option KeyFactory :=
  if algorithm = KmAlgorithm.rsa then some .rsa
  else if algorithm = KmAlgorithm.ec then some .ec
  else if algorithm = KmAlgorithm.aes then some .aes
  else if algorithm = KmAlgorithm.hmac then some .hmac
  else if algorithm = KmAlgorithm.tripleDes then some .tripleDes
  else none

/-- The algorithms `GetKeyFactory` knows. -/
def IsSupportedAlgorithm (algorithm : Nat) : Prop :=
  algorithm = KmAlgorithm.rsa ∨ algorithm = KmAlgorithm.ec ∨ algorithm = KmAlgorithm.aes ∨
    algorithm = KmAlgorithm.hmac ∨ algorithm = KmAlgorithm.tripleDes

theorem getKeyFactory_isSome_iff (algorithm : Nat) :
    (getKeyFactory algorithm).isSome ↔ IsSupportedAlgorithm algorithm := by
  unfold getKeyFactory IsSupportedAlgorithm
  split_ifs <;> simp_all

/-- The factories whose keys are `AsymmetricKey`s. -/
def KeyFactory.IsAsymmetric : KeyFactory → Prop
  | .rsa | .ec => True
  | _ => False

instance : DecidablePred KeyFactory.IsAsymmetric := fun f => by
  cases f <;> unfold KeyFactory.IsAsymmetric <;> infer_instance

theorem getKeyFactory_isAsymmetric {algorithm : Nat} {f : KeyFactory}
    (h : getKeyFactory algorithm = some f) :
    f.IsAsymmetric ↔ algorithm = KmAlgorithm.rsa ∨ algorithm = KmAlgorithm.ec := by
  unfold getKeyFactory at h
  split_ifs at h <;> cases h <;> simp_all [KeyFactory.IsAsymmetric, KmAlgorithm.rsa,
    KmAlgorithm.ec]

/-! ## `keymaster_verified_boot_t` values -/

namespace VerifiedBoot
def verified : UInt32 := 0
def selfSigned : UInt32 := 1
def unverified : UInt32 := 2
def failed : UInt32 := 3
end VerifiedBoot

/-- The compile-time flags and sizes of the file. -/
structure BuildConfig where
  withHwwskSupport : Bool
  teeFingerprintAuthSupported : Bool
  keymasterDebug : Bool
  keymasterSoftAttestationFallback : Bool
  /-- `TRUSTY_KM_WRAPPING_KEY_SIZE` (16 unless the device sets it). -/
  trustyKmWrappingKeySize : Nat := 16

/-- A build that defines none of the flags: every `#if` on them is false. -/
def BuildConfig.plain : BuildConfig := ⟨false, false, false, false, 16⟩

/-- The fields of `TrustyKeymasterContext` its methods read or write. -/
structure Context where
  verifiedBootKey : Bytes
  verifiedBootHash : Bytes
  verifiedBootState : UInt32
  deviceLocked : Bool
  rootOfTrustSet : Bool
  bootOsVersion : Nat
  bootOsPatchlevel : Nat
  versionInfoSet : Bool
  rngInitialized : Bool
  callsSinceReseed : Nat
  authTokenKey : Bytes
  authTokenKeyInitialized : Bool
  deriving DecidableEq, Repr

/-- The state the constructor leaves. Three values are the constructor's own: it sets
    `rng_initialized_` to false, `calls_since_reseed_` to 0 and `verified_boot_key_` to
    `"Unbound"`. The others are the member initializers of the header, which is not among the
    sources: the set-once latches unset, the boot versions 0 (the comment in
    `SetAuthorizations`: "these values will be 0 if not set by bootloader"), the device
    unverified and unlocked, and the boot hash and auth token key empty. -/
def Context.initial : Context where
  verifiedBootKey := "Unbound".toList.map (fun ch => ch.toNat.toUInt8)
  verifiedBootHash := []
  verifiedBootState := VerifiedBoot.unverified
  deviceLocked := false
  rootOfTrustSet := false
  bootOsVersion := 0
  bootOsPatchlevel := 0
  versionInfoSet := false
  rngInitialized := false
  callsSinceReseed := 0
  authTokenKey := []
  authTokenKeyInitialized := false

end TrustyKeymaster
