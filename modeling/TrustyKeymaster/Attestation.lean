/-
  Trusty Keymaster formalization — attestation: `GetAttestationKey`, `GetAttestationChain`,
  `GenerateAttestation` and `GenerateSelfSignedCertificate`.

  * the two getters pick a secure-storage slot by algorithm and read it, falling back to
    the software test key or chain under `KEYMASTER_SOFT_ATTESTATION_FALLBACK`;
  * the two generators read the algorithm from the key's authorizations and downcast the
    key to `AsymmetricKey` once it is RSA or EC (`checkAsymmetricKey`);
    `checkAsymmetricKey_undefined`: the downcast is undefined exactly for an RSA or EC
    algorithm on a key that no asymmetric factory built.
-/
import TrustyKeymaster.Library

namespace TrustyKeymaster

/-- `AttestationKeySlot`. -/
inductive AttestationKeySlot where
  | rsa
  | ecdsa
  deriving DecidableEq, Repr

/-- The `switch` on the algorithm in both getters. -/
def attestationKeySlot (algorithm : Nat) : Option AttestationKeySlot :=
  if algorithm = KmAlgorithm.rsa then some .rsa
  else if algorithm = KmAlgorithm.ec then some .ecdsa
  else none

/-- A `CertificateChain`, one encoded certificate per entry. -/
abbrev CertificateChain := List Bytes

/-- The collaborators of attestation, each giving a status and what it writes. -/
structure AttestationServices where
  /-- Whether `SecureStorageManager::get_instance()` returns a manager. -/
  hasStorageManager : Bool
  readKeyFromStorage : AttestationKeySlot → KmError × Bytes
  readCertChainFromStorage : AttestationKeySlot → KmError × CertificateChain
  /-- The software test key and chain of `getAttestationKey` and `getAttestationChain`. -/
  softAttestationKey : Nat → KmError × Bytes
  softAttestationChain : Nat → KmError × CertificateChain
  /-- The status `AttestKeyInfo(attest_key, &issuer_subject, error)` sets. -/
  attestKeyInfo : Option Key → Bytes → KmError
  generateAttestation : Key → AuthorizationSet → Option Key → Bytes → Context →
    KmError × CertificateChain
  generateSelfSignedCert : Key → AuthorizationSet → Bool → KmError × CertificateChain

/-- A value returned beside a status in `*error`: the caller keeps it when the status is
    `KM_ERROR_OK` and returns the status otherwise. -/
def statusResult {α : Type} : KmError × α → Except Fault α
  | (.ok, a) => pure a
  | (error, _) => throw (.error error)

variable (cfg : BuildConfig) (svc : AttestationServices)

/-- `GetAttestationKey`. Without a storage manager it fails before any fallback. -/
def getAttestationKey (algorithm : Nat) : Except Fault Bytes := do
  let keySlot ← requireSome .unsupportedAlgorithm (attestationKeySlot algorithm)
  ensure svc.hasStorageManager .secureHwCommunicationFailed
  let (error, result) := svc.readKeyFromStorage keySlot
  if cfg.keymasterSoftAttestationFallback ∧ error ≠ .ok then
    statusResult (svc.softAttestationKey algorithm)
  else statusResult (error, result)

/-- `GetAttestationChain`. Without a storage manager the chain stays empty and the fallback
    still runs. -/
def getAttestationChain (algorithm : Nat) : Except Fault CertificateChain := do
  let keySlot ← requireSome .unsupportedAlgorithm (attestationKeySlot algorithm)
  let (error, chain) :=
    if svc.hasStorageManager then svc.readCertChainFromStorage keySlot
    else (.secureHwCommunicationFailed, [])
  if cfg.keymasterSoftAttestationFallback ∧ (error ≠ .ok ∨ chain.length = 0) then
    statusResult (svc.softAttestationChain algorithm)
  else statusResult (error, chain)

/-- The part both generators share: the key's algorithm must be RSA or EC, and the key is
    then downcast to `AsymmetricKey`, which is undefined unless an asymmetric factory built
    it. -/
def checkAsymmetricKey (key : Key) : Except Fault Unit := do
  let keyAlgorithm ← requireSome .unknownError (key.authorizations.integerValue .algorithm)
  ensure (keyAlgorithm = KmAlgorithm.rsa ∨ keyAlgorithm = KmAlgorithm.ec) .incompatibleAlgorithm
  if ¬ key.factory.IsAsymmetric then throw .undefined

/-- `GenerateAttestation`. -/
def generateAttestation (c : Context) (key : Key) (attestParams : AuthorizationSet)
    (attestKey : Option Key) (issuerSubject : Bytes) : Except Fault CertificateChain := do
  checkAsymmetricKey key
  let error := svc.attestKeyInfo attestKey issuerSubject
  ensure (error = .ok) error
  statusResult (svc.generateAttestation key attestParams attestKey issuerSubject c)

/-- `GenerateSelfSignedCertificate`. -/
def generateSelfSignedCertificate (key : Key) (certParams : AuthorizationSet)
    (fakeSignature : Bool) : Except Fault CertificateChain := do
  checkAsymmetricKey key
  statusResult (svc.generateSelfSignedCert key certParams fakeSignature)

/-! ## The downcast -/

variable {svc}

theorem statusResult_ne_undefined {α : Type} (r : KmError × α) :
    statusResult r ≠ .error .undefined := by
  rcases r with ⟨_ | _, _⟩ <;> simp [statusResult, pure, Except.pure, throw, throwThe,
    MonadExceptOf.throw]

/-- **The downcast is undefined exactly for an RSA or EC key that no asymmetric factory
    built.** -/
theorem checkAsymmetricKey_undefined (key : Key) :
    checkAsymmetricKey key = .error .undefined ↔
      ∃ a, key.authorizations.integerValue .algorithm = some a ∧
        (a = KmAlgorithm.rsa ∨ a = KmAlgorithm.ec) ∧ ¬ key.factory.IsAsymmetric := by
  unfold checkAsymmetricKey
  cases ha : key.authorizations.integerValue .algorithm with
  | none => simp [requireSome, bind, Except.bind, throw, throwThe, MonadExceptOf.throw]
  | some a =>
    by_cases hc : a = KmAlgorithm.rsa ∨ a = KmAlgorithm.ec
    · by_cases hf : key.factory.IsAsymmetric <;>
        simp [requireSome, ensure, hc, hf, bind, Except.bind, pure, Except.pure, throw,
          throwThe, MonadExceptOf.throw]
    · simp [requireSome, ensure, hc, bind, Except.bind, pure, Except.pure, throw, throwThe,
        MonadExceptOf.throw]

theorem generateAttestation_undefined {c : Context} {key : Key} {attestParams : AuthorizationSet}
    {attestKey : Option Key} {issuerSubject : Bytes} :
    generateAttestation svc c key attestParams attestKey issuerSubject = .error .undefined ↔
      checkAsymmetricKey key = .error .undefined := by
  unfold generateAttestation
  cases checkAsymmetricKey key with
  | error f => simp [bind, Except.bind]
  | ok u =>
    simp only [bind, Except.bind, reduceCtorEq, iff_false]
    have he := @ensure_ne_undefined (svc.attestKeyInfo attestKey issuerSubject = .ok) _
      (svc.attestKeyInfo attestKey issuerSubject)
    revert he
    cases ensure (svc.attestKeyInfo attestKey issuerSubject = .ok)
      (svc.attestKeyInfo attestKey issuerSubject) <;> simp [statusResult_ne_undefined]

theorem generateSelfSignedCertificate_undefined {key : Key} {certParams : AuthorizationSet}
    {fakeSignature : Bool} :
    generateSelfSignedCertificate svc key certParams fakeSignature = .error .undefined ↔
      checkAsymmetricKey key = .error .undefined := by
  unfold generateSelfSignedCertificate
  cases checkAsymmetricKey key <;> simp [bind, Except.bind, statusResult_ne_undefined]

end TrustyKeymaster
