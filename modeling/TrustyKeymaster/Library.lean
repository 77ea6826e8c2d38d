/-
  Trusty Keymaster formalization — the collaborators of the key-blob code, and the two
  services the context builds on them: `DeriveMasterKey` and `BuildHiddenAuthorizations`.

  * `Library` bundles the keymaster library's blob functions (`EncryptKey`, `DecryptKey`,
    `SerializeAuthEncryptedBlob`, `DeserializeAuthEncryptedBlob`), the factories' `LoadKey`
    and `hwkey_derive`, with the laws the context relies on as fields: authenticated
    encryption bound to the master key and to the three authorization sets, and a codec
    whose output starts with the format byte;
  * `deriveMasterKey` follows `DeriveMasterKey` under one `HwkeyOutcome` of the hardware
    key service, and `deriveMasterKeySessions` the sessions it leaves open: one when
    `hwkey_open` succeeds and a later step fails (`HwkeyOutcome.leaks_iff`);
  * `buildHiddenAuthorizations_inj`: the hidden set determines the root of trust and the
    first `APPLICATION_ID` and `APPLICATION_DATA` values (presence included).
-/
import TrustyKeymaster.Basic

namespace TrustyKeymaster

/-- `AuthEncryptedBlobFormat`: the legacy OCB format and the current GCM one. -/
inductive AuthEncryptedBlobFormat where
  | aesOcb
  | aesGcmWithSwEnforced
  deriving DecidableEq, Repr

/-- The byte a serialized blob starts with. -/
def AuthEncryptedBlobFormat.toByte : AuthEncryptedBlobFormat → UInt8
  | .aesOcb => 0
  | .aesGcmWithSwEnforced => 1

/-- `EncryptedKey`: the output of `EncryptKey`. -/
structure EncryptedKey where
  format : AuthEncryptedBlobFormat
  nonce : Bytes
  ciphertext : Bytes
  tag : Bytes
  deriving DecidableEq, Repr

/-- `DeserializedKey`: an encrypted key with the two authorization sets stored beside it. -/
structure DeserializedKey where
  encryptedKey : EncryptedKey
  hwEnforced : AuthorizationSet
  swEnforced : AuthorizationSet
  deriving DecidableEq, Repr

/-- A key built by a factory's `LoadKey`: the factory that built it (which fixes its dynamic
    type), its material and its authorizations. -/
structure Key where
  factory : KeyFactory
  keyMaterial : Bytes
  hwEnforced : AuthorizationSet
  swEnforced : AuthorizationSet
  deriving DecidableEq, Repr

/-- `Key::authorizations()`: an `AuthProxy` over the key's two sets. -/
def Key.authorizations (k : Key) : AuthorizationSet := authProxy k.hwEnforced k.swEnforced

/-- The collaborators of the key-blob code and the laws the context relies on. -/
structure Library where
  /-- `EncryptKey(key_material, format, hw_enforced, sw_enforced, hidden, master_key, random)`,
      the last argument being the bytes the context, as `RandomSource`, gives on the call. -/
  encryptKey : Bytes → AuthEncryptedBlobFormat → AuthorizationSet → AuthorizationSet →
    AuthorizationSet → Bytes → Bytes → Except KmError EncryptedKey
  /-- `DecryptKey(deserialized_key, hidden, master_key)`. -/
  decryptKey : DeserializedKey → AuthorizationSet → Bytes → Except KmError Bytes
  /-- `SerializeAuthEncryptedBlob(encrypted_key, hw_enforced, sw_enforced)`. -/
  serializeAuthEncryptedBlob : EncryptedKey → AuthorizationSet → AuthorizationSet →
    Except KmError Bytes
  /-- `DeserializeAuthEncryptedBlob(blob)`. -/
  deserializeAuthEncryptedBlob : Bytes → Except KmError DeserializedKey
  /-- `hwkey_derive` under the device's hardware key, for a label and a key size. -/
  hwkeyDerive : Bytes → Nat → Bytes
  /-- `factory->LoadKey(key_material, additional_params, hw_enforced, sw_enforced)`. -/
  loadKey : KeyFactory → Bytes → AuthorizationSet → AuthorizationSet → AuthorizationSet →
    Except KmError Key
  encryptKey_format : ∀ {m f hw sw hidden k r e}, encryptKey m f hw sw hidden k r = .ok e →
    e.format = f
  /-- Decryption succeeds exactly under the master key, hidden set and authorization sets
      used at encryption, and then returns the encrypted material. -/
  decryptKey_encryptKey : ∀ {m f hw sw hidden k r e}, encryptKey m f hw sw hidden k r = .ok e →
    ∀ hw' sw' hidden' k' m', decryptKey ⟨e, hw', sw'⟩ hidden' k' = .ok m' ↔
      hw' = hw ∧ sw' = sw ∧ hidden' = hidden ∧ k' = k ∧ m' = m
  deserialize_serialize : ∀ {e hw sw b}, serializeAuthEncryptedBlob e hw sw = .ok b →
    deserializeAuthEncryptedBlob b = .ok ⟨e, hw, sw⟩
  head_serialize : ∀ {e hw sw b}, serializeAuthEncryptedBlob e hw sw = .ok b →
    b.head? = some e.format.toByte
  loadKey_eq : ∀ {f m params hw sw k}, loadKey f m params hw sw = .ok k → k = ⟨f, m, hw, sw⟩

/-- The collaborators that may fail do not: encryption, serialization and key loading. -/
def Library.Reliable (lib : Library) : Prop :=
  (∀ m f hw sw hidden k r, ∃ e, lib.encryptKey m f hw sw hidden k r = .ok e) ∧
    (∀ e hw sw, ∃ b, lib.serializeAuthEncryptedBlob e hw sw = .ok b) ∧
    (∀ f m params hw sw, ∃ k, lib.loadKey f m params hw sw = .ok k)

/-- `DecryptKey` authenticates what it decrypts: a deserialized key that decrypts under one
    hidden set and master key decrypts under no other, and always to the same material. -/
def Library.Authenticated (lib : Library) : Prop :=
  ∀ dk hidden k m, lib.decryptKey dk hidden k = .ok m →
    ∀ hidden' k' m', lib.decryptKey dk hidden' k' = .ok m' ↔ hidden' = hidden ∧ k' = k ∧ m' = m

/-! ## `DeriveMasterKey` -/

/-- `kAesKeySize`. -/
def kAesKeySize (cfg : BuildConfig) : Nat := cfg.trustyKmWrappingKeySize

/-- `kMasterKeyDerivationData`: `"KeymasterMaster"` in a zero-filled array of
    `kAesKeySize` bytes. -/
def kMasterKeyDerivationData (cfg : BuildConfig) : Bytes :=
  "KeymasterMaster".toList.map (fun ch => ch.toNat.toUInt8) ++
    List.replicate (kAesKeySize cfg - 15) 0

/-- What the hardware key service does on one `DeriveMasterKey`: whether `hwkey_open`
    returns a session, whether the key buffer is allocated, whether `hwkey_derive`
    succeeds. -/
structure HwkeyOutcome where
  opens : Bool
  allocates : Bool
  derives : Bool
  deriving DecidableEq, Repr

/-- The outcome in which every step succeeds. -/
def HwkeyOutcome.success : HwkeyOutcome := ⟨true, true, true⟩

/-- `DeriveMasterKey`. -/
def deriveMasterKey (lib : Library) (cfg : BuildConfig) (o : HwkeyOutcome) :
    Except KmError Bytes :=
  if !o.opens then .error .unknownError
  else if !o.allocates then .error .memoryAllocationFailed
  else if !o.derives then .error .unknownError
  else .ok (lib.hwkeyDerive (kMasterKeyDerivationData cfg) (kAesKeySize cfg))

/-- The key every successful `DeriveMasterKey` returns on the device. -/
def masterKey (lib : Library) (cfg : BuildConfig) : Bytes :=
  lib.hwkeyDerive (kMasterKeyDerivationData cfg) (kAesKeySize cfg)

theorem deriveMasterKey_eq_ok {lib : Library} {cfg : BuildConfig} {o : HwkeyOutcome}
    {k : Bytes} : deriveMasterKey lib cfg o = .ok k ↔ o = .success ∧ k = masterKey lib cfg := by
  rcases o with ⟨_ | _, _ | _, _ | _⟩ <;>
    simp [deriveMasterKey, HwkeyOutcome.success, masterKey, eq_comm]

theorem deriveMasterKey_error {lib : Library} {cfg : BuildConfig} {o : HwkeyOutcome}
    {e : KmError} (h : deriveMasterKey lib cfg o = .error e) :
    e = .unknownError ∨ e = .memoryAllocationFailed := by
  unfold deriveMasterKey at h
  split_ifs at h <;> cases h <;> simp

/-- The hwkey sessions open after `DeriveMasterKey`, from `sessions` open before it:
    `hwkey_open` opens one, and only the path on which `hwkey_derive` succeeds reaches
    `hwkey_close`. -/
def deriveMasterKeySessions (o : HwkeyOutcome) (sessions : Nat) : Nat :=
  if !o.opens then sessions
  else if !o.allocates then sessions + 1
  else if !o.derives then sessions + 1
  else sessions

/-- Whether `DeriveMasterKey` returns with its session open. -/
def HwkeyOutcome.leaks (o : HwkeyOutcome) : Bool := o.opens && !(o.allocates && o.derives)

@[simp] theorem deriveMasterKeySessions_eq (o : HwkeyOutcome) (sessions : Nat) :
    deriveMasterKeySessions o sessions = sessions + o.leaks.toNat := by
  rcases o with ⟨_ | _, _ | _, _ | _⟩ <;> rfl

/-- A call leaves its session open exactly when `hwkey_open` succeeds and the call fails. -/
theorem HwkeyOutcome.leaks_iff {lib : Library} {cfg : BuildConfig} {o : HwkeyOutcome} :
    o.leaks = true ↔ o.opens = true ∧ ∃ e, deriveMasterKey lib cfg o = .error e := by
  rcases o with ⟨_ | _, _ | _, _ | _⟩ <;> simp [HwkeyOutcome.leaks, deriveMasterKey]

/-! ## `BuildHiddenAuthorizations` -/

/-- The four bytes of a `keymaster_verified_boot_t` in memory, little-endian. -/
def verifiedBootStateBytes (s : UInt32) : Bytes :=
  [UInt8.ofNat s.toNat, UInt8.ofNat (s.toNat / 2 ^ 8), UInt8.ofNat (s.toNat / 2 ^ 16),
    UInt8.ofNat (s.toNat / 2 ^ 24)]

/-- The byte of a `bool` in memory. -/
def boolBytes (b : Bool) : Bytes := [if b then 1 else 0]

/-- The copy of a blob-valued entry `BuildHiddenAuthorizations` pushes for `tag`, if the
    input has one. -/
def hiddenEntry (inputSet : AuthorizationSet) (tag : Tag) : AuthorizationSet :=
  ((inputSet.getTagValue tag).map fun e => { tag := tag, blob := e.blob }).toList

/-- `BuildHiddenAuthorizations`: `APPLICATION_ID` and `APPLICATION_DATA` when present, then
    the verified boot key, the bytes of the verified boot state and of the lock state, each
    as a `ROOT_OF_TRUST` entry. -/
def buildHiddenAuthorizations (c : Context) (inputSet : AuthorizationSet) : AuthorizationSet :=
  hiddenEntry inputSet .applicationId ++ hiddenEntry inputSet .applicationData ++
    [{ tag := .rootOfTrust, blob := c.verifiedBootKey },
      { tag := .rootOfTrust, blob := verifiedBootStateBytes c.verifiedBootState },
      { tag := .rootOfTrust, blob := boolBytes c.deviceLocked }]

/-- The root of trust a context binds keys to. -/
def Context.rootOfTrust (c : Context) : Bytes × UInt32 × Bool :=
  (c.verifiedBootKey, c.verifiedBootState, c.deviceLocked)

/-- The bytes of the first entry with `tag`, if any: what `GetTagValue` reads from a
    blob-valued tag. -/
def AuthorizationSet.blobValue (s : AuthorizationSet) (tag : Tag) : Option Bytes :=
  (s.getTagValue tag).map (·.blob)

theorem verifiedBootStateBytes_inj {s s' : UInt32}
    (h : verifiedBootStateBytes s = verifiedBootStateBytes s') : s = s' := by
  simp only [verifiedBootStateBytes, List.cons.injEq, and_true] at h
  obtain ⟨h0, h1, h2, h3⟩ := h
  replace h0 := congrArg UInt8.toNat h0; replace h1 := congrArg UInt8.toNat h1
  replace h2 := congrArg UInt8.toNat h2; replace h3 := congrArg UInt8.toNat h3
  have hs := s.toNat_lt_size; have hs' := s'.toNat_lt_size
  simp only [UInt8.toNat, UInt8.ofNat, BitVec.toNat_ofNat, UInt32.size] at h0 h1 h2 h3 hs hs'
  exact UInt32.toNat.inj (by omega)

theorem boolBytes_inj {b b' : Bool} (h : boolBytes b = boolBytes b') : b = b' := by
  cases b <;> cases b' <;> simp_all [boolBytes]

theorem hiddenEntry_eq_iff (s s' : AuthorizationSet) (tag : Tag) :
    hiddenEntry s tag = hiddenEntry s' tag ↔ s.blobValue tag = s'.blobValue tag := by
  unfold hiddenEntry AuthorizationSet.blobValue
  cases s.getTagValue tag <;> cases s'.getTagValue tag <;> simp

theorem filter_hiddenEntry (s : AuthorizationSet) (tag t : Tag) :
    (hiddenEntry s tag).filter (·.tag == t) = if tag = t then hiddenEntry s tag else [] := by
  unfold hiddenEntry
  cases s.getTagValue tag <;> by_cases h : tag = t <;> simp [h]

/-- **The hidden set binds the root of trust and the application id and data.** An absent
    `APPLICATION_ID` differs from an empty one, and the boot-state and lock bytes are kept
    apart by their position. -/
theorem buildHiddenAuthorizations_inj (c c' : Context) (s s' : AuthorizationSet) :
    buildHiddenAuthorizations c s = buildHiddenAuthorizations c' s' ↔
      c.rootOfTrust = c'.rootOfTrust ∧ s.blobValue .applicationId = s'.blobValue .applicationId ∧
        s.blobValue .applicationData = s'.blobValue .applicationData := by
  simp only [Context.rootOfTrust, ← hiddenEntry_eq_iff]
  constructor
  · intro h
    have hid := congrArg (List.filter (·.tag == .applicationId)) h
    have hdata := congrArg (List.filter (·.tag == .applicationData)) h
    have hrot := congrArg (List.filter (·.tag == .rootOfTrust)) h
    simp [buildHiddenAuthorizations, filter_hiddenEntry] at hid hdata hrot
    exact ⟨by rw [hrot.1, verifiedBootStateBytes_inj hrot.2.1, boolBytes_inj hrot.2.2],
      hid, hdata⟩
  · rintro ⟨h, ha, hd⟩
    simp only [Prod.mk.injEq] at h
    simp only [buildHiddenAuthorizations, ha, hd, h.1, h.2.1, h.2.2]

end TrustyKeymaster
