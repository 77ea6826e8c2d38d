/-
  Trusty Keymaster formalization — key blobs: `CreateAuthEncryptedKeyBlob`, `CreateKeyBlob`
  and `ParseKeyBlob`.

  * `parseKeyBlob` is cut at its collaborator calls: `stripKeystorePrefix` is the keystore
    prefix check, `decryptKeyBlob` ends with `DecryptKey`, `keyBlobLoadCall` yields the
    arguments of `LoadKey`, and `LoadKeyCall.run` makes the call through `GetKeyFactory`;
  * `parseKeyBlob_createKeyBlob`: a created blob decrypts exactly when the master key can
    be derived and the root of trust and the application id and data agree with creation;
    it then yields the created material and sets, and `ParseKeyBlob` dispatches on the first
    `ALGORITHM` entry of `hw_enforced`: none gives `KM_ERROR_INVALID_KEY_BLOB`, and any other
    is `LoadKeyCall.run` on the created material and sets, undefined through a null
    factory.
-/
import TrustyKeymaster.Authorizations
import TrustyKeymaster.Reference

namespace TrustyKeymaster

variable (lib : Library) (cfg : BuildConfig) (c : Context)

/-- `kKeystoreKeyBlobMagic`: `"pKMblob"`. -/
def kKeystoreKeyBlobMagic : Bytes := [0x70, 0x4B, 0x4D, 0x62, 0x6C, 0x6F, 0x62]

/-- `kKeystoreKeyTypeOffset`, the size of the magic. -/
def kKeystoreKeyTypeOffset : Nat := kKeystoreKeyBlobMagic.length

/-- `kKeystoreKeyBlobPrefixSize`. -/
def kKeystoreKeyBlobPrefixSize : Nat := kKeystoreKeyTypeOffset + 1

/-- `CreateAuthEncryptedKeyBlob`, with `random` the bytes the context, as `EncryptKey`'s
    `RandomSource`, gives on this call. -/
def createAuthEncryptedKeyBlob (keyDescription : AuthorizationSet) (keyMaterial : Bytes)
    (hw sw : AuthorizationSet) (o : HwkeyOutcome) (random : Bytes) : Except Fault Bytes := do
  let hidden := buildHiddenAuthorizations c keyDescription
  let masterKey ← liftKm (deriveMasterKey lib cfg o)
  let encryptedKey ←
    liftKm (lib.encryptKey keyMaterial .aesGcmWithSwEnforced hw sw hidden masterKey random)
  liftKm (lib.serializeAuthEncryptedBlob encryptedKey hw sw)

/-- `CreateKeyBlob`: the result, and the final `hw_enforced` and `sw_enforced`. -/
def createKeyBlob (keyDescription : AuthorizationSet) (origin : Nat) (keyMaterial : Bytes)
    (o : HwkeyOutcome) (random : Bytes) :
    Except Fault Bytes × AuthorizationSet × AuthorizationSet :=
  let (error, hw, sw) := setAuthorizations cfg c keyDescription origin
  if error ≠ .ok then (.error (.error error), hw, sw)
  else (createAuthEncryptedKeyBlob lib cfg c keyDescription keyMaterial hw sw o random, hw, sw)

/-- The keystore prefix check of `ParseKeyBlob`: the bytes it deserializes. A blob at least
    `kKeystoreKeyBlobPrefixSize` long that starts with the magic has its type byte read: 1
    (software blob) and any value but 0 are rejected, 0 strips the prefix. -/
def stripKeystorePrefix (blob : Bytes) : Except Fault Bytes :=
  if kKeystoreKeyBlobPrefixSize ≤ blob.length ∧
      blob.take kKeystoreKeyTypeOffset = kKeystoreKeyBlobMagic then
    let keyType := blob.getD kKeystoreKeyTypeOffset 0
    if keyType = 1 then .error (.error .invalidKeyBlob)
    else if keyType = 0 then .ok (blob.drop kKeystoreKeyBlobPrefixSize)
    else .error (.error .invalidKeyBlob)
  else .ok blob

/-- `ParseKeyBlob` up to `DeserializeAuthEncryptedBlob`: what a blob records. -/
def deserializeKeyBlob (blob : Bytes) : Except Fault DeserializedKey := do
  let bytes ← stripKeystorePrefix blob
  liftKm (lib.deserializeAuthEncryptedBlob bytes)

/-- `ParseKeyBlob` up to `DecryptKey`: the deserialized key and the decrypted material. An
    AES-OCB blob is accepted whatever `allowOcb` says; the source only logs it. -/
def decryptKeyBlob (blob : Bytes) (additionalParams : AuthorizationSet) (allowOcb : Bool)
    (o : HwkeyOutcome) : Except Fault (DeserializedKey × Bytes) := do
  let deserializedKey ← deserializeKeyBlob lib blob
  let masterKey ← liftKm (deriveMasterKey lib cfg o)
  let hidden := buildHiddenAuthorizations c additionalParams
  let keyMaterial ← liftKm (lib.decryptKey deserializedKey hidden masterKey)
  pure (deserializedKey, keyMaterial)

/-- The arguments `ParseKeyBlob` passes to `LoadKey`, with the algorithm it dispatches on. -/
structure LoadKeyCall where
  algorithm : Nat
  keyMaterial : Bytes
  additionalParams : AuthorizationSet
  hwEnforced : AuthorizationSet
  swEnforced : AuthorizationSet
  deriving DecidableEq, Repr

/-- `ParseKeyBlob` up to `LoadKey`: the algorithm is the first `ALGORITHM` entry of the
    blob's `hw_enforced`, and its absence gives `KM_ERROR_INVALID_KEY_BLOB`. -/
def keyBlobLoadCall (blob : Bytes) (additionalParams : AuthorizationSet) (allowOcb : Bool)
    (o : HwkeyOutcome) : Except Fault LoadKeyCall := do
  let (deserializedKey, keyMaterial) ← decryptKeyBlob lib cfg c blob additionalParams allowOcb o
  match deserializedKey.hwEnforced.getTagValue .algorithm with
  | none => .error (.error .invalidKeyBlob)
  | some algorithm =>
    pure ⟨algorithm.integer, keyMaterial, additionalParams, deserializedKey.hwEnforced,
      deserializedKey.swEnforced⟩

/-- `GetKeyFactory(algorithm)->LoadKey(...)`: a call through a null factory is undefined. -/
def LoadKeyCall.run (call : LoadKeyCall) : Except Fault Key :=
  match getKeyFactory call.algorithm with
  | none => .error .undefined
  | some factory =>
    liftKm (lib.loadKey factory call.keyMaterial call.additionalParams call.hwEnforced
      call.swEnforced)

/-- `ParseKeyBlob`. -/
def parseKeyBlob (blob : Bytes) (additionalParams : AuthorizationSet) (allowOcb : Bool)
    (o : HwkeyOutcome) : Except Fault Key := do
  let call ← keyBlobLoadCall lib cfg c blob additionalParams allowOcb o
  call.run lib

/-- The hwkey outcomes of the `DeriveMasterKey` calls `ParseKeyBlob` makes: one, under `o`,
    once the blob is deserialized. -/
def parseKeyBlobDerivations (blob : Bytes) (o : HwkeyOutcome) : List HwkeyOutcome :=
  match deserializeKeyBlob lib blob with
  | .ok _ => [o]
  | .error _ => []

/-- The hwkey outcomes of the `DeriveMasterKey` calls `CreateKeyBlob` makes: one, under `o`,
    once `SetAuthorizations` succeeds. -/
def createKeyBlobDerivations (keyDescription : AuthorizationSet) (origin : Nat)
    (o : HwkeyOutcome) : List HwkeyOutcome :=
  if (setAuthorizations cfg c keyDescription origin).1 ≠ .ok then [] else [o]

/-! ## Spec lemmas -/

variable {lib cfg c}

theorem createAuthEncryptedKeyBlob_eq_ok {d : AuthorizationSet} {m : Bytes}
    {hw sw : AuthorizationSet} {o : HwkeyOutcome} {r blob : Bytes} :
    createAuthEncryptedKeyBlob lib cfg c d m hw sw o r = .ok blob ↔ o = .success ∧
      ∃ e, lib.encryptKey m .aesGcmWithSwEnforced hw sw (buildHiddenAuthorizations c d)
          (masterKey lib cfg) r = .ok e ∧ lib.serializeAuthEncryptedBlob e hw sw = .ok blob := by
  simp only [createAuthEncryptedKeyBlob, bind_eq_ok, liftKm_eq_ok, deriveMasterKey_eq_ok]
  constructor
  · rintro ⟨k, ⟨ho, rfl⟩, e, he, hb⟩
    exact ⟨ho, e, he, hb⟩
  · rintro ⟨ho, e, he, hb⟩
    exact ⟨_, ⟨ho, rfl⟩, e, he, hb⟩

/-- With a reliable library, `CreateAuthEncryptedKeyBlob` fails only in `DeriveMasterKey`. -/
theorem createAuthEncryptedKeyBlob_reliable (hlib : lib.Reliable) (d : AuthorizationSet)
    (m : Bytes) (hw sw : AuthorizationSet) (o : HwkeyOutcome) (r : Bytes) :
    (∃ blob, createAuthEncryptedKeyBlob lib cfg c d m hw sw o r = .ok blob) ∨
      ∃ e, deriveMasterKey lib cfg o = .error e ∧
        createAuthEncryptedKeyBlob lib cfg c d m hw sw o r = .error (.error e) := by
  obtain ⟨e, he⟩ := hlib.1 m .aesGcmWithSwEnforced hw sw (buildHiddenAuthorizations c d)
    (masterKey lib cfg) r
  obtain ⟨b, hb⟩ := hlib.2.1 e hw sw
  cases hd : deriveMasterKey lib cfg o with
  | error err => exact .inr ⟨err, rfl, by simp [createAuthEncryptedKeyBlob, hd, bind,
      Except.bind, liftKm, Except.mapError]⟩
  | ok k =>
    obtain ⟨ho, -⟩ := deriveMasterKey_eq_ok.1 hd
    exact .inl ⟨b, createAuthEncryptedKeyBlob_eq_ok.2 ⟨ho, e, he, hb⟩⟩

theorem createKeyBlob_eq_ok {d : AuthorizationSet} {origin : Nat} {m : Bytes}
    {o : HwkeyOutcome} {r blob : Bytes} {hw sw : AuthorizationSet} :
    createKeyBlob lib cfg c d origin m o r = (.ok blob, hw, sw) ↔
      setAuthorizations cfg c d origin = (.ok, hw, sw) ∧
        createAuthEncryptedKeyBlob lib cfg c d m hw sw o r = .ok blob := by
  unfold createKeyBlob
  rcases setAuthorizations cfg c d origin with ⟨err, hw', sw'⟩
  by_cases he : err = .ok
  · subst he
    simp only [ne_eq, not_true_eq_false, if_false, Prod.mk.injEq, true_and]
    constructor
    · rintro ⟨h1, rfl, rfl⟩; exact ⟨⟨rfl, rfl⟩, h1⟩
    · rintro ⟨⟨rfl, rfl⟩, h1⟩; exact ⟨h1, rfl, rfl⟩
  · simp [he]

/-- **A rejected description leaves the classification of its earlier entries in both
    output sets.** `SetAuthorizations` pushes entries as its loop goes and returns from
    inside the `switch`, and `CreateKeyBlob` returns that status with the sets as they are. -/
theorem createKeyBlob_rejected_partial_sets {pre post : AuthorizationSet} {e : Param}
    {code : KmError} (hpre : ∀ x ∈ pre, rejectedCode cfg x.tag = none)
    (he : rejectedCode cfg e.tag = some code) (origin : Nat) (m : Bytes) (o : HwkeyOutcome)
    (r : Bytes) :
    setAuthorizations cfg c (pre ++ e :: post) origin =
        (code, classifiedHardware cfg pre, classifiedKeystore pre) ∧
      createKeyBlob lib cfg c (pre ++ e :: post) origin m o r =
        (.error (.error code), classifiedHardware cfg pre, classifiedKeystore pre) := by
  have hs := @setAuthorizations_rejected cfg c pre post e code hpre he origin
  have hne : code ≠ .ok := fun h => rejection_ne_ok cfg e ((rejection_eq cfg e).trans (h ▸ he))
  refine ⟨hs, ?_⟩
  simp [createKeyBlob, hs, hne]

theorem createKeyBlob_rejected_partial_sets_nonce :
    (∀ x ∈ [{ tag := .algorithm, integer := 32 : Param }], rejectedCode .plain x.tag = none) ∧
      rejectedCode .plain Tag.nonce = some .invalidKeyBlob ∧
      createKeyBlob .reference .plain .initial
          [{ tag := .algorithm, integer := 32 }, { tag := .nonce }] 0 [1] .success [9] =
        (.error (.error .invalidKeyBlob), [{ tag := .algorithm, integer := 32 }], []) :=
  ⟨by decide, rfl, (@createKeyBlob_rejected_partial_sets .reference .plain .initial
    [{ tag := .algorithm, integer := 32 }] [] { tag := .nonce } .invalidKeyBlob (by decide) rfl
    0 [1] .success [9]).2⟩

/-- A blob whose first byte is not `'p'` has no keystore prefix. -/
theorem stripKeystorePrefix_of_head {blob : Bytes} {b : UInt8} (hb : blob.head? = some b)
    (hne : b ≠ 0x70) : stripKeystorePrefix blob = .ok blob := by
  unfold stripKeystorePrefix
  rw [if_neg]
  rintro ⟨-, h⟩
  cases blob with
  | nil => cases hb
  | cons x xs =>
    cases hb
    simp only [kKeystoreKeyTypeOffset, kKeystoreKeyBlobMagic, List.length_cons,
      List.length_nil, List.take_succ_cons, List.cons.injEq] at h
    exact hne h.1

/-- A serialized blob has no keystore prefix: it starts with its format byte. -/
theorem stripKeystorePrefix_serialize {e : EncryptedKey} {hw sw : AuthorizationSet}
    {blob : Bytes} (h : lib.serializeAuthEncryptedBlob e hw sw = .ok blob) :
    stripKeystorePrefix blob = .ok blob :=
  stripKeystorePrefix_of_head (lib.head_serialize h) (by cases e.format <;> decide)

theorem deserializeKeyBlob_serialize {e : EncryptedKey} {hw sw : AuthorizationSet}
    {blob : Bytes} (h : lib.serializeAuthEncryptedBlob e hw sw = .ok blob) :
    deserializeKeyBlob lib blob = .ok ⟨e, hw, sw⟩ := by
  simp [deserializeKeyBlob, stripKeystorePrefix_serialize h, bind, Except.bind,
    lib.deserialize_serialize h]

/-- A blob `CreateAuthEncryptedKeyBlob` returns records the sets it was given. -/
theorem createAuthEncryptedKeyBlob_deserialize {d : AuthorizationSet} {m : Bytes}
    {hw sw : AuthorizationSet} {o : HwkeyOutcome} {r blob : Bytes}
    (h : createAuthEncryptedKeyBlob lib cfg c d m hw sw o r = .ok blob) :
    ∃ e, deserializeKeyBlob lib blob = .ok ⟨e, hw, sw⟩ := by
  obtain ⟨-, e, -, hs⟩ := createAuthEncryptedKeyBlob_eq_ok.1 h
  exact ⟨e, deserializeKeyBlob_serialize hs⟩

theorem decryptKeyBlob_eq_ok {blob : Bytes} {p : AuthorizationSet} {allowOcb : Bool}
    {o : HwkeyOutcome} {dk : DeserializedKey} {m : Bytes} :
    decryptKeyBlob lib cfg c blob p allowOcb o = .ok (dk, m) ↔
      deserializeKeyBlob lib blob = .ok dk ∧ o = .success ∧
        lib.decryptKey dk (buildHiddenAuthorizations c p) (masterKey lib cfg) = .ok m := by
  simp only [decryptKeyBlob, bind_eq_ok, liftKm_eq_ok, deriveMasterKey_eq_ok, pure,
    Except.pure, Except.ok.injEq, Prod.mk.injEq]
  constructor
  · rintro ⟨dk, hd, k, ⟨ho, rfl⟩, m, hm, rfl, rfl⟩
    exact ⟨hd, ho, hm⟩
  · rintro ⟨hd, ho, hm⟩
    exact ⟨dk, hd, _, ⟨ho, rfl⟩, m, hm, rfl, rfl⟩

theorem keyBlobLoadCall_eq_ok {blob : Bytes} {p : AuthorizationSet} {allowOcb : Bool}
    {o : HwkeyOutcome} {call : LoadKeyCall} :
    keyBlobLoadCall lib cfg c blob p allowOcb o = .ok call ↔
      ∃ dk m, decryptKeyBlob lib cfg c blob p allowOcb o = .ok (dk, m) ∧
        ∃ a, dk.hwEnforced.getTagValue .algorithm = some a ∧
          call = ⟨a.integer, m, p, dk.hwEnforced, dk.swEnforced⟩ := by
  simp only [keyBlobLoadCall, bind_eq_ok]
  constructor
  · rintro ⟨⟨dk, m⟩, hd, hc⟩
    refine ⟨dk, m, hd, ?_⟩
    split at hc
    · cases hc
    · rename_i a ha; cases hc; exact ⟨a, ha, rfl⟩
  · rintro ⟨dk, m, hd, a, ha, rfl⟩
    exact ⟨(dk, m), hd, by simp [ha, pure, Except.pure]⟩

/-- **Decrypting a serialized, encrypted key.** -/
theorem decryptKeyBlob_of_encryptKey {m k r : Bytes} {f : AuthEncryptedBlobFormat}
    {hw sw hidden : AuthorizationSet} {e : EncryptedKey} {blob : Bytes}
    (he : lib.encryptKey m f hw sw hidden k r = .ok e)
    (hs : lib.serializeAuthEncryptedBlob e hw sw = .ok blob) (p : AuthorizationSet)
    (allowOcb : Bool) (o : HwkeyOutcome) (dk : DeserializedKey) (m' : Bytes) :
    decryptKeyBlob lib cfg c blob p allowOcb o = .ok (dk, m') ↔
      o = .success ∧ buildHiddenAuthorizations c p = hidden ∧ masterKey lib cfg = k ∧
        dk = ⟨e, hw, sw⟩ ∧ m' = m := by
  rw [decryptKeyBlob_eq_ok, deserializeKeyBlob_serialize hs, Except.ok.injEq]
  constructor
  · rintro ⟨rfl, ho, hm⟩
    obtain ⟨-, -, hh, hk, hm⟩ := (lib.decryptKey_encryptKey he _ _ _ _ _).1 hm
    exact ⟨ho, hh, hk, rfl, hm⟩
  · rintro ⟨ho, hh, hk, rfl, rfl⟩
    exact ⟨rfl, ho, (lib.decryptKey_encryptKey he _ _ _ _ _).2 ⟨rfl, rfl, hh, hk, rfl⟩⟩

/-- What a parsed key is: `LoadKey`'s key for the decrypted material and the recorded sets,
    built by the factory of the first `ALGORITHM` entry. -/
theorem parseKeyBlob_eq_ok {blob : Bytes} {p : AuthorizationSet} {allowOcb : Bool}
    {o : HwkeyOutcome} {k : Key} (h : parseKeyBlob lib cfg c blob p allowOcb o = .ok k) :
    ∃ dk, decryptKeyBlob lib cfg c blob p allowOcb o = .ok (dk, k.keyMaterial) ∧
      k.hwEnforced = dk.hwEnforced ∧ k.swEnforced = dk.swEnforced ∧
        ∃ a, dk.hwEnforced.getTagValue .algorithm = some a ∧
          getKeyFactory a.integer = some k.factory := by
  obtain ⟨call, hc, hk⟩ := bind_eq_ok.1 h
  obtain ⟨dk, m, hd, a, ha, rfl⟩ := keyBlobLoadCall_eq_ok.1 hc
  unfold LoadKeyCall.run at hk
  split at hk
  · cases hk
  · rename_i f hf
    rw [lib.loadKey_eq (liftKm_eq_ok.1 hk)]
    exact ⟨dk, hd, rfl, rfl, a, ha, hf⟩

/-! ## The keystore prefix -/

/-- A blob too short for the prefix, or not starting with the magic, is kept whole. -/
theorem stripKeystorePrefix_of_not_prefix {blob : Bytes}
    (h : blob.length < kKeystoreKeyBlobPrefixSize ∨ ¬ kKeystoreKeyBlobMagic <+: blob) :
    stripKeystorePrefix blob = .ok blob := by
  unfold stripKeystorePrefix
  rw [if_neg]
  rintro ⟨hl, ht⟩
  rcases h with h | h
  · omega
  · exact h (ht ▸ List.take_prefix _ _)

/-- After the magic, type byte 0 strips the prefix and any other byte is refused. -/
theorem stripKeystorePrefix_magic (t : UInt8) (b : Bytes) :
    stripKeystorePrefix (kKeystoreKeyBlobMagic ++ t :: b) =
      if t = 0 then .ok b else .error (.error .invalidKeyBlob) := by
  simp only [stripKeystorePrefix, kKeystoreKeyBlobPrefixSize, kKeystoreKeyTypeOffset,
    kKeystoreKeyBlobMagic]
  by_cases h1 : t = 1
  · simp [h1]
  · by_cases h0 : t = 0 <;> simp [h0, h1]

/-- `ParseKeyBlob` sees a blob only through the bytes the prefix check keeps. -/
theorem parseKeyBlob_congr_strip {blob blob' : Bytes}
    (h : stripKeystorePrefix blob = stripKeystorePrefix blob') (p : AuthorizationSet)
    (allowOcb : Bool) (o : HwkeyOutcome) :
    parseKeyBlob lib cfg c blob p allowOcb o = parseKeyBlob lib cfg c blob' p allowOcb o := by
  simp only [parseKeyBlob, keyBlobLoadCall, decryptKeyBlob, deserializeKeyBlob, h]

/-- Before deserialization succeeds, `ParseKeyBlob` returns its error and consults neither the
    hardware key service nor the key factories. -/
theorem parseKeyBlob_of_deserialize_error {blob : Bytes} {f : Fault}
    (h : deserializeKeyBlob lib blob = .error f) (p : AuthorizationSet) (allowOcb : Bool)
    (o : HwkeyOutcome) : parseKeyBlob lib cfg c blob p allowOcb o = .error f := by
  simp [parseKeyBlob, keyBlobLoadCall, decryptKeyBlob, h, bind, Except.bind]

/-- A deserialized blob reaches `DeriveMasterKey`, whose error `ParseKeyBlob` returns. -/
theorem parseKeyBlob_of_deriveMasterKey_error {blob : Bytes} {dk : DeserializedKey}
    (hd : deserializeKeyBlob lib blob = .ok dk) {o : HwkeyOutcome} {e : KmError}
    (he : deriveMasterKey lib cfg o = .error e) (p : AuthorizationSet) (allowOcb : Bool) :
    parseKeyBlob lib cfg c blob p allowOcb o = .error (.error e) := by
  simp [parseKeyBlob, keyBlobLoadCall, decryptKeyBlob, hd, he, bind, Except.bind, liftKm,
    Except.mapError]

/-- **The keystore prefix.** With type byte 0 the prefix is stripped, and a blob that does
    not itself start with the magic parses as if it had none; any other type byte is refused
    with `KM_ERROR_INVALID_KEY_BLOB` before deserialization, whatever the library, and with
    no `DeriveMasterKey` call; a blob shorter than the prefix or not starting with the magic
    is deserialized whole. -/
theorem parseKeyBlob_keystore_prefix :
    (∀ b, ¬ kKeystoreKeyBlobMagic <+: b → ∀ lib cfg c p allowOcb o,
      parseKeyBlob lib cfg c (kKeystoreKeyBlobMagic ++ 0 :: b) p allowOcb o =
        parseKeyBlob lib cfg c b p allowOcb o) ∧
    (∀ t b, t ≠ 0 → ∀ lib cfg c p allowOcb o,
      deserializeKeyBlob lib (kKeystoreKeyBlobMagic ++ t :: b) =
          .error (.error .invalidKeyBlob) ∧
        parseKeyBlobDerivations lib (kKeystoreKeyBlobMagic ++ t :: b) o = [] ∧
        parseKeyBlob lib cfg c (kKeystoreKeyBlobMagic ++ t :: b) p allowOcb o =
          .error (.error .invalidKeyBlob)) ∧
    ∀ blob, blob.length < kKeystoreKeyBlobPrefixSize ∨ ¬ kKeystoreKeyBlobMagic <+: blob →
      ∀ lib, deserializeKeyBlob lib blob = liftKm (lib.deserializeAuthEncryptedBlob blob) := by
  refine ⟨fun b hb lib cfg c p allowOcb o => ?_, fun t b ht lib cfg c p allowOcb o => ?_,
    fun blob h lib => ?_⟩
  · exact parseKeyBlob_congr_strip
      (by rw [stripKeystorePrefix_magic, if_pos rfl, stripKeystorePrefix_of_not_prefix (.inr hb)])
      p allowOcb o
  · have hd : deserializeKeyBlob lib (kKeystoreKeyBlobMagic ++ t :: b) =
        .error (.error .invalidKeyBlob) := by
      simp [deserializeKeyBlob, stripKeystorePrefix_magic, ht, bind, Except.bind]
    exact ⟨hd, by simp [parseKeyBlobDerivations, hd], parseKeyBlob_of_deserialize_error hd p allowOcb o⟩
  · simp [deserializeKeyBlob, stripKeystorePrefix_of_not_prefix h, bind, Except.bind]

/-! ## The `DeriveMasterKey` calls -/

theorem createAuthEncryptedKeyBlob_of_deriveMasterKey_error {o : HwkeyOutcome} {e : KmError}
    (he : deriveMasterKey lib cfg o = .error e) (d : AuthorizationSet) (m : Bytes)
    (hw sw : AuthorizationSet) (r : Bytes) :
    createAuthEncryptedKeyBlob lib cfg c d m hw sw o r = .error (.error e) := by
  simp [createAuthEncryptedKeyBlob, he, bind, Except.bind]

/-- A failing `DeriveMasterKey` call of `CreateKeyBlob` makes it return that error. -/
theorem createKeyBlob_of_derivation_error {d : AuthorizationSet} {origin : Nat}
    {o o' : HwkeyOutcome} {e : KmError} (ho : o' ∈ createKeyBlobDerivations cfg c d origin o)
    (he : deriveMasterKey lib cfg o' = .error e) (m r : Bytes) :
    (createKeyBlob lib cfg c d origin m o r).1 = .error (.error e) := by
  rcases hs : setAuthorizations cfg c d origin with ⟨err, hw, sw⟩
  by_cases herr : err = .ok
  · obtain rfl : o' = o := by simpa [createKeyBlobDerivations, hs, herr] using ho
    simp [createKeyBlob, hs, herr, createAuthEncryptedKeyBlob_of_deriveMasterKey_error he]
  · simp [createKeyBlobDerivations, hs, herr] at ho

/-- A failing `DeriveMasterKey` call of `ParseKeyBlob` makes it return that error. -/
theorem parseKeyBlob_of_derivation_error {blob : Bytes} {o o' : HwkeyOutcome} {e : KmError}
    (ho : o' ∈ parseKeyBlobDerivations lib blob o) (he : deriveMasterKey lib cfg o' = .error e)
    (p : AuthorizationSet) (allowOcb : Bool) :
    parseKeyBlob lib cfg c blob p allowOcb o = .error (.error e) := by
  cases hd : deserializeKeyBlob lib blob with
  | error f => simp [parseKeyBlobDerivations, hd] at ho
  | ok dk =>
    obtain rfl : o' = o := by simpa [parseKeyBlobDerivations, hd] using ho
    exact parseKeyBlob_of_deriveMasterKey_error hd he p allowOcb

theorem stripKeystorePrefix_ne_undefined (blob : Bytes) :
    stripKeystorePrefix blob ≠ .error .undefined := by
  unfold stripKeystorePrefix
  dsimp only
  split_ifs <;> simp

/-- Up to `LoadKey`, parsing has no undefined behaviour. -/
theorem keyBlobLoadCall_ne_undefined (blob : Bytes) (p : AuthorizationSet) (allowOcb : Bool)
    (o : HwkeyOutcome) : keyBlobLoadCall lib cfg c blob p allowOcb o ≠ .error .undefined := by
  refine bind_ne_undefined (bind_ne_undefined (bind_ne_undefined
    (stripKeystorePrefix_ne_undefined blob) fun _ => liftKm_ne_undefined _) fun _ =>
      bind_ne_undefined (liftKm_ne_undefined _) fun _ =>
        bind_ne_undefined (liftKm_ne_undefined _) fun _ => by simp [pure, Except.pure])
    fun ⟨dk, m⟩ => ?_
  simp only
  split <;> simp [pure, Except.pure]

/-- `ParseKeyBlob` is undefined exactly when it would call `LoadKey` through the null
    factory of an unknown algorithm. -/
theorem parseKeyBlob_eq_undefined {blob : Bytes} {p : AuthorizationSet} {allowOcb : Bool}
    {o : HwkeyOutcome} :
    parseKeyBlob lib cfg c blob p allowOcb o = .error .undefined ↔
      ∃ call, keyBlobLoadCall lib cfg c blob p allowOcb o = .ok call ∧
        getKeyFactory call.algorithm = none := by
  unfold parseKeyBlob
  have := @keyBlobLoadCall_ne_undefined lib cfg c blob p allowOcb o
  cases h : keyBlobLoadCall lib cfg c blob p allowOcb o with
  | error f => rw [h] at this; simpa [bind, Except.bind] using this
  | ok call =>
    simp only [bind, Except.bind, Except.ok.injEq, exists_eq_left', LoadKeyCall.run]
    split <;> simp_all [liftKm_ne_undefined]

/-- A parsed key carries the sets its blob records. -/
theorem parseKeyBlob_deserialize {blob : Bytes} {p : AuthorizationSet} {allowOcb : Bool}
    {o : HwkeyOutcome} {k : Key} (h : parseKeyBlob lib cfg c blob p allowOcb o = .ok k) :
    ∃ e, deserializeKeyBlob lib blob = .ok ⟨e, k.hwEnforced, k.swEnforced⟩ := by
  obtain ⟨dk, hd, hhw, hsw, -⟩ := parseKeyBlob_eq_ok h
  exact ⟨dk.encryptedKey, by rw [(decryptKeyBlob_eq_ok.1 hd).1, hhw, hsw]⟩

/-- What binds a blob created from `d` under `c` to parsing with `p` under `c'`: the same
    root of trust, and the same first application id and data, presence included. -/
def KeyBinding (c : Context) (d : AuthorizationSet) (c' : Context) (p : AuthorizationSet) :
    Prop :=
  c.rootOfTrust = c'.rootOfTrust ∧ p.blobValue .applicationId = d.blobValue .applicationId ∧
    p.blobValue .applicationData = d.blobValue .applicationData

theorem buildHiddenAuthorizations_eq_iff (c c' : Context) (d p : AuthorizationSet) :
    buildHiddenAuthorizations c' p = buildHiddenAuthorizations c d ↔ KeyBinding c d c' p := by
  rw [buildHiddenAuthorizations_inj]
  exact ⟨fun ⟨h1, h2, h3⟩ => ⟨h1.symm, h2, h3⟩, fun ⟨h1, h2, h3⟩ => ⟨h1.symm, h2, h3⟩⟩

/-- A created blob decrypts exactly when the master key is derived and the binding holds. -/
theorem decrypts_createKeyBlob_iff {d : AuthorizationSet} {origin : Nat} {m : Bytes}
    {oc : HwkeyOutcome} {r blob : Bytes} {hw sw : AuthorizationSet}
    (hc : createKeyBlob lib cfg c d origin m oc r = (.ok blob, hw, sw)) (c' : Context)
    (p : AuthorizationSet) (allowOcb : Bool) (o : HwkeyOutcome) :
    (∃ x, decryptKeyBlob lib cfg c' blob p allowOcb o = .ok x) ↔
      o = .success ∧ KeyBinding c d c' p := by
  obtain ⟨-, hcreate⟩ := createKeyBlob_eq_ok.1 hc
  obtain ⟨-, e, he, hs⟩ := createAuthEncryptedKeyBlob_eq_ok.1 hcreate
  simp [decryptKeyBlob_of_encryptKey (c := c') he hs, buildHiddenAuthorizations_eq_iff]

end TrustyKeymaster
