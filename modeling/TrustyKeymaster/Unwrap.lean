/-
  Trusty Keymaster formalization — `UnwrapKey`, the secure import of a wrapped key.

  The collaborators beyond those of `ParseKeyBlob` are unconstrained: `parse_wrapped_key`,
  the operation factories of the key factories, and the operations they create, which may
  return any pointer, null included, with any status.

  * `parseWrappingKey` is step 1 (parse the wrapping key and check its authorizations and
    `wrapping_key_params`), `decryptWrappedKey` steps 2 to 4 after `parse_wrapped_key`
    (decrypt the transit key, unmask it, decrypt the secure key under it), and `unwrapKey`
    the method, with its three output parameters;
  * `UnwrapAllocations` is which of the four buffers `UnwrapKey` allocates get their memory
    on the call: `input`, `plaintext_key`, `encrypted_key` and the copy into
    `*wrapped_key_material`, each failure returning `KM_ERROR_MEMORY_ALLOCATION_FAILED` at its
    place in the source;
  * `decryptWrappedKey_eq_ok`: the decryption yields a plaintext exactly when both
    operations are created, not null and with `KM_ERROR_OK`, every call on them succeeds and
    the three intermediate buffers are allocated;
  * `unwrapKey_of_decrypt`: when every step succeeds `UnwrapKey` returns `.ok ()` and writes
    the plaintext; `unwrapKey_null_operation_returns_ok`: it also returns the status
    `KM_ERROR_OK`, without writing any key material, when the transit-key operation is null
    with `KM_ERROR_OK`;
  * `unwrapKey_error_outputs`: what a failing call leaves in the outputs: the entry values
    when it fails before `parse_wrapped_key`, what that wrote in the parameters and format
    when it fails after, and an empty material when the final copy fails.
-/
import TrustyKeymaster.KeyBlob

namespace TrustyKeymaster

/-! ## `keymaster_purpose_t`, `keymaster_digest_t`, `keymaster_padding_t` and
    `keymaster_block_mode_t` values -/

namespace KmPurpose
def encrypt : Nat := 0
def decrypt : Nat := 1
def wrap : Nat := 5
end KmPurpose

namespace KmDigest
def sha256 : Nat := 4
end KmDigest

namespace KmPadding
def none : Nat := 1
def rsaOaep : Nat := 2
end KmPadding

namespace KmBlockMode
def gcm : Nat := 32
end KmBlockMode

/-! ## The collaborators -/

/-- An operation as `UnwrapKey` drives it: the status of `Begin`, and the status and output
    of `Update` and `Finish`. -/
structure Operation where
  begin : AuthorizationSet → KmError
  update : AuthorizationSet → Bytes → KmError × Bytes
  finish : AuthorizationSet → Bytes → KmError × Bytes

/-- An `OperationFactory`: `CreateOperation` returns a pointer, possibly null, and a status. -/
structure OperationFactory where
  createOperation : Key → AuthorizationSet → Option Operation × KmError

/-- What `parse_wrapped_key` yields: the local buffers it fills, and what it leaves in
    `*wrapped_key_params` and `*wrapped_key_format`. -/
structure WrappedKey where
  iv : Bytes
  transitKey : Bytes
  secureKey : Bytes
  tag : Bytes
  wrappedKeyDescription : Bytes
  wrappedKeyParams : AuthorizationSet
  wrappedKeyFormat : Nat

/-- The collaborators `UnwrapKey` calls besides those of `ParseKeyBlob`: `parse_wrapped_key`
    (given the blob and the prior contents of its two output parameters), and
    `GetOperationFactory(purpose)` of each key factory. -/
structure UnwrapServices where
  parseWrappedKey : Bytes → AuthorizationSet → Nat → KmError × WrappedKey
  getOperationFactory : KeyFactory → Nat → Option OperationFactory

/-- Which of the buffers `UnwrapKey` allocates get their memory on one call: `input` (the
    transit key, before the RSA `Finish`), `plaintext_key` and `encrypted_key` (before the
    AES `Update`), and the final copy into `*wrapped_key_material`. -/
structure UnwrapAllocations where
  input : Bool
  plaintextKey : Bool
  encryptedKey : Bool
  wrappedKeyMaterial : Bool
  deriving DecidableEq, Repr

/-- The outcome in which every allocation succeeds. -/
def UnwrapAllocations.success : UnwrapAllocations := ⟨true, true, true, true⟩

/-- The context's `GetOperationFactory(algorithm, purpose)`. -/
def getOperationFactory (svc : UnwrapServices) (algorithm purpose : Nat) :
    Option OperationFactory := do
  let keyFactory ← getKeyFactory algorithm
  svc.getOperationFactory keyFactory purpose

/-! ## `UnwrapKey` -/

/-- The authorizations of the AES transport key: `AesEncryptionKey(256)`, no padding, GCM,
    the wrapped key's IV as nonce, and a 128-bit minimum MAC length. -/
def transportKeyAuthorizations (iv : Bytes) : AuthorizationSet :=
  [{ tag := .algorithm, integer := KmAlgorithm.aes }, { tag := .keySize, integer := 256 },
    { tag := .purpose, integer := KmPurpose.encrypt },
    { tag := .purpose, integer := KmPurpose.decrypt },
    { tag := .padding, integer := KmPadding.none }, { tag := .blockMode, integer := KmBlockMode.gcm },
    { tag := .nonce, blob := iv }, { tag := .minMacLength, integer := 128 }]

/-- `gcm_params`. -/
def gcmParams (iv : Bytes) : AuthorizationSet :=
  [{ tag := .padding, integer := KmPadding.none }, { tag := .blockMode, integer := KmBlockMode.gcm },
    { tag := .nonce, blob := iv }, { tag := .macLength, integer := 128 }]

/-- `update_params`: the wrapped key description as associated data. -/
def updateParams (wrappedKeyDescription : Bytes) : AuthorizationSet :=
  [{ tag := .associatedData, blob := wrappedKeyDescription }]

/-- The byte-by-byte XOR of the transport key with the masking key. -/
def xorBytes (transportKey maskingKey : Bytes) : Bytes :=
  List.zipWith (· ^^^ ·) transportKey maskingKey

variable (lib : Library) (cfg : BuildConfig) (c : Context) (svc : UnwrapServices)

/-- Step 1 of `UnwrapKey`: parse the wrapping key, and check that it may wrap with SHA-256
    and OAEP padding and that `wrapping_key_params` ask for them. -/
def parseWrappingKey (wrappingKeyBlob : Bytes) (wrappingKeyParams : AuthorizationSet)
    (o : HwkeyOutcome) : Except Fault Key := do
  let wrappingKey ← parseKeyBlob lib cfg c wrappingKeyBlob wrappingKeyParams false o
  let wrappingKeyAuths := authProxy wrappingKey.hwEnforced wrappingKey.swEnforced
  ensure (wrappingKeyAuths.contains .purpose KmPurpose.wrap) .incompatiblePurpose
  ensure (wrappingKeyAuths.contains .digest KmDigest.sha256) .incompatibleDigest
  ensure (wrappingKeyAuths.contains .padding KmPadding.rsaOaep) .incompatiblePaddingMode
  ensure (wrappingKeyParams.contains .digest KmDigest.sha256) .incompatibleDigest
  ensure (wrappingKeyParams.contains .padding KmPadding.rsaOaep) .incompatiblePaddingMode
  pure wrappingKey

/-- `CreateOperation` through a factory, as `UnwrapKey` checks it: a null operation or a
    status other than `KM_ERROR_OK` returns that status, whatever it is. -/
def createOperationChecked (f : OperationFactory) (key : Key) (params : AuthorizationSet) :
    Except Fault Operation :=
  match f.createOperation key params with
  | (some operation, .ok) => pure operation
  | (_, error) => throw (.error error)

/-- Steps 2 to 4 of `UnwrapKey` after `parse_wrapped_key`: the plaintext key, or the status
    of an early return. -/
def decryptWrappedKey (wrappingKey : Key) (wrappingKeyParams : AuthorizationSet)
    (maskingKey : Bytes) (w : WrappedKey) (allocs : UnwrapAllocations) :
    Except Fault Bytes := do
  let operationFactory ← requireSome .unknownError
    (svc.getOperationFactory wrappingKey.factory KmPurpose.decrypt)
  let operation ← createOperationChecked operationFactory wrappingKey wrappingKeyParams
  let error := operation.begin wrappingKeyParams
  ensure (error = .ok) error
  ensure allocs.input .memoryAllocationFailed
  let (error, transportKey) := operation.finish wrappingKeyParams w.transitKey
  ensure (error = .ok) error
  ensure (transportKey.length = maskingKey.length) .invalidArgument
  let transportKey := xorBytes transportKey maskingKey
  let aesFactory ← requireSome .unknownError (getKeyFactory KmAlgorithm.aes)
  let aesTransportKey ← liftKm (lib.loadKey aesFactory transportKey (gcmParams w.iv)
    (transportKeyAuthorizations w.iv) [])
  let aesOperationFactory ← requireSome .unknownError
    (getOperationFactory svc KmAlgorithm.aes KmPurpose.decrypt)
  let aesOperation ← createOperationChecked aesOperationFactory aesTransportKey (gcmParams w.iv)
  let error := aesOperation.begin (gcmParams w.iv)
  ensure (error = .ok) error
  ensure allocs.plaintextKey .memoryAllocationFailed
  ensure allocs.encryptedKey .memoryAllocationFailed
  let (error, updateOutput) :=
    aesOperation.update (updateParams w.wrappedKeyDescription) (w.secureKey ++ w.tag)
  ensure (error = .ok) error
  let (error, finishOutput) := aesOperation.finish [] []
  ensure (error = .ok) error
  pure (updateOutput ++ finishOutput)

/-- The three output parameters of `UnwrapKey`; `wrappedKeyMaterial` is `none` for a null
    pointer. -/
structure UnwrapOutputs where
  wrappedKeyParams : AuthorizationSet
  wrappedKeyFormat : Nat
  wrappedKeyMaterial : Option Bytes

/-- `UnwrapKey`: its result (`.ok ()` for `KM_ERROR_OK`, `.error (.error e)` for a returned
    status `e`) and its output parameters. -/
def unwrapKey (wrappedKeyBlob wrappingKeyBlob : Bytes) (wrappingKeyParams : AuthorizationSet)
    (maskingKey : Bytes) (out : UnwrapOutputs) (o : HwkeyOutcome) (allocs : UnwrapAllocations) :
    Except Fault Unit × UnwrapOutputs :=
  if out.wrappedKeyMaterial.isNone then (.error (.error .unexpectedNullPointer), out)
  else
    match parseWrappingKey lib cfg c wrappingKeyBlob wrappingKeyParams o with
    | .error f => (.error f, out)
    | .ok wrappingKey =>
      let (error, w) := svc.parseWrappedKey wrappedKeyBlob out.wrappedKeyParams
        out.wrappedKeyFormat
      let out := { out with
        wrappedKeyParams := w.wrappedKeyParams
        wrappedKeyFormat := w.wrappedKeyFormat }
      if error ≠ .ok then (.error (.error error), out)
      else
        match decryptWrappedKey lib svc wrappingKey wrappingKeyParams maskingKey w allocs with
        | .error f => (.error f, out)
        | .ok plaintextKey =>
          if allocs.wrappedKeyMaterial then (.ok (), { out with wrappedKeyMaterial := some plaintextKey })
          else (.error (.error .memoryAllocationFailed), { out with wrappedKeyMaterial := some [] })

/-- The hwkey outcomes of the `DeriveMasterKey` calls `UnwrapKey` makes: those of
    `ParseKeyBlob` on the wrapping key, once the material pointer is checked. -/
def unwrapKeyDerivations (wrappingKeyBlob : Bytes) (out : UnwrapOutputs) (o : HwkeyOutcome) :
    List HwkeyOutcome :=
  if out.wrappedKeyMaterial.isNone then [] else parseKeyBlobDerivations lib wrappingKeyBlob o

/-- The status an `UnwrapKey` result returns; `none` for undefined behaviour. -/
def unwrapStatus : Except Fault Unit → Option KmError
  | .ok () => some .ok
  | .error (.error e) => some e
  | .error .undefined => none

/-! ## Spec lemmas -/

variable {lib cfg c svc}

@[simp] theorem createOperationChecked_eq_ok {f : OperationFactory} {key : Key}
    {params : AuthorizationSet} {op : Operation} :
    createOperationChecked f key params = .ok op ↔ f.createOperation key params = (some op, .ok) := by
  unfold createOperationChecked
  rcases f.createOperation key params with ⟨_ | op', e⟩
  · simp [throw, throwThe, MonadExceptOf.throw]
  · cases e <;> simp [pure, Except.pure, throw, throwThe, MonadExceptOf.throw]

/-- The decryption yields a plaintext exactly when the wrapping key's factory has a decrypt
    operation factory that creates an operation, whose `Begin` and `Finish` on the transit
    key succeed with a key as long as the mask, and the AES transport key under the unmasked
    key loads and has an operation whose `Begin`, `Update` on the secure key and tag, and
    `Finish` succeed, and the three buffers on the way are allocated; the plaintext is what
    `Update` and `Finish` wrote. -/
theorem decryptWrappedKey_eq_ok {wrappingKey : Key} {params : AuthorizationSet}
    {maskingKey : Bytes} {w : WrappedKey} {allocs : UnwrapAllocations} {plaintext : Bytes} :
    decryptWrappedKey lib svc wrappingKey params maskingKey w allocs = .ok plaintext ↔
      ∃ f op t, svc.getOperationFactory wrappingKey.factory KmPurpose.decrypt = some f ∧
        f.createOperation wrappingKey params = (some op, .ok) ∧ op.begin params = .ok ∧
        allocs.input = true ∧
        op.finish params w.transitKey = (.ok, t) ∧ t.length = maskingKey.length ∧
        ∃ aesKey g aesOp u fin,
          lib.loadKey .aes (xorBytes t maskingKey) (gcmParams w.iv)
            (transportKeyAuthorizations w.iv) [] = .ok aesKey ∧
          svc.getOperationFactory .aes KmPurpose.decrypt = some g ∧
          g.createOperation aesKey (gcmParams w.iv) = (some aesOp, .ok) ∧
          aesOp.begin (gcmParams w.iv) = .ok ∧
          allocs.plaintextKey = true ∧ allocs.encryptedKey = true ∧
          aesOp.update (updateParams w.wrappedKeyDescription) (w.secureKey ++ w.tag) = (.ok, u) ∧
          aesOp.finish [] [] = (.ok, fin) ∧ plaintext = u ++ fin := by
  simp only [decryptWrappedKey, bind_eq_ok, requireSome_eq_ok, createOperationChecked_eq_ok,
    ensure_eq_ok, liftKm_eq_ok]
  simp only [Prod.ext_iff, getKeyFactory, KmAlgorithm.aes, KmAlgorithm.rsa, Nat.reduceEqDiff,
    ↓reduceIte, KmAlgorithm.ec, Option.some.injEq, getOperationFactory, bind, Option.bind, pure,
    Except.pure, Except.ok.injEq, exists_const, exists_eq_left', exists_and_left]
  constructor
  · rintro ⟨f, hf, op, hop, hb, hi, hfin, hlen, aesKey, hload, g, hg, aesOp, hc, hab, hp, he,
      hu, hfi, rfl⟩
    exact ⟨f, hf, op, hop, hb, hi, _, ⟨hfin, rfl⟩, hlen, aesKey, hload, g, hg, aesOp, hc, hab,
      hp, he, _, ⟨hu, rfl⟩, _, ⟨hfi, rfl⟩, rfl⟩
  · rintro ⟨f, hf, op, hop, hb, hi, t, ⟨hfin, rfl⟩, hlen, aesKey, hload, g, hg, aesOp, hc, hab,
      hp, he, u, ⟨hu, rfl⟩, fin, ⟨hfi, rfl⟩, rfl⟩
    exact ⟨f, hf, op, hop, hb, hi, hfin, hlen, aesKey, hload, g, hg, aesOp, hc, hab, hp, he, hu,
      hfi, rfl⟩

section
variable {wrappedKeyBlob wrappingKeyBlob : Bytes} {wrappingKeyParams : AuthorizationSet}
  {maskingKey : Bytes} {out : UnwrapOutputs} {o : HwkeyOutcome} {wrappingKey : Key}
  {w : WrappedKey} {allocs : UnwrapAllocations}

/-- **When every step succeeds, `UnwrapKey` returns `KM_ERROR_OK`**, with what
    `parse_wrapped_key` gave in the first two outputs and the plaintext in the third. -/
theorem unwrapKey_of_decrypt {plaintext : Bytes} (hout : out.wrappedKeyMaterial ≠ none)
    (hk : parseWrappingKey lib cfg c wrappingKeyBlob wrappingKeyParams o = .ok wrappingKey)
    (hw : svc.parseWrappedKey wrappedKeyBlob out.wrappedKeyParams out.wrappedKeyFormat =
      (.ok, w))
    (hd : decryptWrappedKey lib svc wrappingKey wrappingKeyParams maskingKey w allocs =
      .ok plaintext) (ha : allocs.wrappedKeyMaterial = true) :
    unwrapKey lib cfg c svc wrappedKeyBlob wrappingKeyBlob wrappingKeyParams maskingKey out o
        allocs = (.ok (), ⟨w.wrappedKeyParams, w.wrappedKeyFormat, some plaintext⟩) := by
  simp [unwrapKey, Option.isNone_iff_eq_none, hout, hk, hw, hd, ha]

/-- A failing `DeriveMasterKey` call of `UnwrapKey` makes it return that error, with the
    outputs as they were. -/
theorem unwrapKey_of_derivation_error {o' : HwkeyOutcome} {e : KmError}
    (ho : o' ∈ unwrapKeyDerivations lib wrappingKeyBlob out o)
    (he : deriveMasterKey lib cfg o' = .error e) (allocs : UnwrapAllocations) :
    unwrapKey lib cfg c svc wrappedKeyBlob wrappingKeyBlob wrappingKeyParams maskingKey out o
      allocs = (.error (.error e), out) := by
  unfold unwrapKeyDerivations at ho
  split_ifs at ho with hn
  · simp at ho
  · simp [unwrapKey, hn, parseWrappingKey, parseKeyBlob_of_derivation_error ho he, bind,
      Except.bind]

/-- **A null transit-key operation created with `KM_ERROR_OK` makes `UnwrapKey` return
    `KM_ERROR_OK`** without decrypting anything: the early return hands back the status,
    and `*wrapped_key_material` keeps its prior contents. -/
theorem unwrapKey_null_operation_returns_ok {f : OperationFactory}
    (hout : out.wrappedKeyMaterial ≠ none)
    (hk : parseWrappingKey lib cfg c wrappingKeyBlob wrappingKeyParams o = .ok wrappingKey)
    (hw : svc.parseWrappedKey wrappedKeyBlob out.wrappedKeyParams out.wrappedKeyFormat =
      (.ok, w))
    (hf : svc.getOperationFactory wrappingKey.factory KmPurpose.decrypt = some f)
    (hop : f.createOperation wrappingKey wrappingKeyParams = (none, .ok))
    (allocs : UnwrapAllocations) :
    unwrapStatus (unwrapKey lib cfg c svc wrappedKeyBlob wrappingKeyBlob wrappingKeyParams
        maskingKey out o allocs).1 = some .ok ∧
      (unwrapKey lib cfg c svc wrappedKeyBlob wrappingKeyBlob wrappingKeyParams maskingKey out o
        allocs).2.wrappedKeyMaterial = out.wrappedKeyMaterial := by
  have hd : decryptWrappedKey lib svc wrappingKey wrappingKeyParams maskingKey w allocs =
      .error (.error .ok) := by
    simp [decryptWrappedKey, requireSome, createOperationChecked, hf, hop, bind,
      Except.bind, pure, Except.pure, throw, throwThe, MonadExceptOf.throw]
  simp [unwrapKey, Option.isNone_iff_eq_none, hout, hk, hw, hd, unwrapStatus]

/-- Services whose operation factories all create a null operation with `KM_ERROR_OK`, and
    whose `parse_wrapped_key` succeeds with empty buffers. -/
def nullOperationServices : UnwrapServices where
  parseWrappedKey _ params format := (.ok, ⟨[], [], [], [], [], params, format⟩)
  getOperationFactory _ _ := some ⟨fun _ _ => (none, .ok)⟩

set_option maxRecDepth 8000 in
theorem unwrapKey_null_operation_reference :
    ∃ blob hw sw, createKeyBlob .reference .plain .initial
        [{ tag := .algorithm, integer := 1 }, { tag := .purpose, integer := 5 },
          { tag := .digest, integer := 4 }, { tag := .padding, integer := 2 }] 0 [1] .success
          [9] = (.ok blob, hw, sw) ∧
      unwrapStatus (unwrapKey .reference .plain .initial nullOperationServices [] blob
          [{ tag := .digest, integer := 4 }, { tag := .padding, integer := 2 }] []
          ⟨[], 0, some []⟩ .success .success).1 = some .ok ∧
        (unwrapKey .reference .plain .initial nullOperationServices [] blob
          [{ tag := .digest, integer := 4 }, { tag := .padding, integer := 2 }] []
          ⟨[], 0, some []⟩ .success .success).2.wrappedKeyMaterial = some [] := by
  refine ⟨_, _, _, rfl, ?_⟩
  apply @unwrapKey_null_operation_returns_ok .reference .plain .initial nullOperationServices []
    _ [{ tag := .digest, integer := 4 }, { tag := .padding, integer := 2 }] [] ⟨[], 0, some []⟩
    .success _ _ _ (by simp) <;> rfl

/-! ## What an error return leaves in the outputs -/

/-- The outputs once `parse_wrapped_key` has written its two: its parameters and format, with
    `*wrapped_key_material` as it was. -/
def UnwrapOutputs.withParsed (out : UnwrapOutputs) (w : WrappedKey) : UnwrapOutputs :=
  { out with wrappedKeyParams := w.wrappedKeyParams, wrappedKeyFormat := w.wrappedKeyFormat }

/-- **What `UnwrapKey` leaves in its outputs when it fails.** A failure before
    `parse_wrapped_key` (a null material pointer, or step 1) leaves the three outputs as they
    were. Every later failure leaves what `parse_wrapped_key` wrote in `*wrapped_key_params`
    and `*wrapped_key_format`, and the failed final copy also leaves an empty material. -/
theorem unwrapKey_error_outputs {r : Except Fault Unit × UnwrapOutputs}
    (hr : unwrapKey lib cfg c svc wrappedKeyBlob wrappingKeyBlob wrappingKeyParams maskingKey out o
      allocs = r) (h : r.1 ≠ .ok ()) :
    (out.wrappedKeyMaterial = none ∨
        ∃ f, parseWrappingKey lib cfg c wrappingKeyBlob wrappingKeyParams o = .error f) ∧
        r.2 = out ∨
      out.wrappedKeyMaterial ≠ none ∧
        (∃ wk, parseWrappingKey lib cfg c wrappingKeyBlob wrappingKeyParams o = .ok wk) ∧
        (r.2 = out.withParsed
            (svc.parseWrappedKey wrappedKeyBlob out.wrappedKeyParams out.wrappedKeyFormat).2 ∨
          r = (.error (.error .memoryAllocationFailed), { out.withParsed
            (svc.parseWrappedKey wrappedKeyBlob out.wrappedKeyParams out.wrappedKeyFormat).2 with
              wrappedKeyMaterial := some [] })) := by
  subst hr
  rcases hm : out.wrappedKeyMaterial with _ | m
  · exact .inl ⟨.inl rfl, by simp [unwrapKey, hm]⟩
  cases hk : parseWrappingKey lib cfg c wrappingKeyBlob wrappingKeyParams o with
  | error f => exact .inl ⟨.inr ⟨f, rfl⟩, by simp [unwrapKey, hm, hk]⟩
  | ok wk =>
    refine .inr ⟨nofun, ⟨wk, rfl⟩, ?_⟩
    rcases hw : svc.parseWrappedKey wrappedKeyBlob out.wrappedKeyParams out.wrappedKeyFormat
      with ⟨e, w⟩
    simp only [unwrapKey, hm, hk, hw, Option.isNone_some, Bool.false_eq_true, ↓reduceIte,
      UnwrapOutputs.withParsed] at h ⊢
    by_cases he : e = .ok
    · cases hd : decryptWrappedKey lib svc wk wrappingKeyParams maskingKey w allocs with
      | error f => simp [he, hd, hm]
      | ok plaintext => cases ha : allocs.wrappedKeyMaterial <;> simp_all
    · simp [he, hm]

/-- Services whose `parse_wrapped_key` succeeds, writing one parameter and the format 1, and
    whose operation factories create an operation that begins and finishes with
    `KM_ERROR_OK`, `Finish` yielding 32 bytes: the transport key of an RSA-OAEP decryption of
    a 256-bit transit key. -/
def transportKeyServices : UnwrapServices where
  parseWrappedKey _ _ _ := (.ok, ⟨[], [], [], [], [], [{ tag := .algorithm, integer := 32 }], 1⟩)
  getOperationFactory _ _ := some ⟨fun _ _ =>
    (some ⟨fun _ => .ok, fun _ _ => (.ok, []), fun _ _ => (.ok, List.replicate 32 0)⟩, .ok)⟩

set_option maxRecDepth 8000 in
theorem unwrapKey_error_outputs_reference :
    ∃ blob hw sw r, createKeyBlob .reference .plain .initial
        [{ tag := .algorithm, integer := 1 }, { tag := .purpose, integer := 5 },
          { tag := .digest, integer := 4 }, { tag := .padding, integer := 2 }] 0 [1] .success
          [9] = (.ok blob, hw, sw) ∧
      unwrapKey .reference .plain .initial transportKeyServices [] blob
          [{ tag := .digest, integer := 4 }, { tag := .padding, integer := 2 }] []
          ⟨[], 0, some []⟩ .success .success = r ∧
      r.1 = .error (.error .invalidArgument) ∧ r.2 ≠ ⟨[], 0, some []⟩ ∧
      r.2 = (⟨[], 0, some []⟩ : UnwrapOutputs).withParsed
        (transportKeyServices.parseWrappedKey [] [] 0).2 := by
  obtain ⟨blob, hw, sw, hc, hu⟩ : ∃ blob hw sw, createKeyBlob .reference .plain .initial
      [{ tag := .algorithm, integer := 1 }, { tag := .purpose, integer := 5 },
        { tag := .digest, integer := 4 }, { tag := .padding, integer := 2 }] 0 [1] .success [9] =
      (.ok blob, hw, sw) ∧
      unwrapKey .reference .plain .initial transportKeyServices [] blob
          [{ tag := .digest, integer := 4 }, { tag := .padding, integer := 2 }] []
          ⟨[], 0, some []⟩ .success .success =
        (.error (.error .invalidArgument), ⟨[{ tag := .algorithm, integer := 32 }], 1, some []⟩) :=
    ⟨_, _, _, rfl, rfl⟩
  have hne : (⟨[{ tag := .algorithm, integer := 32 }], 1, some []⟩ : UnwrapOutputs) ≠
      ⟨[], 0, some []⟩ := by simp
  refine ⟨blob, hw, sw, _, hc, hu, rfl, hne, ?_⟩
  rcases unwrapKey_error_outputs hu nofun with ⟨-, h⟩ | ⟨-, -, h | h⟩
  · exact absurd h hne
  · exact h
  · simp at h
end

end TrustyKeymaster
