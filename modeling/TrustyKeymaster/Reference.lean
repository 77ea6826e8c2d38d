/-
  Trusty Keymaster formalization — a reference `Library`.

  It shows the laws of `Library` can be met together, and it is the library the concrete
  runs of later modules are computed with. Its codec writes the format byte, then every
  field in a self-delimiting form (numbers in unary, one byte per tag); its "encryption"
  keeps the material, takes the random bytes as its nonce and uses as tag the encoding of
  everything it is bound to, which is
  enough for the functional laws (it has no secrecy, which no law asks for).

  * `decodeSet_encodeSet` and friends: each decoder undoes its encoder on any suffix;
  * `Library.reference` and `Library.reference_reliable`.
-/
import TrustyKeymaster.Library

namespace TrustyKeymaster

namespace Codec

/-- A number in unary: `n` ones and a zero. -/
def encodeNat (n : Nat) : Bytes := List.replicate n 1 ++ [0]

def decodeNat : Bytes → Option (Nat × Bytes)
  | [] => none
  | b :: rest =>
    if b = 0 then some (0, rest)
    else match decodeNat rest with
      | some (n, r) => some (n + 1, r)
      | none => none

@[simp] theorem decodeNat_encodeNat (n : Nat) (rest : Bytes) :
    decodeNat (encodeNat n ++ rest) = some (n, rest) := by
  induction n with
  | zero => simp [encodeNat, decodeNat]
  | succ n ih =>
    simp only [encodeNat, List.replicate_succ, List.cons_append, List.append_assoc,
      List.nil_append] at ih ⊢
    simp [decodeNat, ih]

/-- A byte string: its length, then its bytes. -/
def encodeBytes (b : Bytes) : Bytes := encodeNat b.length ++ b

def decodeBytes (b : Bytes) : Option (Bytes × Bytes) :=
  match decodeNat b with
  | some (n, r) => if n ≤ r.length then some (r.take n, r.drop n) else none
  | none => none

@[simp] theorem decodeBytes_encodeBytes (b rest : Bytes) :
    decodeBytes (encodeBytes b ++ rest) = some (b, rest) := by
  simp [decodeBytes, encodeBytes]

/-- A parameter: the tag's index in one byte, the integer, the blob. -/
def encodeParam (p : Param) : Bytes :=
  UInt8.ofNat p.tag.toCtorIdx :: (encodeNat p.integer ++ encodeBytes p.blob)

def decodeParam : Bytes → Option (Param × Bytes)
  | [] => none
  | t :: rest =>
    match decodeNat rest with
    | some (i, r) =>
      match decodeBytes r with
      | some (b, r) => some (⟨Tag.ofNat t.toNat, i, b⟩, r)
      | none => none
    | none => none

theorem tag_ofNat_byte (t : Tag) : Tag.ofNat (UInt8.ofNat t.toCtorIdx).toNat = t := by
  cases t <;> rfl

@[simp] theorem decodeParam_encodeParam (p : Param) (rest : Bytes) :
    decodeParam (encodeParam p ++ rest) = some (p, rest) := by
  simp [encodeParam, decodeParam, tag_ofNat_byte]

/-- A set: the number of entries, then the entries. -/
def encodeSet (s : AuthorizationSet) : Bytes := encodeNat s.length ++ s.flatMap encodeParam

def decodeParams : Nat → Bytes → Option (AuthorizationSet × Bytes)
  | 0, r => some ([], r)
  | n + 1, r =>
    match decodeParam r with
    | some (p, r) =>
      match decodeParams n r with
      | some (ps, r) => some (p :: ps, r)
      | none => none
    | none => none

def decodeSet (b : Bytes) : Option (AuthorizationSet × Bytes) :=
  match decodeNat b with
  | some (n, r) => decodeParams n r
  | none => none

theorem decodeParams_flatMap (s : AuthorizationSet) (rest : Bytes) :
    decodeParams s.length (s.flatMap encodeParam ++ rest) = some (s, rest) := by
  induction s with
  | nil => rfl
  | cons p s ih => simp [decodeParams, List.append_assoc, ih]

@[simp] theorem decodeSet_encodeSet (s : AuthorizationSet) (rest : Bytes) :
    decodeSet (encodeSet s ++ rest) = some (s, rest) := by
  simp [decodeSet, encodeSet, List.append_assoc, decodeParams_flatMap]

theorem encodeSet_append_inj {s s' : AuthorizationSet} {r r' : Bytes}
    (h : encodeSet s ++ r = encodeSet s' ++ r') : s = s' ∧ r = r' := by
  simpa using congrArg decodeSet h

theorem encodeBytes_append_inj {b b' r r' : Bytes}
    (h : encodeBytes b ++ r = encodeBytes b' ++ r') : b = b' ∧ r = r' := by
  simpa using congrArg decodeBytes h

/-- What the reference encryption binds a key to. -/
def encodeBinding (hw sw hidden : AuthorizationSet) (k : Bytes) : Bytes :=
  encodeSet hw ++ (encodeSet sw ++ (encodeSet hidden ++ encodeBytes k))

theorem encodeBinding_inj {hw sw hidden hw' sw' hidden' : AuthorizationSet} {k k' : Bytes} :
    encodeBinding hw sw hidden k = encodeBinding hw' sw' hidden' k' ↔
      hw = hw' ∧ sw = sw' ∧ hidden = hidden' ∧ k = k' := by
  constructor
  · intro h
    obtain ⟨h1, h⟩ := encodeSet_append_inj h
    obtain ⟨h2, h⟩ := encodeSet_append_inj h
    obtain ⟨h3, h⟩ := encodeSet_append_inj h
    exact ⟨h1, h2, h3, (@encodeBytes_append_inj _ _ [] [] (by simpa using h)).1⟩
  · rintro ⟨rfl, rfl, rfl, rfl⟩; rfl

def formatOfByte (b : UInt8) : Option AuthEncryptedBlobFormat :=
  if b = 0 then some .aesOcb else if b = 1 then some .aesGcmWithSwEnforced else none

theorem formatOfByte_toByte (f : AuthEncryptedBlobFormat) : formatOfByte f.toByte = some f := by
  cases f <;> rfl

/-- The reference blob: the format byte, the nonce, ciphertext and tag, and the two sets. -/
def serialize (e : EncryptedKey) (hw sw : AuthorizationSet) : Bytes :=
  e.format.toByte :: (encodeBytes e.nonce ++ (encodeBytes e.ciphertext ++
    (encodeBytes e.tag ++ (encodeSet hw ++ encodeSet sw))))

def deserialize : Bytes → Except KmError DeserializedKey
  | [] => .error .invalidKeyBlob
  | f :: rest =>
    match formatOfByte f, decodeBytes rest with
    | some f, some (n, rest) =>
      match decodeBytes rest with
      | some (c, rest) =>
        match decodeBytes rest with
        | some (t, rest) =>
          match decodeSet rest with
          | some (hw, rest) =>
            match decodeSet rest with
            | some (sw, _) => .ok ⟨⟨f, n, c, t⟩, hw, sw⟩
            | none => .error .invalidKeyBlob
          | none => .error .invalidKeyBlob
        | none => .error .invalidKeyBlob
      | none => .error .invalidKeyBlob
    | _, _ => .error .invalidKeyBlob

theorem deserialize_serialize (e : EncryptedKey) (hw sw : AuthorizationSet) :
    deserialize (serialize e hw sw) = .ok ⟨e, hw, sw⟩ := by
  have := decodeSet_encodeSet sw []
  simp only [List.append_nil] at this
  simp [serialize, deserialize, formatOfByte_toByte, this]

/-- The reference `DecryptKey`: the material, if the tag is the encoding of what the
    caller binds it to. -/
def referenceDecrypt (dk : DeserializedKey) (hidden : AuthorizationSet) (k : Bytes) :
    Except KmError Bytes :=
  if dk.encryptedKey.tag = encodeBinding dk.hwEnforced dk.swEnforced hidden k then
    .ok dk.encryptedKey.ciphertext
  else .error .invalidKeyBlob

theorem referenceDecrypt_eq_ok (f : AuthEncryptedBlobFormat) (nonce m k : Bytes)
    (hw sw hidden : AuthorizationSet) : ∀ hw' sw' hidden' k' m',
    referenceDecrypt ⟨⟨f, nonce, m, encodeBinding hw sw hidden k⟩, hw', sw'⟩ hidden' k' = .ok m' ↔
      hw' = hw ∧ sw' = sw ∧ hidden' = hidden ∧ k' = k ∧ m' = m := by
  intro hw' sw' hidden' k' m'
  simp only [referenceDecrypt, encodeBinding_inj]
  split_ifs with h
  · obtain ⟨rfl, rfl, rfl, rfl⟩ := h
    simp [eq_comm]
  · simp only [reduceCtorEq, false_iff]
    rintro ⟨rfl, rfl, rfl, rfl, -⟩
    exact h ⟨rfl, rfl, rfl, rfl⟩

end Codec

open Codec in
/-- The reference library. -/
def Library.reference : Library where
  encryptKey m f hw sw hidden k random := .ok ⟨f, random, m, encodeBinding hw sw hidden k⟩
  decryptKey := referenceDecrypt
  serializeAuthEncryptedBlob e hw sw := .ok (serialize e hw sw)
  deserializeAuthEncryptedBlob := deserialize
  hwkeyDerive _ size := List.replicate size 7
  loadKey f m _ hw sw := .ok ⟨f, m, hw, sw⟩
  encryptKey_format h := by cases h; rfl
  decryptKey_encryptKey h := by cases h; exact referenceDecrypt_eq_ok _ _ _ _ _ _ _
  deserialize_serialize h := by cases h; exact Codec.deserialize_serialize _ _ _
  head_serialize h := by cases h; rfl
  loadKey_eq h := by cases h; rfl

theorem Library.reference_reliable : Library.reference.Reliable :=
  ⟨fun _ _ _ _ _ _ _ => ⟨_, rfl⟩, fun _ _ _ => ⟨_, rfl⟩, fun _ _ _ _ _ => ⟨_, rfl⟩⟩

open Codec in
theorem Library.reference_authenticated : Library.reference.Authenticated := by
  intro ⟨e, hw, sw⟩ hidden k m h hidden' k' m'
  simp only [Library.reference, referenceDecrypt] at h ⊢
  split_ifs at h with ht
  cases h
  rw [ht]
  simp only [encodeBinding_inj, true_and]
  split_ifs with h' <;> simp_all [eq_comm]

end TrustyKeymaster
