/-
  Trusty Keymaster formalization — key blobs over runs of `CreateKeyBlob` and
  `UpgradeKeyBlob`, across any boots.

  * `Produced accepts` holds of the blobs a run produces when `CreateKeyBlob` is called on
    descriptions `accepts` admits and `UpgradeKeyBlob` on blobs so produced;
    `Produced.recorded` is the induction over runs: what creation establishes of the
    recorded sets and the upgrade keeps holds of every produced blob;
  * `produced_wellFormed`: every produced blob records `WellFormedSets`, which share no tag
    and hold none of the hidden tags;
  * `produced_key_dispatch`: when the descriptions name a supported algorithm, parsing a
    produced blob never calls `LoadKey` through a null factory, and neither attestation
    generator downcasts a key that no asymmetric factory built.
-/
import TrustyKeymaster.Upgrade
import TrustyKeymaster.Attestation

namespace TrustyKeymaster

open AuthorizationSet

variable (lib : Library) (cfg : BuildConfig)

/-- The blobs a run produces: `CreateKeyBlob` on a description `accepts` admits, in any boot,
    and `UpgradeKeyBlob` on a produced blob, in any boot and with any parameters. -/
inductive Produced (accepts : AuthorizationSet → Prop) : Bytes → Prop
  | create {c : Context} {d : AuthorizationSet} {origin : Nat} {m : Bytes} {o : HwkeyOutcome}
      {random blob : Bytes} {hw sw : AuthorizationSet} :
      accepts d → createKeyBlob lib cfg c d origin m o random = (.ok blob, hw, sw) →
      Produced accepts blob
  | upgrade {c : Context} {blob : Bytes} {q : AuthorizationSet} {oParse oCreate : HwkeyOutcome}
      {random blob' : Bytes} :
      Produced accepts blob →
      upgradeKeyBlob lib cfg c blob q oParse oCreate random = .ok (some blob') →
      Produced accepts blob'

variable {lib cfg}

/-- **Induction over runs.** A property of recorded sets that every accepted creation
    establishes and that the upgrade of the sets keeps holds of the sets every produced blob
    records. -/
theorem Produced.recorded {accepts : AuthorizationSet → Prop}
    {Inv : AuthorizationSet → AuthorizationSet → Prop}
    (hcreate : ∀ c d origin hw sw, accepts d → setAuthorizations cfg c d origin = (.ok, hw, sw) →
      Inv hw sw)
    (hupgrade : ∀ c hw sw hw' sw' ch, Inv hw sw →
      upgradeAuthorizations c hw sw = some (hw', sw', ch) → Inv hw' sw')
    {blob : Bytes} (h : Produced lib cfg accepts blob) :
    ∃ e hw sw, deserializeKeyBlob lib blob = .ok ⟨e, hw, sw⟩ ∧ Inv hw sw := by
  induction h with
  | create ha hc =>
    obtain ⟨hs, hcr⟩ := createKeyBlob_eq_ok.1 hc
    obtain ⟨e, hd⟩ := createAuthEncryptedKeyBlob_deserialize hcr
    exact ⟨e, _, _, hd, hcreate _ _ _ _ _ ha hs⟩
  | upgrade _ hu ih =>
    obtain ⟨e, hw, sw, hd, hinv⟩ := ih
    obtain ⟨k, hparse⟩ := upgradeKeyBlob_parses hu
    obtain ⟨e', hd'⟩ := parseKeyBlob_deserialize hparse
    rw [hd] at hd'
    cases hd'
    obtain ⟨hw', sw', ch, hua, e'', hd''⟩ := upgradeKeyBlob_current hparse hu
    exact ⟨e'', hw', sw', hd'', hupgrade _ _ _ _ _ _ hinv hua⟩

/-! ## Well-formed sets -/

/-- The sets of a well-formed blob: `hw_enforced` holds hardware-enforced tags and exactly
    one `ORIGIN`, `OS_VERSION` and `OS_PATCHLEVEL`, and `sw_enforced` keystore-enforced
    tags. -/
structure WellFormedSets (hw sw : AuthorizationSet) : Prop where
  hw_tags : ∀ t ∈ hw.tags,
    t.IsHardwareEnforced ∨ t = .origin ∨ t = .osVersion ∨ t = .osPatchlevel
  sw_tags : ∀ t ∈ sw.tags, t.IsKeystoreEnforced
  origin_count : hw.tags.count .origin = 1
  osVersion_count : hw.tags.count .osVersion = 1
  osPatchlevel_count : hw.tags.count .osPatchlevel = 1

/-- Well-formedness is a property of the tags alone. -/
theorem WellFormedSets.of_tags {hw sw hw' sw' : AuthorizationSet} (h : WellFormedSets hw sw)
    (hhw : hw'.tags = hw.tags) (hsw : sw'.tags = sw.tags) : WellFormedSets hw' sw' :=
  ⟨hhw ▸ h.hw_tags, hsw ▸ h.sw_tags, hhw ▸ h.origin_count, hhw ▸ h.osVersion_count,
    hhw ▸ h.osPatchlevel_count⟩

/-- The two sets share no tag. -/
theorem WellFormedSets.disjoint {hw sw : AuthorizationSet} (h : WellFormedSets hw sw) {t : Tag}
    (hhw : t ∈ hw.tags) : t ∉ sw.tags := fun hsw => by
  have hk := h.sw_tags t hsw
  rcases h.hw_tags t hhw with hh | rfl | rfl | rfl
  · exact Tag.not_isKeystoreEnforced_of_isHardwareEnforced hh hk
  all_goals exact absurd hk (by decide)

/-- Neither set holds a tag outside the two classes and the three version entries. -/
theorem WellFormedSets.not_mem {hw sw : AuthorizationSet} (h : WellFormedSets hw sw) {t : Tag}
    (ht : ¬ t.IsHardwareEnforced ∧ ¬ t.IsKeystoreEnforced ∧ t ≠ .origin ∧ t ≠ .osVersion ∧
      t ≠ .osPatchlevel) : t ∉ hw.tags ∧ t ∉ sw.tags := by
  obtain ⟨hh, hk, ho, hv, hp⟩ := ht
  exact ⟨fun hm => by rcases h.hw_tags t hm with h' | h' | h' | h' <;> contradiction,
    fun hm => hk (h.sw_tags t hm)⟩

theorem setAuthorizations_wellFormed {c : Context} {d : AuthorizationSet} {origin : Nat}
    {hw sw : AuthorizationSet} (h : setAuthorizations cfg c d origin = (.ok, hw, sw)) :
    WellFormedSets hw sw := by
  obtain ⟨-, rfl, rfl⟩ := setAuthorizations_ok h
  have hcount : ∀ t, ¬ t.IsHardwareEnforced →
      (tags (d.filterMap (hardwareEntry cfg))).count t = 0 :=
    fun t ht => List.count_eq_zero.2 fun hm => ht (isHardwareEnforced_of_mem_hardwareEntries hm)
  have htags : tags (d.filterMap (hardwareEntry cfg) ++ setBelowEntries c origin) =
      tags (d.filterMap (hardwareEntry cfg)) ++ [.origin, .osVersion, .osPatchlevel] := by
    simp [tags, setBelowEntries]
  refine ⟨fun t ht => ?_, fun t ht => isKeystoreEnforced_of_mem_keystoreEntries ht, ?_, ?_, ?_⟩
  · rw [htags, List.mem_append] at ht
    rcases ht with ht | ht
    · exact .inl (isHardwareEnforced_of_mem_hardwareEntries ht)
    · simp only [List.mem_cons, List.mem_singleton, List.not_mem_nil, or_false] at ht
      exact .inr ht
  all_goals rw [htags, List.count_append, hcount _ (by decide)]; simp

/-- The upgrade keeps the sets well-formed: both version tags are present, so it only
    rewrites entries. -/
theorem upgradeAuthorizations_wellFormed {c : Context} {hw sw hw' sw' : AuthorizationSet}
    {ch : Bool} (h : WellFormedSets hw sw) (hu : upgradeAuthorizations c hw sw = some (hw', sw', ch)) :
    WellFormedSets hw' sw' := by
  obtain ⟨-, hhw, hsw⟩ := upgradeAuthorizations_frame hu
  have hv : Tag.osVersion ∈ hw.tags := List.count_pos_iff.1 (by rw [h.osVersion_count]; decide)
  have hp : Tag.osPatchlevel ∈ hw.tags :=
    List.count_pos_iff.1 (by rw [h.osPatchlevel_count]; decide)
  exact h.of_tags (hhw hv hp) hsw

/-- **Stored authorization lists are well-formed.** Every blob a run of `CreateKeyBlob` and
    `UpgradeKeyBlob` produces, across any boots, records well-formed sets, which share no
    tag and hold no application id or data and no root of trust. -/
theorem produced_wellFormed {accepts : AuthorizationSet → Prop} {blob : Bytes}
    (h : Produced lib cfg accepts blob) :
    ∃ e hw sw, deserializeKeyBlob lib blob = .ok ⟨e, hw, sw⟩ ∧ WellFormedSets hw sw ∧
      (∀ t ∈ hw.tags, t ∉ sw.tags) ∧
      ∀ t ∈ [Tag.applicationId, .applicationData, .rootOfTrust], t ∉ hw.tags ∧ t ∉ sw.tags := by
  obtain ⟨e, hw, sw, hd, hwf⟩ := @Produced.recorded lib cfg accepts WellFormedSets
    (fun _ _ _ _ _ _ hs => setAuthorizations_wellFormed hs)
    (fun _ _ _ _ _ _ hwf hu => upgradeAuthorizations_wellFormed hwf hu) blob h
  refine ⟨e, hw, sw, hd, hwf, fun t ht => hwf.disjoint ht, fun t ht => hwf.not_mem ?_⟩
  simp only [List.mem_cons, List.mem_singleton, List.not_mem_nil, or_false] at ht
  rcases ht with rfl | rfl | rfl <;> decide

set_option maxRecDepth 8000 in
theorem produced_wellFormed_aes :
    ∃ blob hw sw, createKeyBlob .reference .plain .initial [{ tag := .algorithm, integer := 32 }]
        0 [1] .success [9] = (.ok blob, hw, sw) ∧
      ∃ e hw sw, deserializeKeyBlob .reference blob = .ok ⟨e, hw, sw⟩ ∧ WellFormedSets hw sw := by
  obtain ⟨blob, hw, sw, hc⟩ : ∃ blob hw sw, createKeyBlob .reference .plain .initial
      [{ tag := .algorithm, integer := 32 }] 0 [1] .success [9] = (.ok blob, hw, sw) :=
    ⟨_, _, _, rfl⟩
  obtain ⟨e, hw', sw', hd, hwf, -⟩ :=
    produced_wellFormed (@Produced.create .reference .plain (fun _ => True) _ _ _ _ _ _ _ _ _
      trivial hc)
  exact ⟨blob, hw, sw, hc, e, hw', sw', hd, hwf⟩

/-! ## Key dispatch -/

/-- Descriptions whose first `ALGORITHM` entry names an algorithm `GetKeyFactory` knows. -/
def NamesSupportedAlgorithm (d : AuthorizationSet) : Prop :=
  ∃ a, d.integerValue .algorithm = some a ∧ IsSupportedAlgorithm a

theorem setAuthorizations_namesSupportedAlgorithm {c : Context} {d : AuthorizationSet}
    {origin : Nat} {hw sw : AuthorizationSet} (hd : NamesSupportedAlgorithm d)
    (h : setAuthorizations cfg c d origin = (.ok, hw, sw)) : NamesSupportedAlgorithm hw := by
  obtain ⟨-, rfl, -⟩ := setAuthorizations_ok h
  obtain ⟨a, ha, hs⟩ := hd
  refine ⟨a, ?_, hs⟩
  obtain ⟨q, hq, rfl⟩ := Option.map_eq_some'.1 ha
  simp [integerValue, getTagValue_append, @getTagValue_hardwareEntries cfg .algorithm rfl d, hq]

theorem upgradeAuthorizations_namesSupportedAlgorithm {c : Context}
    {hw sw hw' sw' : AuthorizationSet} {ch : Bool} (h : NamesSupportedAlgorithm hw)
    (hu : upgradeAuthorizations c hw sw = some (hw', sw', ch)) : NamesSupportedAlgorithm hw' := by
  obtain ⟨hframe, -, -⟩ := upgradeAuthorizations_frame hu
  obtain ⟨a, ha, hs⟩ := h
  exact ⟨a, by simpa [integerValue, hframe .algorithm (by decide) (by decide)] using ha, hs⟩

/-- A parsed key's authorizations start with the `ALGORITHM` its factory was chosen by, so
    neither generator downcasts it unless an asymmetric factory built it. -/
theorem parseKeyBlob_checkAsymmetricKey {c : Context} {blob : Bytes} {p : AuthorizationSet}
    {allowOcb : Bool} {o : HwkeyOutcome} {k : Key}
    (h : parseKeyBlob lib cfg c blob p allowOcb o = .ok k) :
    checkAsymmetricKey k ≠ .error .undefined := by
  obtain ⟨dk, -, hhw, -, a, ha, hf⟩ := parseKeyBlob_eq_ok h
  rw [Ne, checkAsymmetricKey_undefined]
  rintro ⟨a', ha', hrsa, hasym⟩
  have : a' = a.integer := by
    simpa [Key.authorizations, authProxy, integerValue, getTagValue_append, hhw, ha] using ha'.symm
  exact hasym ((getKeyFactory_isAsymmetric hf).2 (this ▸ hrsa))

/-- **Key dispatch is total and type-correct.** For runs that create keys from
    descriptions naming a supported algorithm, parsing a produced blob in any boot, with
    any parameters, never calls `LoadKey` through a null factory: a blob that decrypts
    records a first `ALGORITHM` with a factory, and every key loaded is built by that
    factory. Neither attestation generator downcasts such a key unless an asymmetric
    factory built it. -/
theorem produced_key_dispatch {blob : Bytes} (h : Produced lib cfg NamesSupportedAlgorithm blob)
    (c : Context) (p : AuthorizationSet) (allowOcb : Bool) (o : HwkeyOutcome) :
    parseKeyBlob lib cfg c blob p allowOcb o ≠ .error .undefined ∧
      (∀ dk m, decryptKeyBlob lib cfg c blob p allowOcb o = .ok (dk, m) →
        ∃ a f, dk.hwEnforced.getTagValue .algorithm = some a ∧ getKeyFactory a.integer = some f) ∧
      ∀ k, parseKeyBlob lib cfg c blob p allowOcb o = .ok k →
        (∃ a, k.hwEnforced.getTagValue .algorithm = some a ∧
          getKeyFactory a.integer = some k.factory) ∧
        ∀ (svc : AttestationServices) c' attestParams attestKey issuerSubject certParams
          fakeSignature,
          generateAttestation svc c' k attestParams attestKey issuerSubject ≠ .error .undefined ∧
          generateSelfSignedCertificate svc k certParams fakeSignature ≠ .error .undefined := by
  obtain ⟨e, hw, sw, hd, a, ha, hs⟩ := @Produced.recorded lib cfg NamesSupportedAlgorithm
    (fun hw _ => NamesSupportedAlgorithm hw)
    (fun _ _ _ _ _ hd hs => setAuthorizations_namesSupportedAlgorithm hd hs)
    (fun _ _ _ _ _ _ hinv hu => upgradeAuthorizations_namesSupportedAlgorithm hinv hu) blob h
  -- a blob that decrypts is the produced one
  have hdispatch : ∀ dk m, decryptKeyBlob lib cfg c blob p allowOcb o = .ok (dk, m) →
      ∃ a f, dk.hwEnforced.getTagValue .algorithm = some a ∧
        getKeyFactory a.integer = some f := fun dk m hr => by
    have hdk := (decryptKeyBlob_eq_ok.1 hr).1
    rw [hd, Except.ok.injEq] at hdk
    subst hdk
    obtain ⟨q, hq, rfl⟩ := Option.map_eq_some'.1 ha
    obtain ⟨f, hf⟩ := Option.isSome_iff_exists.1 ((getKeyFactory_isSome_iff _).2 hs)
    exact ⟨q, f, hq, hf⟩
  refine ⟨fun hu => ?_, hdispatch, fun k hk => ⟨?_, fun svc c' _ _ _ _ _ => ?_⟩⟩
  · obtain ⟨call, hc, hnone⟩ := parseKeyBlob_eq_undefined.1 hu
    obtain ⟨dk, m, hr, q, hq, rfl⟩ := keyBlobLoadCall_eq_ok.1 hc
    obtain ⟨q', f, hq', hf⟩ := hdispatch dk m hr
    rw [hq, Option.some.injEq] at hq'
    subst hq'
    simp [hf] at hnone
  · obtain ⟨dk, -, hhw, -, hfac⟩ := parseKeyBlob_eq_ok hk
    exact hhw ▸ hfac
  · have hcheck := parseKeyBlob_checkAsymmetricKey hk
    exact ⟨mt generateAttestation_undefined.1 hcheck,
      mt generateSelfSignedCertificate_undefined.1 hcheck⟩

set_option maxRecDepth 8000 in
theorem produced_key_dispatch_aes :
    ∃ blob hw sw, createKeyBlob .reference .plain .initial [{ tag := .algorithm, integer := 32 }]
        0 [1] .success [9] = (.ok blob, hw, sw) ∧
      parseKeyBlob .reference .plain .initial blob [] false .success ≠ .error .undefined := by
  obtain ⟨blob, hw, sw, hc⟩ : ∃ blob hw sw, createKeyBlob .reference .plain .initial
      [{ tag := .algorithm, integer := 32 }] 0 [1] .success [9] = (.ok blob, hw, sw) :=
    ⟨_, _, _, rfl⟩
  exact ⟨blob, hw, sw, hc, (produced_key_dispatch (@Produced.create .reference .plain
    NamesSupportedAlgorithm .initial [{ tag := .algorithm, integer := 32 }] 0 [1] .success [9] blob
    hw sw ⟨32, rfl, .inr (.inr (.inl rfl))⟩ hc) .initial [] false .success).1⟩

end TrustyKeymaster
