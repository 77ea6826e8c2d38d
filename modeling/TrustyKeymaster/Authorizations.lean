/-
  Trusty Keymaster formalization — `SetAuthorizations`, the split of a key description
  into `hw_enforced` and `sw_enforced`.

  * `setAuthorizationsEntry` is one pass of the loop (the `switch` on the entry's tag),
    `setAuthorizationsLoop` the loop, which returns from inside the `switch` on the first
    rejected entry, and `setAuthorizations` the whole method;
  * `rejection`, `hardwareEntry` and `keystoreEntry` say what one entry does;
    `setAuthorizationsEntry_eq` shows the `switch` is exactly that, and
    `setAuthorizationsLoop_ok` that an accepting loop appends the entries' images in order.
-/
import TrustyKeymaster.Basic

namespace TrustyKeymaster

/-- `HW_AUTH_PASSWORD` of `hw_authenticator_type_t`. -/
def hwAuthPassword : Nat := 1

/-- `HW_AUTH_FINGERPRINT` of `hw_authenticator_type_t`. -/
def hwAuthFingerprint : Nat := 2

/-- The value a `KM_TAG_USER_AUTH_TYPE` entry is stored with: the caller's bitmask masked
    to password authentication, and to fingerprint authentication when
    `TEE_FINGERPRINT_AUTH_SUPPORTED`. -/
def userAuthTypeMask (cfg : BuildConfig) (enumerated : Nat) : Nat :=
  let elem := enumerated &&& hwAuthPassword
  if cfg.teeFingerprintAuthSupported then elem ||| (enumerated &&& hwAuthFingerprint) else elem

/-- One pass of the loop of `SetAuthorizations`: the `switch` on the entry's tag, which
    returns an error or pushes the entry (or its masked copy) onto one of the two sets. -/
def setAuthorizationsEntry (cfg : BuildConfig) (hw sw : AuthorizationSet) (entry : Param) :
    Except KmError (AuthorizationSet × AuthorizationSet) :=
  match entry.tag.kind with
  | .neverInDescription => .error .invalidKeyBlob
  | .certificateOnly => .ok (hw, sw)
  | .unimplementedError e => .error e
  | .ignored => .ok (hw, sw)
  | .setBelow => .ok (hw, sw)
  | .hardwareEnforced => .ok (hw ++ [entry], sw)
  | .storageKey =>
    if cfg.withHwwskSupport then .ok (hw ++ [entry], sw) else .error .unimplemented
  | .userAuthType =>
    .ok (hw ++ [{ entry with integer := userAuthTypeMask cfg entry.integer }], sw)
  | .keystoreEnforced => .ok (hw, sw ++ [entry])
  | .unlisted => .ok (hw, sw)

/-- The loop of `SetAuthorizations`. A rejected entry returns its code at once, with the
    entries pushed so far left in `hw_enforced` and `sw_enforced`. -/
def setAuthorizationsLoop (cfg : BuildConfig) :
    AuthorizationSet → AuthorizationSet → AuthorizationSet →
      KmError × AuthorizationSet × AuthorizationSet
  | [], hw, sw => (.ok, hw, sw)
  | entry :: rest, hw, sw =>
    match setAuthorizationsEntry cfg hw sw entry with
    | .error e => (e, hw, sw)
    | .ok (hw', sw') => setAuthorizationsLoop cfg rest hw' sw'

/-- The three entries `SetAuthorizations` appends to `hw_enforced` after the loop. -/
def setBelowEntries (c : Context) (origin : Nat) : AuthorizationSet :=
  [{ tag := .origin, integer := origin }, { tag := .osVersion, integer := c.bootOsVersion },
    { tag := .osPatchlevel, integer := c.bootOsPatchlevel }]

/-- `SetAuthorizations`: the status, and the final `hw_enforced` and `sw_enforced`. Both
    start cleared. The `is_valid` checks at the end only report allocation failures, which
    the model does not have. -/
def setAuthorizations (cfg : BuildConfig) (c : Context) (keyDescription : AuthorizationSet)
    (origin : Nat) : KmError × AuthorizationSet × AuthorizationSet :=
  match setAuthorizationsLoop cfg keyDescription [] [] with
  | (.ok, hw, sw) => (.ok, hw ++ setBelowEntries c origin, sw)
  | r => r

/-! ## What one entry does -/

/-- The code an entry makes `SetAuthorizations` return, if any. -/
def rejection (cfg : BuildConfig) (entry : Param) : Option KmError :=
  match entry.tag.kind with
  | .neverInDescription => some .invalidKeyBlob
  | .unimplementedError e => some e
  | .storageKey => if cfg.withHwwskSupport then none else some .unimplemented
  | _ => none

/-- The entry stored in `hw_enforced` for an accepted entry, if any. -/
def hardwareEntry (cfg : BuildConfig) (entry : Param) : Option Param :=
  match entry.tag.kind with
  | .hardwareEnforced | .storageKey => some entry
  | .userAuthType => some { entry with integer := userAuthTypeMask cfg entry.integer }
  | _ => none

/-- The entry stored in `sw_enforced` for an accepted entry, if any. -/
def keystoreEntry (entry : Param) : Option Param :=
  if entry.tag.kind = .keystoreEnforced then some entry else none

theorem setAuthorizationsEntry_eq (cfg : BuildConfig) (hw sw : AuthorizationSet)
    (entry : Param) :
    setAuthorizationsEntry cfg hw sw entry = match rejection cfg entry with
      | some e => .error e
      | none => .ok (hw ++ (hardwareEntry cfg entry).toList, sw ++ (keystoreEntry entry).toList) := by
  unfold setAuthorizationsEntry rejection hardwareEntry keystoreEntry
  split <;> simp_all; split <;> simp_all

theorem Tag.kind_ne_unimplementedError_ok (t : Tag) : t.kind ≠ .unimplementedError .ok := by
  cases t <;> decide

theorem rejection_ne_ok (cfg : BuildConfig) (entry : Param) : rejection cfg entry ≠ some .ok := by
  unfold rejection
  split
  · simp
  · rintro ⟨⟩
    exact Tag.kind_ne_unimplementedError_ok _ ‹_›
  · split <;> simp
  · simp

theorem hardwareEntry_tag {cfg : BuildConfig} {entry p : Param}
    (h : hardwareEntry cfg entry = some p) : p.tag = entry.tag ∧ entry.tag.IsHardwareEnforced := by
  unfold hardwareEntry at h
  unfold Tag.IsHardwareEnforced
  split at h <;> cases h <;> simp_all

theorem keystoreEntry_eq {entry p : Param} (h : keystoreEntry entry = some p) :
    p = entry ∧ entry.tag.IsKeystoreEnforced := by
  unfold keystoreEntry at h
  split at h <;> cases h
  exact ⟨rfl, ‹_›⟩

/-- An entry whose tag is hardware-enforced, other than `KM_TAG_USER_AUTH_TYPE`, is copied
    verbatim. -/
theorem hardwareEntry_of_kind {cfg : BuildConfig} {entry : Param}
    (h : entry.tag.kind = .hardwareEnforced) : hardwareEntry cfg entry = some entry := by
  simp [hardwareEntry, h]

theorem isHardwareEnforced_of_mem_hardwareEntries {cfg : BuildConfig} {d : AuthorizationSet}
    {t : Tag} (h : t ∈ AuthorizationSet.tags (d.filterMap (hardwareEntry cfg))) : t.IsHardwareEnforced := by
  obtain ⟨p, hp, rfl⟩ := List.mem_map.1 h
  obtain ⟨e, -, he⟩ := List.mem_filterMap.1 hp
  obtain ⟨ht, hk⟩ := hardwareEntry_tag he
  rwa [ht]

theorem isKeystoreEnforced_of_mem_keystoreEntries {d : AuthorizationSet} {t : Tag}
    (h : t ∈ AuthorizationSet.tags (d.filterMap keystoreEntry)) : t.IsKeystoreEnforced := by
  obtain ⟨p, hp, rfl⟩ := List.mem_map.1 h
  obtain ⟨e, -, he⟩ := List.mem_filterMap.1 hp
  obtain ⟨rfl, hk⟩ := keystoreEntry_eq he
  exact hk

/-- A tag copied verbatim keeps its first entry: the created `hw_enforced` holds the
    description's first entry with it. -/
theorem getTagValue_hardwareEntries {cfg : BuildConfig} {t : Tag}
    (ht : t.kind = .hardwareEnforced) :
    ∀ d : AuthorizationSet,
      AuthorizationSet.getTagValue (d.filterMap (hardwareEntry cfg)) t = d.getTagValue t
  | [] => rfl
  | e :: d => by
    have ih := @getTagValue_hardwareEntries cfg t ht d
    by_cases he : e.tag = t
    · simp [hardwareEntry_of_kind (he ▸ ht), AuthorizationSet.getTagValue_cons, he]
    · cases hh : hardwareEntry cfg e with
      | none => simp [hh, AuthorizationSet.getTagValue_cons, he, ih]
      | some p => simp [hh, AuthorizationSet.getTagValue_cons, he, ih, (hardwareEntry_tag hh).1]

/-! ## The loop -/

/-- **An accepting loop appends the images of the entries, in order.** -/
theorem setAuthorizationsLoop_ok {cfg : BuildConfig} :
    ∀ {d : AuthorizationSet} (hw sw : AuthorizationSet), (∀ e ∈ d, rejection cfg e = none) →
      setAuthorizationsLoop cfg d hw sw =
        (.ok, hw ++ d.filterMap (hardwareEntry cfg), sw ++ d.filterMap keystoreEntry)
  | [], hw, sw, _ => by simp [setAuthorizationsLoop]
  | e :: d, hw, sw, h => by
    have he : rejection cfg e = none := h e (List.mem_cons_self _ _)
    simp only [setAuthorizationsLoop, setAuthorizationsEntry_eq, he]
    rw [setAuthorizationsLoop_ok _ _ fun e' h' => h e' (List.mem_cons_of_mem _ h')]
    cases hh : hardwareEntry cfg e <;> cases hk : keystoreEntry e <;>
      simp [List.filterMap_cons, hh, hk]

/-- The loop reports success only if no entry is rejected. -/
theorem setAuthorizationsLoop_accepts {cfg : BuildConfig} :
    ∀ {d : AuthorizationSet} {hw sw : AuthorizationSet},
      (setAuthorizationsLoop cfg d hw sw).1 = .ok → ∀ e ∈ d, rejection cfg e = none
  | [], _, _, _ => by simp
  | e :: d, hw, sw, h => by
    simp only [setAuthorizationsLoop, setAuthorizationsEntry_eq] at h
    cases he : rejection cfg e with
    | some err =>
      rw [he] at h
      exact absurd (by simpa using h) (rejection_ne_ok cfg e ∘ (he.trans <| congrArg some ·))
    | none =>
      rw [he] at h
      intro e' h'
      rcases List.mem_cons.1 h' with rfl | h'
      · exact he
      · exact setAuthorizationsLoop_accepts h e' h'

/-- **`SetAuthorizations` on an accepted description.** -/
theorem setAuthorizations_ok {cfg : BuildConfig} {c : Context} {d : AuthorizationSet}
    {origin : Nat} {hw sw : AuthorizationSet}
    (h : setAuthorizations cfg c d origin = (.ok, hw, sw)) :
    (∀ e ∈ d, rejection cfg e = none) ∧
      hw = d.filterMap (hardwareEntry cfg) ++ setBelowEntries c origin ∧
      sw = d.filterMap keystoreEntry := by
  unfold setAuthorizations at h
  split at h
  · rename_i hw' sw' hl
    have hacc := setAuthorizationsLoop_accepts (by rw [hl])
    rw [setAuthorizationsLoop_ok _ _ hacc] at hl
    simp only [Prod.mk.injEq, List.nil_append] at hl h
    obtain ⟨-, rfl, rfl⟩ := hl
    exact ⟨hacc, h.2.1.symm, h.2.2.symm⟩
  · rename_i hr
    exact absurd h (hr hw sw)

/-! ## The classification, as the specification lists it -/

/-- The code the specification gives a tag of a rejected class, and `none` for any other
    tag. -/
def rejectedCode (cfg : BuildConfig) : Tag → Option KmError
  | .associatedData | .authToken | .bootloaderOnly | .invalid | .macLength | .nonce
  | .rootOfTrust | .uniqueId | .identityCredentialKey => some .invalidKeyBlob
  | .rollbackResistance => some .rollbackResistanceUnavailable
  | .deviceUniqueAttestation => some .invalidArgument
  | .storageKey => if cfg.withHwwskSupport then none else some .unimplemented
  | _ => none

/-- The authenticator types `hw_enforced` keeps: password, and fingerprint when
    `TEE_FINGERPRINT_AUTH_SUPPORTED`. -/
def supportedAuthTypes (cfg : BuildConfig) : Nat :=
  if cfg.teeFingerprintAuthSupported then hwAuthPassword ||| hwAuthFingerprint
  else hwAuthPassword

/-- The specification's `hw_enforced` entries of a description: its entries of the
    hardware-enforced class, in order, each `USER_AUTH_TYPE` value masked to the supported
    authenticators. -/
def classifiedHardware (cfg : BuildConfig) (d : AuthorizationSet) : AuthorizationSet :=
  (d.filter fun e => decide e.tag.IsHardwareEnforced).map fun e =>
    if e.tag = .userAuthType then { e with integer := e.integer &&& supportedAuthTypes cfg }
    else e

/-- The specification's `sw_enforced` entries of a description: its keystore-enforced
    entries, in order. -/
def classifiedKeystore (d : AuthorizationSet) : AuthorizationSet :=
  d.filter fun e => decide e.tag.IsKeystoreEnforced

theorem rejection_eq (cfg : BuildConfig) (e : Param) : rejection cfg e = rejectedCode cfg e.tag := by
  rcases e with ⟨t, _, _⟩
  cases t <;> rfl

theorem userAuthTypeMask_eq (cfg : BuildConfig) (n : Nat) :
    userAuthTypeMask cfg n = n &&& supportedAuthTypes cfg := by
  unfold userAuthTypeMask supportedAuthTypes
  split_ifs <;> simp [Nat.and_or_distrib_left]

/-- The `hw_enforced` entry of an accepted entry is the entry itself for a tag of the
    hardware-enforced class, with a `USER_AUTH_TYPE` value masked. -/
theorem hardwareEntry_eq (cfg : BuildConfig) (e : Param) :
    hardwareEntry cfg e = if e.tag.IsHardwareEnforced then
      some (if e.tag = .userAuthType then { e with integer := e.integer &&& supportedAuthTypes cfg }
        else e)
    else none := by
  rcases e with ⟨t, n, b⟩
  cases t
  case userAuthType =>
    have hk : Tag.userAuthType.kind = .userAuthType := rfl
    simp [hardwareEntry, Tag.IsHardwareEnforced, hk, userAuthTypeMask_eq]
  all_goals rfl

theorem hardwareEntries_eq (cfg : BuildConfig) (d : AuthorizationSet) :
    d.filterMap (hardwareEntry cfg) = classifiedHardware cfg d := by
  induction d with
  | nil => rfl
  | cons e d ih =>
    by_cases h : e.tag.IsHardwareEnforced <;>
      simp_all [classifiedHardware, List.filterMap_cons, List.filter_cons, hardwareEntry_eq]

theorem keystoreEntries_eq (d : AuthorizationSet) :
    d.filterMap keystoreEntry = classifiedKeystore d := by
  induction d with
  | nil => rfl
  | cons e d ih =>
    by_cases h : e.tag.IsKeystoreEnforced <;>
      simp_all [classifiedKeystore, keystoreEntry, List.filterMap_cons, List.filter_cons,
        Tag.IsKeystoreEnforced]

/-- The loop returns the code of the first rejected entry, and `KM_ERROR_OK` when there is
    none. -/
theorem setAuthorizationsLoop_status (cfg : BuildConfig) :
    ∀ (d hw sw : AuthorizationSet),
      (setAuthorizationsLoop cfg d hw sw).1 = (d.findSome? (rejection cfg)).getD .ok
  | [], _, _ => rfl
  | e :: d, hw, sw => by
    simp only [setAuthorizationsLoop, setAuthorizationsEntry_eq, List.findSome?_cons]
    cases rejection cfg e
    · exact setAuthorizationsLoop_status cfg d _ _
    · rfl

/-- **`SetAuthorizations` classifies a description by tag.** It fails exactly on a
    description with an entry of a rejected class, with the code of the first one;
    otherwise `hw_enforced` holds the hardware-enforced entries in order, `USER_AUTH_TYPE`
    masked to the supported authenticators, then `ORIGIN` and the boot's `OS_VERSION` and
    `OS_PATCHLEVEL`, and `sw_enforced` the keystore-enforced entries in order. -/
theorem setAuthorizations_classification (cfg : BuildConfig) (c : Context)
    (d : AuthorizationSet) (origin : Nat) :
    ((setAuthorizations cfg c d origin).1 ≠ .ok ↔ ∃ e ∈ d, (rejectedCode cfg e.tag).isSome) ∧
      (∀ code, d.findSome? (fun e => rejectedCode cfg e.tag) = some code →
        (setAuthorizations cfg c d origin).1 = code) ∧
      ((∀ e ∈ d, rejectedCode cfg e.tag = none) →
        (setAuthorizations cfg c d origin).2.1 = classifiedHardware cfg d ++
          [{ tag := .origin, integer := origin }, { tag := .osVersion, integer := c.bootOsVersion },
            { tag := .osPatchlevel, integer := c.bootOsPatchlevel }] ∧
        (setAuthorizations cfg c d origin).2.2 = classifiedKeystore d) := by
  have hrej : rejection cfg = fun e => rejectedCode cfg e.tag := funext (rejection_eq cfg)
  have hstatus : (setAuthorizations cfg c d origin).1 =
      (d.findSome? fun e => rejectedCode cfg e.tag).getD .ok := by
    rw [← hrej, ← setAuthorizationsLoop_status cfg d [] []]
    unfold setAuthorizations
    split <;> simp_all
  refine ⟨?_, fun code h => by rw [hstatus, h]; rfl, fun hacc => ?_⟩
  · rw [hstatus]
    cases hf : d.findSome? (fun e => rejectedCode cfg e.tag) with
    | none => simp_all
    | some code =>
      obtain ⟨e, he, hc⟩ := List.exists_of_findSome?_eq_some hf
      exact iff_of_true
        (fun h => rejection_ne_ok cfg e ((rejection_eq cfg e).trans (hc.trans (congrArg some h))))
        ⟨e, he, by simp [hc]⟩
  · have hacc' : ∀ e ∈ d, rejection cfg e = none := fun e he => (rejection_eq cfg e).trans (hacc e he)
    simp [setAuthorizations, setAuthorizationsLoop_ok [] [] hacc', hardwareEntries_eq,
      keystoreEntries_eq, setBelowEntries]

/-! ## A rejected description -/

/-- A loop that reaches a rejected entry returns its code with what the entries before it
    pushed. -/
theorem setAuthorizationsLoop_rejected {cfg : BuildConfig} {e : Param} {code : KmError}
    (he : rejection cfg e = some code) (post : AuthorizationSet) :
    ∀ {pre : AuthorizationSet} (hw sw : AuthorizationSet), (∀ x ∈ pre, rejection cfg x = none) →
      setAuthorizationsLoop cfg (pre ++ e :: post) hw sw =
        (code, hw ++ pre.filterMap (hardwareEntry cfg), sw ++ pre.filterMap keystoreEntry)
  | [], hw, sw, _ => by simp [setAuthorizationsLoop, setAuthorizationsEntry_eq, he]
  | x :: pre, hw, sw, h => by
    have hx : rejection cfg x = none := h x (List.mem_cons_self _ _)
    rw [List.cons_append]
    simp only [setAuthorizationsLoop, setAuthorizationsEntry_eq, hx]
    rw [setAuthorizationsLoop_rejected he post _ _ fun y hy => h y (List.mem_cons_of_mem _ hy)]
    cases hh : hardwareEntry cfg x <;> cases hk : keystoreEntry x <;>
      simp [List.filterMap_cons, hh, hk]

/-- `SetAuthorizations` on a description whose first rejected entry is `e`: the code of `e`,
    with the classification of the entries before it left in both sets. -/
theorem setAuthorizations_rejected {cfg : BuildConfig} {c : Context} {pre post : AuthorizationSet}
    {e : Param} {code : KmError} (hpre : ∀ x ∈ pre, rejectedCode cfg x.tag = none)
    (he : rejectedCode cfg e.tag = some code) (origin : Nat) :
    setAuthorizations cfg c (pre ++ e :: post) origin =
      (code, classifiedHardware cfg pre, classifiedKeystore pre) := by
  have he' : rejection cfg e = some code := (rejection_eq cfg e).trans he
  have hne : code ≠ .ok := fun h => rejection_ne_ok cfg e (h ▸ he')
  unfold setAuthorizations
  rw [setAuthorizationsLoop_rejected he' post [] [] fun x hx => (rejection_eq cfg x).trans (hpre x hx)]
  split
  · rename_i h
    exact absurd (Prod.mk.inj h).1 hne
  · simp [hardwareEntries_eq, keystoreEntries_eq]

end TrustyKeymaster
