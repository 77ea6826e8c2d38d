/-
  Trusty Keymaster formalization — `UpgradeKeyBlob`, which moves a blob's recorded OS version
  and patchlevel up to the running boot's.

  * `upgradeIntegerTag` is `UpgradeIntegerTag`, `zeroSwOsVersion` the block run when
    `boot_os_version_` is 0, `upgradeAuthorizations` the changes to the parsed key's sets,
    and `upgradeKeyBlob` the method;
  * `upgradeIntegerTag_cases` and `zeroSwOsVersion_cases` say what the two in-place updates
    do, in terms of the first entry with the tag; everything else is derived from them;
  * `upgradeAuthorizations_eq_none`: the upgrade is refused exactly on a downgrade;
    `upgradeAuthorizations_upToDate` and `upgradeAuthorizations_of_upToDate`: its result is
    a fixed point; `upgradeAuthorizations_changed`: `set_changed` is set exactly when a set
    changed.
-/
import TrustyKeymaster.KeyBlob

namespace TrustyKeymaster

open AuthorizationSet

/-- `UpgradeIntegerTag`: `none` for a downgrade (its `false`), otherwise the set and
    `set_changed` after it. -/
def upgradeIntegerTag (tag : Tag) (value : Nat) (set : AuthorizationSet) (setChanged : Bool) :
    Option (AuthorizationSet × Bool) :=
  match set.find tag with
  | none => some (set ++ [{ tag := tag, integer := value }], true)
  | some index =>
    let entry := set.getD index { tag := tag }
    if entry.integer > value then none
    else if entry.integer ≠ value then some (set.set index { entry with integer := value }, true)
    else some (set, setChanged)

/-- The block of `UpgradeKeyBlob` run when `boot_os_version_` is 0: the first `OS_VERSION`
    entry of `sw_enforced`, if any, is set to it. -/
def zeroSwOsVersion (bootOsVersion : Nat) (sw : AuthorizationSet) (setChanged : Bool) :
    AuthorizationSet × Bool :=
  if bootOsVersion = 0 then
    match sw.find .osVersion with
    | some pos =>
      let entry := sw.getD pos { tag := .osVersion }
      if entry.integer ≠ bootOsVersion then
        (sw.set pos { entry with integer := bootOsVersion }, true)
      else (sw, setChanged)
    | none => (sw, setChanged)
  else (sw, setChanged)

/-- What `UpgradeKeyBlob` does to the parsed key's `hw_enforced` and `sw_enforced`: the new
    sets and `set_changed`, or `none` when one version field would be a downgrade. -/
def upgradeAuthorizations (c : Context) (hw sw : AuthorizationSet) :
    Option (AuthorizationSet × AuthorizationSet × Bool) :=
  let (sw, setChanged) := zeroSwOsVersion c.bootOsVersion sw false
  match upgradeIntegerTag .osVersion c.bootOsVersion hw setChanged with
  | none => none
  | some (hw, setChanged) =>
    match upgradeIntegerTag .osPatchlevel c.bootOsPatchlevel hw setChanged with
    | none => none
    | some (hw, setChanged) => some (hw, sw, setChanged)

/-- `UpgradeKeyBlob`: `some` new blob, or `none` when nothing changed and no blob is
    written. The key is parsed with `allow_ocb`; `random` is what the context gives
    `EncryptKey` when the new blob is made. -/
def upgradeKeyBlob (lib : Library) (cfg : BuildConfig) (c : Context) (keyToUpgrade : Bytes)
    (upgradeParams : AuthorizationSet) (oParse oCreate : HwkeyOutcome) (random : Bytes) :
    Except Fault (Option Bytes) := do
  let key ← parseKeyBlob lib cfg c keyToUpgrade upgradeParams true oParse
  match upgradeAuthorizations c key.hwEnforced key.swEnforced with
  | none => .error (.error .invalidArgument)
  | some (hw, sw, setChanged) =>
    if !setChanged then pure none
    else do
      let blob ←
        createAuthEncryptedKeyBlob lib cfg c upgradeParams key.keyMaterial hw sw oCreate random
      pure (some blob)

/-- The hwkey outcomes of the `DeriveMasterKey` calls `UpgradeKeyBlob` makes: those of
    `ParseKeyBlob` under `oParse`, then one under `oCreate` once the parsed key's sets
    change. -/
def upgradeKeyBlobDerivations (lib : Library) (cfg : BuildConfig) (c : Context)
    (keyToUpgrade : Bytes) (upgradeParams : AuthorizationSet) (oParse oCreate : HwkeyOutcome) :
    List HwkeyOutcome :=
  parseKeyBlobDerivations lib keyToUpgrade oParse ++
    match parseKeyBlob lib cfg c keyToUpgrade upgradeParams true oParse with
    | .ok key =>
      match upgradeAuthorizations c key.hwEnforced key.swEnforced with
      | some (_, _, true) => [oCreate]
      | _ => []
    | .error _ => []

/-! ## `UpgradeIntegerTag` -/

section
variable {tag : Tag} {value : Nat} {s s' : AuthorizationSet} {ch ch' : Bool}

/-- What `UpgradeIntegerTag` does: append the value when the tag is absent; otherwise refuse a
    smaller one, and write a different one into the first entry with the tag. -/
theorem upgradeIntegerTag_cases (tag : Tag) (value : Nat) (s : AuthorizationSet) (ch : Bool) :
    (tag ∉ s.tags ∧
      upgradeIntegerTag tag value s ch = some (s ++ [{ tag := tag, integer := value }], true)) ∨
    ∃ pre p post, s = pre ++ p :: post ∧ tag ∉ tags pre ∧ p.tag = tag ∧
      upgradeIntegerTag tag value s ch =
        if value < p.integer then none
        else if p.integer ≠ value then some (pre ++ { p with integer := value } :: post, true)
        else some (s, ch) := by
  unfold upgradeIntegerTag
  cases h : s.find tag with
  | none => exact .inl ⟨find_eq_none.1 h, rfl⟩
  | some i =>
    obtain ⟨pre, p, post, rfl, hpre, hp, rfl⟩ := find_eq_some h
    exact .inr ⟨pre, p, post, rfl, hpre, hp, by simp [List.getElem_append_right]⟩

theorem upgradeIntegerTag_eq_none :
    upgradeIntegerTag tag value s ch = none ↔ ∃ x, s.integerValue tag = some x ∧ value < x := by
  rcases upgradeIntegerTag_cases tag value s ch with ⟨hs, h⟩ | ⟨pre, p, post, rfl, hpre, hp, h⟩
  · simp [h, integerValue, getTagValue_of_not_mem hs]
  · rw [h, integerValue, getTagValue_split hpre hp]
    split_ifs <;> simp_all

/-- After `UpgradeIntegerTag`, the first entry with the tag holds the value; entries with
    other tags are untouched, and so are the tags when the tag was present. -/
theorem upgradeIntegerTag_frame (h : upgradeIntegerTag tag value s ch = some (s', ch')) :
    s'.integerValue tag = some value ∧ (∀ t, t ≠ tag → s'.getTagValue t = s.getTagValue t) ∧
      (tag ∈ s.tags → s'.tags = s.tags) := by
  rcases upgradeIntegerTag_cases tag value s ch with ⟨hs, h'⟩ | ⟨pre, p, post, rfl, hpre, hp, h'⟩
  · rw [h'] at h; cases h
    refine ⟨?_, fun t ht => ?_, fun h => absurd h hs⟩
    · simp [integerValue, getTagValue_append, getTagValue_of_not_mem hs, getTagValue_cons]
    · simp [getTagValue_append, getTagValue_cons, Ne.symm ht]
  · rw [h'] at h
    split_ifs at h with h1 h2 <;> cases h
    · refine ⟨?_, fun t ht => getTagValue_replace pre post (p := p) (q := { p with integer := value }) rfl
        (hp ▸ ht), fun _ =>
        tags_replace pre post rfl⟩
      simp [integerValue, getTagValue_split (p := { p with integer := value }) hpre hp]
    · refine ⟨?_, fun _ _ => rfl, fun _ => rfl⟩
      simp [integerValue, getTagValue_split hpre hp, not_not.1 h2]

/-- `UpgradeIntegerTag` sets `set_changed` exactly when it changes the set, which it does
    exactly when the first entry with the tag does not already hold the value. -/
theorem upgradeIntegerTag_changed (h : upgradeIntegerTag tag value s ch = some (s', ch')) :
    (ch' = true ↔ ch = true ∨ s' ≠ s) ∧ (s' = s ↔ s.integerValue tag = some value) := by
  rcases upgradeIntegerTag_cases tag value s ch with ⟨hs, h'⟩ | ⟨pre, p, post, rfl, hpre, hp, h'⟩
  · rw [h'] at h; cases h
    simp [integerValue, getTagValue_of_not_mem hs]
  · rw [h'] at h
    split_ifs at h with h1 h2 <;> cases h
    · have hne : { p with integer := value } ≠ p := fun he => h2 (by rw [← he])
      simp [integerValue, getTagValue_split hpre hp, hne, h2]
    · simp [integerValue, getTagValue_split hpre hp, not_not.1 h2]

theorem upgradeIntegerTag_of_integerValue (h : s.integerValue tag = some value) :
    upgradeIntegerTag tag value s ch = some (s, ch) := by
  rcases upgradeIntegerTag_cases tag value s ch with ⟨hs, -⟩ | ⟨pre, p, post, rfl, hpre, hp, h'⟩
  · simp [integerValue, getTagValue_of_not_mem hs] at h
  · simp only [integerValue, getTagValue_split hpre hp, Option.map_some', Option.some.injEq] at h
    simp [h', h]

end

/-! ## The zero-version block -/

section
variable {v : Nat} {sw sw' : AuthorizationSet} {ch ch' : Bool}

/-- What the zero-version block does: with `boot_os_version_` 0 and a first `OS_VERSION`
    entry in `sw_enforced` that is not 0, it zeroes that entry; otherwise nothing. -/
theorem zeroSwOsVersion_cases (v : Nat) (sw : AuthorizationSet) (ch : Bool) :
    (zeroSwOsVersion v sw ch = (sw, ch) ∧
        (v ≠ 0 ∨ ∀ x, sw.integerValue .osVersion = some x → x = 0)) ∨
      (v = 0 ∧ ∃ pre p post, sw = pre ++ p :: post ∧ .osVersion ∉ tags pre ∧
        p.tag = .osVersion ∧ p.integer ≠ 0 ∧
        zeroSwOsVersion v sw ch = (pre ++ { p with integer := 0 } :: post, true)) := by
  unfold zeroSwOsVersion
  by_cases hv : v = 0
  · subst hv
    cases h : sw.find .osVersion with
    | none => exact .inl ⟨rfl, .inr fun x hx => by
        simp [integerValue, getTagValue_of_not_mem (find_eq_none.1 h)] at hx⟩
    | some i =>
      obtain ⟨pre, p, post, rfl, hpre, hp, rfl⟩ := find_eq_some h
      by_cases h0 : p.integer = 0
      · refine .inl ⟨by simp [List.getElem_append_right, h0], .inr fun x hx => ?_⟩
        simp only [integerValue, getTagValue_split hpre hp, Option.map_some',
          Option.some.injEq] at hx
        rw [← hx, h0]
      · exact .inr ⟨rfl, pre, p, post, rfl, hpre, hp, h0,
          by simp [List.getElem_append_right, h0]⟩
  · exact .inl ⟨by simp [hv], .inl hv⟩

theorem zeroSwOsVersion_tags (h : zeroSwOsVersion v sw ch = (sw', ch')) : sw'.tags = sw.tags := by
  rcases zeroSwOsVersion_cases v sw ch with ⟨h', -⟩ | ⟨-, pre, p, post, rfl, -, -, -, h'⟩ <;>
    rw [h'] at h <;> cases h
  · rfl
  · exact tags_replace pre post rfl

/-- With `boot_os_version_` 0, the block leaves no nonzero first `OS_VERSION` in
    `sw_enforced`. -/
theorem zeroSwOsVersion_integerValue (h : zeroSwOsVersion v sw ch = (sw', ch')) (hv : v = 0) :
    ∀ x, sw'.integerValue .osVersion = some x → x = 0 := by
  rcases zeroSwOsVersion_cases v sw ch with ⟨h', hz⟩ | ⟨-, pre, p, post, rfl, hpre, hp, -, h'⟩ <;>
    rw [h'] at h <;> cases h
  · exact hz.resolve_left (not_not.2 hv)
  · intro x hx
    simp only [integerValue, getTagValue_split (p := { p with integer := 0 }) hpre hp,
      Option.map_some', Option.some.injEq] at hx
    exact hx.symm

theorem zeroSwOsVersion_changed (h : zeroSwOsVersion v sw ch = (sw', ch')) :
    ch' = true ↔ ch = true ∨ sw' ≠ sw := by
  rcases zeroSwOsVersion_cases v sw ch with ⟨h', -⟩ | ⟨-, pre, p, post, rfl, -, -, h0, h'⟩ <;>
    rw [h'] at h <;> cases h
  · simp
  · have hne : { p with integer := 0 } ≠ p := fun he => h0 (by rw [← he])
    simp [hne]

theorem zeroSwOsVersion_of_zero (hz : v ≠ 0 ∨ ∀ x, sw.integerValue .osVersion = some x → x = 0) :
    zeroSwOsVersion v sw ch = (sw, ch) := by
  rcases zeroSwOsVersion_cases v sw ch with ⟨h', -⟩ | ⟨rfl, pre, p, post, rfl, hpre, hp, h0, -⟩
  · exact h'
  · exact absurd (hz.resolve_left (not_not.2 rfl) p.integer
      (by simp [integerValue, getTagValue_split hpre hp])) h0

end

/-! ## The changes to the sets -/

/-- A downgrade: a recorded OS version or patchlevel above the boot's. -/
def Downgrade (c : Context) (hw : AuthorizationSet) : Prop :=
  (∃ x, hw.integerValue .osVersion = some x ∧ c.bootOsVersion < x) ∨
    (∃ y, hw.integerValue .osPatchlevel = some y ∧ c.bootOsPatchlevel < y)

/-- Sets `UpgradeKeyBlob` has nothing to change in under boot `c`. -/
def UpToDate (c : Context) (hw sw : AuthorizationSet) : Prop :=
  hw.integerValue .osVersion = some c.bootOsVersion ∧
    hw.integerValue .osPatchlevel = some c.bootOsPatchlevel ∧
    (c.bootOsVersion ≠ 0 ∨ ∀ x, sw.integerValue .osVersion = some x → x = 0)

section
variable {c : Context} {hw sw hw' sw' : AuthorizationSet} {ch : Bool}

/-- The two steps of `upgradeAuthorizations` that succeed. -/
theorem upgradeAuthorizations_eq_some
    (h : upgradeAuthorizations c hw sw = some (hw', sw', ch)) :
    ∃ ch₀ hw₁ ch₁, zeroSwOsVersion c.bootOsVersion sw false = (sw', ch₀) ∧
      upgradeIntegerTag .osVersion c.bootOsVersion hw ch₀ = some (hw₁, ch₁) ∧
      upgradeIntegerTag .osPatchlevel c.bootOsPatchlevel hw₁ ch₁ = some (hw', ch) := by
  unfold upgradeAuthorizations at h
  rcases hz : zeroSwOsVersion c.bootOsVersion sw false with ⟨sw₀, ch₀⟩
  rw [hz] at h
  simp only at h
  split at h
  · cases h
  · rename_i hw₁ ch₁ h₁
    split at h
    · cases h
    · rename_i hw₂ ch₂ h₂
      cases h
      exact ⟨ch₀, hw₁, ch₁, rfl, h₁, h₂⟩

/-- **The upgrade is refused exactly on a downgrade.** -/
theorem upgradeAuthorizations_eq_none : upgradeAuthorizations c hw sw = none ↔ Downgrade c hw := by
  unfold upgradeAuthorizations Downgrade
  rcases hz : zeroSwOsVersion c.bootOsVersion sw false with ⟨sw₀, ch₀⟩
  simp only
  cases h₁ : upgradeIntegerTag .osVersion c.bootOsVersion hw ch₀ with
  | none => simp [h₁, upgradeIntegerTag_eq_none.1 h₁]
  | some r₁ =>
    obtain ⟨hw₁, ch₁⟩ := r₁
    have hv : ¬ ∃ x, hw.integerValue .osVersion = some x ∧ c.bootOsVersion < x :=
      fun h => by simp [upgradeIntegerTag_eq_none.2 h] at h₁
    have hp : hw₁.integerValue .osPatchlevel = hw.integerValue .osPatchlevel := by
      simp [integerValue, (upgradeIntegerTag_frame h₁).2.1 .osPatchlevel (by decide)]
    cases h₂ : upgradeIntegerTag .osPatchlevel c.bootOsPatchlevel hw₁ ch₁ with
    | none => simp [h₁, h₂, ← hp, upgradeIntegerTag_eq_none.1 h₂]
    | some r₂ =>
      have hp' : ¬ ∃ y, hw₁.integerValue .osPatchlevel = some y ∧ c.bootOsPatchlevel < y :=
        fun h => by simp [upgradeIntegerTag_eq_none.2 h] at h₂
      simp [h₁, h₂, hv, ← hp, hp']

theorem upgradeAuthorizations_upToDate (h : upgradeAuthorizations c hw sw = some (hw', sw', ch)) :
    UpToDate c hw' sw' := by
  obtain ⟨ch₀, hw₁, ch₁, hz, h₁, h₂⟩ := upgradeAuthorizations_eq_some h
  have hv := (upgradeIntegerTag_frame h₁).1
  obtain ⟨hp, hframe, -⟩ := upgradeIntegerTag_frame h₂
  refine ⟨by simp [integerValue, hframe .osVersion (by decide), ← hv], hp, ?_⟩
  by_cases h0 : c.bootOsVersion = 0
  · exact .inr (zeroSwOsVersion_integerValue hz h0)
  · exact .inl h0

/-- **Up-to-date sets are a fixed point of the upgrade.** -/
theorem upgradeAuthorizations_of_upToDate (h : UpToDate c hw sw) :
    upgradeAuthorizations c hw sw = some (hw, sw, false) := by
  obtain ⟨hv, hp, hz⟩ := h
  simp [upgradeAuthorizations, zeroSwOsVersion_of_zero hz, upgradeIntegerTag_of_integerValue hv,
    upgradeIntegerTag_of_integerValue hp]

/-- **`set_changed` ends true exactly when the upgrade changed a set.** -/
theorem upgradeAuthorizations_changed (h : upgradeAuthorizations c hw sw = some (hw', sw', ch)) :
    ch = true ↔ (hw', sw') ≠ (hw, sw) := by
  obtain ⟨ch₀, hw₁, ch₁, hz, h₁, h₂⟩ := upgradeAuthorizations_eq_some h
  obtain ⟨hc₁, he₁⟩ := upgradeIntegerTag_changed h₁
  obtain ⟨hc₂, he₂⟩ := upgradeIntegerTag_changed h₂
  have hc₀ := zeroSwOsVersion_changed hz
  obtain ⟨hv₁, -, -⟩ := upgradeIntegerTag_frame h₁
  obtain ⟨hp₂, hframe₂, -⟩ := upgradeIntegerTag_frame h₂
  have hv₂ : hw'.integerValue .osVersion = some c.bootOsVersion := by
    simp [integerValue, hframe₂ .osVersion (by decide), ← hv₁]
  have hp₁ : hw₁.integerValue .osPatchlevel = hw.integerValue .osPatchlevel := by
    simp [integerValue, (upgradeIntegerTag_frame h₁).2.1 .osPatchlevel (by decide)]
  -- `hw'` differs from `hw` exactly when one of the two steps changed it
  have hhw : ¬ hw' = hw ↔ ¬ hw₁ = hw ∨ ¬ hw' = hw₁ := by
    constructor
    · intro hne; by_contra hc; push_neg at hc; exact hne (hc.2.trans hc.1)
    · rintro (hne | hne) heq
      · exact hne (he₁.2 (heq ▸ hv₂))
      · exact hne (he₂.2 (by rw [hp₁, ← heq, hp₂]))
  simp only [hc₂, hc₁, hc₀, Bool.false_eq_true, false_or, ne_eq, Prod.mk.injEq, not_and_or]
  rw [hhw]
  simp only [or_comm, or_left_comm]

/-- Outside `OS_VERSION` and `OS_PATCHLEVEL`, the upgrade changes no lookup in
    `hw_enforced`, and no tag of either set when the two are present. -/
theorem upgradeAuthorizations_frame (h : upgradeAuthorizations c hw sw = some (hw', sw', ch)) :
    (∀ t, t ≠ .osVersion → t ≠ .osPatchlevel → hw'.getTagValue t = hw.getTagValue t) ∧
      (Tag.osVersion ∈ hw.tags → Tag.osPatchlevel ∈ hw.tags → hw'.tags = hw.tags) ∧
      sw'.tags = sw.tags := by
  obtain ⟨ch₀, hw₁, ch₁, hz, h₁, h₂⟩ := upgradeAuthorizations_eq_some h
  obtain ⟨-, hf₁, ht₁⟩ := upgradeIntegerTag_frame h₁
  obtain ⟨-, hf₂, ht₂⟩ := upgradeIntegerTag_frame h₂
  refine ⟨fun t hv hp => (hf₂ t hp).trans (hf₁ t hv), fun hv hp => ?_,
    zeroSwOsVersion_tags hz⟩
  rw [ht₂ (by rwa [ht₁ hv]), ht₁ hv]

end

/-! ## `UpgradeKeyBlob` -/

section
variable {lib : Library} {cfg : BuildConfig} {c : Context}

/-- `UpgradeKeyBlob` on a blob that parses. -/
theorem upgradeKeyBlob_of_parse {blob : Bytes} {q : AuthorizationSet} {oParse : HwkeyOutcome}
    {k : Key} (hparse : parseKeyBlob lib cfg c blob q true oParse = .ok k) (oCreate : HwkeyOutcome) (random : Bytes) :
    upgradeKeyBlob lib cfg c blob q oParse oCreate random =
      match upgradeAuthorizations c k.hwEnforced k.swEnforced with
      | none => .error (.error .invalidArgument)
      | some (hw, sw, setChanged) =>
        if setChanged then
          (createAuthEncryptedKeyBlob lib cfg c q k.keyMaterial hw sw oCreate random).map some
        else .ok none := by
  simp only [upgradeKeyBlob, hparse, bind, Except.bind]
  split
  · rfl
  · split <;> simp_all [pure, Except.pure, Except.map]

/-- A failing `DeriveMasterKey` call of `UpgradeKeyBlob` makes it return that error. -/
theorem upgradeKeyBlob_of_derivation_error {blob : Bytes} {q : AuthorizationSet}
    {oParse oCreate o : HwkeyOutcome} {random : Bytes} {e : KmError}
    (ho : o ∈ upgradeKeyBlobDerivations lib cfg c blob q oParse oCreate)
    (he : deriveMasterKey lib cfg o = .error e) :
    upgradeKeyBlob lib cfg c blob q oParse oCreate random = .error (.error e) := by
  rcases List.mem_append.1 ho with hp | hc
  · simp [upgradeKeyBlob, parseKeyBlob_of_derivation_error hp he, bind, Except.bind]
  · cases hparse : parseKeyBlob lib cfg c blob q true oParse with
    | error f => simp [hparse] at hc
    | ok k =>
      rw [upgradeKeyBlob_of_parse hparse]
      rcases hu : upgradeAuthorizations c k.hwEnforced k.swEnforced with _ | ⟨hw, sw, _ | _⟩ <;>
        simp only [hparse, hu, List.not_mem_nil, List.mem_singleton] at hc
      subst hc
      simp [createAuthEncryptedKeyBlob_of_deriveMasterKey_error he, Except.map]

/-- An upgrade that succeeds has parsed its blob. -/
theorem upgradeKeyBlob_parses {blob : Bytes} {q : AuthorizationSet}
    {oParse oCreate : HwkeyOutcome} {random : Bytes} {r : Option Bytes}
    (h : upgradeKeyBlob lib cfg c blob q oParse oCreate random = .ok r) :
    ∃ k, parseKeyBlob lib cfg c blob q true oParse = .ok k := by
  cases hp : parseKeyBlob lib cfg c blob q true oParse with
  | error => simp [upgradeKeyBlob, hp, bind, Except.bind] at h
  | ok k => exact ⟨k, rfl⟩

/-- A created `hw_enforced` has the boot's OS version and patchlevel first, and a created
    `sw_enforced` no `OS_VERSION`: the description's own entries for them are dropped. -/
theorem setAuthorizations_upToDate {d : AuthorizationSet} {origin : Nat}
    {hw sw : AuthorizationSet} (h : setAuthorizations cfg c d origin = (.ok, hw, sw)) :
    UpToDate c hw sw := by
  obtain ⟨-, rfl, rfl⟩ := setAuthorizations_ok h
  have hv : Tag.osVersion ∉ tags (d.filterMap (hardwareEntry cfg)) :=
    fun h => absurd (isHardwareEnforced_of_mem_hardwareEntries h) (by decide)
  have hp : Tag.osPatchlevel ∉ tags (d.filterMap (hardwareEntry cfg)) :=
    fun h => absurd (isHardwareEnforced_of_mem_hardwareEntries h) (by decide)
  have hs : Tag.osVersion ∉ tags (d.filterMap keystoreEntry) :=
    fun h => absurd (isKeystoreEnforced_of_mem_keystoreEntries h) (by decide)
  refine ⟨?_, ?_, .inr fun x hx => ?_⟩ <;>
    simp_all [integerValue, getTagValue_append, getTagValue_of_not_mem, setBelowEntries,
      getTagValue_cons]

/-- After a successful upgrade, the key's current blob (the new one, or the old one when
    none is written) records the upgraded sets. -/
theorem upgradeKeyBlob_current {blob : Bytes} {q : AuthorizationSet}
    {oParse oCreate : HwkeyOutcome} {random : Bytes} {k : Key} {r : Option Bytes}
    (hparse : parseKeyBlob lib cfg c blob q true oParse = .ok k)
    (h : upgradeKeyBlob lib cfg c blob q oParse oCreate random = .ok r) :
    ∃ hw sw ch, upgradeAuthorizations c k.hwEnforced k.swEnforced = some (hw, sw, ch) ∧
      ∃ e, deserializeKeyBlob lib (r.getD blob) = .ok ⟨e, hw, sw⟩ := by
  rw [upgradeKeyBlob_of_parse hparse] at h
  cases hu : upgradeAuthorizations c k.hwEnforced k.swEnforced with
  | none => simp [hu] at h
  | some res =>
    obtain ⟨hw, sw, ch⟩ := res
    refine ⟨hw, sw, ch, rfl, ?_⟩
    rw [hu] at h
    cases ch with
    | false =>
      cases h
      have hsame := (upgradeAuthorizations_changed hu).not
      simp only [Bool.false_eq_true, not_false_eq_true, ne_eq, not_not, true_iff,
        Prod.mk.injEq] at hsame
      obtain ⟨rfl, rfl⟩ := hsame
      exact parseKeyBlob_deserialize hparse
    | true =>
      cases hb : createAuthEncryptedKeyBlob lib cfg c q k.keyMaterial hw sw oCreate random with
      | error => simp [hb, Except.map] at h
      | ok b =>
        simp only [hb, Except.map, if_true, Except.ok.injEq] at h
        subst h
        exact createAuthEncryptedKeyBlob_deserialize hb

/-- A blob that records up-to-date sets is upgraded to itself. -/
theorem upgradeKeyBlob_of_upToDate {blob : Bytes} {q : AuthorizationSet}
    {oParse : HwkeyOutcome} {k : Key} {e : EncryptedKey} {hw sw : AuthorizationSet}
    (hd : deserializeKeyBlob lib blob = .ok ⟨e, hw, sw⟩) (hu : UpToDate c hw sw)
    (hparse : parseKeyBlob lib cfg c blob q true oParse = .ok k) (oCreate : HwkeyOutcome) (random : Bytes) :
    upgradeKeyBlob lib cfg c blob q oParse oCreate random = .ok none := by
  obtain ⟨e', hd'⟩ := parseKeyBlob_deserialize hparse
  rw [hd] at hd'
  cases hd'
  rw [upgradeKeyBlob_of_parse hparse, upgradeAuthorizations_of_upToDate hu]
  rfl

/-- **`UpgradeKeyBlob` moves the recorded versions up to the boot's.** For a blob that
    parses into `k`, with a reliable library and the master key derived: the upgrade returns
    `KM_ERROR_INVALID_ARGUMENT` exactly on a downgrade, and succeeds otherwise. Whenever it
    succeeds, whatever the hardware key service does, the recorded versions were at most the
    boot's, and the key's current blob records exactly the boot's. -/
theorem upgradeKeyBlob_os_versions (hlib : lib.Reliable) {blob : Bytes}
    {q : AuthorizationSet} {oParse : HwkeyOutcome} {random : Bytes} {k : Key}
    (hparse : parseKeyBlob lib cfg c blob q true oParse = .ok k) :
    (upgradeKeyBlob lib cfg c blob q oParse .success random = .error (.error .invalidArgument) ↔
        Downgrade c k.hwEnforced) ∧
      (¬ Downgrade c k.hwEnforced →
        ∃ r, upgradeKeyBlob lib cfg c blob q oParse .success random = .ok r) ∧
      ∀ oCreate r, upgradeKeyBlob lib cfg c blob q oParse oCreate random = .ok r →
        (∀ x, k.hwEnforced.integerValue .osVersion = some x → x ≤ c.bootOsVersion) ∧
        (∀ y, k.hwEnforced.integerValue .osPatchlevel = some y → y ≤ c.bootOsPatchlevel) ∧
        ∃ dk, deserializeKeyBlob lib (r.getD blob) = .ok dk ∧
          dk.hwEnforced.integerValue .osVersion = some c.bootOsVersion ∧
          dk.hwEnforced.integerValue .osPatchlevel = some c.bootOsPatchlevel := by
  have hup := upgradeKeyBlob_of_parse hparse
  -- with the master key derived, writing the new blob succeeds
  have hcreate : ∀ hw sw, ∃ b, createAuthEncryptedKeyBlob lib cfg c q k.keyMaterial hw sw
      .success random = .ok b := fun hw sw =>
    (createAuthEncryptedKeyBlob_reliable hlib q k.keyMaterial hw sw .success random).resolve_right
      fun ⟨_, hd, _⟩ => by simp [deriveMasterKey, HwkeyOutcome.success] at hd
  refine ⟨?_, fun hnd => ?_, fun oCreate r h => ?_⟩
  · rw [hup, ← upgradeAuthorizations_eq_none]
    cases upgradeAuthorizations c k.hwEnforced k.swEnforced with
    | none => simp
    | some res =>
      obtain ⟨hw, sw, ch⟩ := res
      obtain ⟨b, hb⟩ := hcreate hw sw
      cases ch <;> simp [hb, Except.map]
  · have hsome : upgradeAuthorizations c k.hwEnforced k.swEnforced ≠ none :=
      mt upgradeAuthorizations_eq_none.1 hnd
    rw [hup]
    obtain ⟨⟨hw, sw, ch⟩, hu⟩ := Option.ne_none_iff_exists'.1 hsome
    obtain ⟨b, hb⟩ := hcreate hw sw
    cases ch <;> simp [hu, hb, Except.map]
  · obtain ⟨hw, sw, ch, hu, e, hd⟩ := upgradeKeyBlob_current hparse h
    have hnd : ¬ Downgrade c k.hwEnforced := by
      rw [← upgradeAuthorizations_eq_none, hu]; simp
    obtain ⟨hv, hp, -⟩ := upgradeAuthorizations_upToDate hu
    refine ⟨fun x hx => ?_, fun y hy => ?_, _, hd, hv, hp⟩
    · exact Nat.not_lt.1 fun hlt => hnd (.inl ⟨x, hx, hlt⟩)
    · exact Nat.not_lt.1 fun hlt => hnd (.inr ⟨y, hy, hlt⟩)

set_option maxRecDepth 8000 in
theorem upgradeKeyBlob_os_versions_aes :
    ∃ blob hw sw, createKeyBlob .reference .plain .initial [{ tag := .algorithm, integer := 32 }]
        0 [1] .success [9] = (.ok blob, hw, sw) ∧
      parseKeyBlob .reference .plain .initial blob [{ tag := .algorithm, integer := 32 }] true
        .success = .ok ⟨.aes, [1], hw, sw⟩ ∧
      (upgradeKeyBlob .reference .plain .initial blob [{ tag := .algorithm, integer := 32 }]
          .success .success [9] = .error (.error .invalidArgument) ↔ Downgrade .initial hw) := by
  obtain ⟨blob, hw, sw, hc, hp⟩ : ∃ blob hw sw, createKeyBlob .reference .plain .initial
      [{ tag := .algorithm, integer := 32 }] 0 [1] .success [9] = (.ok blob, hw, sw) ∧
      parseKeyBlob .reference .plain .initial blob [{ tag := .algorithm, integer := 32 }] true
        .success = .ok ⟨.aes, [1], hw, sw⟩ := ⟨_, _, _, rfl, rfl⟩
  exact ⟨blob, hw, sw, hc, hp, (upgradeKeyBlob_os_versions Library.reference_reliable hp).1⟩

/-- **A zero boot OS version refuses every blob recorded with a nonzero one.** The zeroing
    block writes `sw_enforced`, but a created blob records `OS_VERSION` in `hw_enforced`,
    where `UpgradeIntegerTag` sees 0 as a downgrade. -/
theorem upgradeKeyBlob_zero_boot_refused {c₀ : Context} {d : AuthorizationSet} {origin : Nat}
    {m : Bytes} {oc : HwkeyOutcome} {r blob : Bytes} {hw sw : AuthorizationSet}
    (hc : createKeyBlob lib cfg c₀ d origin m oc r = (.ok blob, hw, sw))
    (hv : 0 < c₀.bootOsVersion) (h0 : c.bootOsVersion = 0) {q : AuthorizationSet}
    {oParse : HwkeyOutcome} {k : Key} (hparse : parseKeyBlob lib cfg c blob q true oParse = .ok k)
    (oCreate : HwkeyOutcome) (random : Bytes) :
    upgradeKeyBlob lib cfg c blob q oParse oCreate random = .error (.error .invalidArgument) := by
  obtain ⟨hs, hcr⟩ := createKeyBlob_eq_ok.1 hc
  obtain ⟨e, hd⟩ := createAuthEncryptedKeyBlob_deserialize hcr
  obtain ⟨e', hd'⟩ := parseKeyBlob_deserialize hparse
  rw [hd] at hd'
  cases hd'
  have hdown : Downgrade c k.hwEnforced :=
    .inl ⟨_, (setAuthorizations_upToDate hs).1, h0 ▸ hv⟩
  rw [upgradeKeyBlob_of_parse hparse, upgradeAuthorizations_eq_none.2 hdown]

set_option maxRecDepth 8000 in
theorem upgradeKeyBlob_zero_boot_refused_aes :
    ∃ blob hw sw, createKeyBlob .reference .plain { Context.initial with bootOsVersion := 1 }
        [{ tag := .algorithm, integer := 32 }] 0 [1] .success [9] = (.ok blob, hw, sw) ∧
      parseKeyBlob .reference .plain .initial blob [{ tag := .algorithm, integer := 32 }] true
        .success = .ok ⟨.aes, [1], hw, sw⟩ ∧
      upgradeKeyBlob .reference .plain .initial blob [{ tag := .algorithm, integer := 32 }]
        .success .success [9] = .error (.error .invalidArgument) :=
  ⟨_, _, _, rfl, rfl, @upgradeKeyBlob_zero_boot_refused .reference .plain .initial
    { Context.initial with bootOsVersion := 1 } [{ tag := .algorithm, integer := 32 }] 0 [1]
    .success [9] _ _ _ rfl (by decide) rfl [{ tag := .algorithm, integer := 32 }] .success _ rfl
    .success [9]⟩

/-- On a blob recording up-to-date sets, `UpgradeKeyBlob` returns what `ParseKeyBlob` returns
    and writes no new blob. -/
theorem upgradeKeyBlob_eq_parse_of_upToDate {blob : Bytes} {e : EncryptedKey}
    {hw sw : AuthorizationSet} (hd : deserializeKeyBlob lib blob = .ok ⟨e, hw, sw⟩)
    (hu : UpToDate c hw sw) (q : AuthorizationSet) (oParse oCreate : HwkeyOutcome)
    (random : Bytes) :
    upgradeKeyBlob lib cfg c blob q oParse oCreate random =
      (parseKeyBlob lib cfg c blob q true oParse).map fun _ => none := by
  cases hp : parseKeyBlob lib cfg c blob q true oParse with
  | error f => simp [upgradeKeyBlob, hp, bind, Except.bind, Except.map]
  | ok k => exact upgradeKeyBlob_of_upToDate hd hu hp oCreate random

/-- **Created and upgraded blobs are not upgraded again in their boot.** On such a blob,
    whatever the parameters, `UpgradeKeyBlob` returns what `ParseKeyBlob` returns and writes no
    new blob; and `set_changed` reports exactly a change of the sets. -/
theorem upgradeKeyBlob_up_to_date_blob :
    (∀ d origin m oc r blob hw sw, createKeyBlob lib cfg c d origin m oc r = (.ok blob, hw, sw) →
      ∀ q oParse oCreate random, upgradeKeyBlob lib cfg c blob q oParse oCreate random =
        (parseKeyBlob lib cfg c blob q true oParse).map fun _ => none) ∧
      (∀ blob₀ q₀ o₁ o₂ r blob, upgradeKeyBlob lib cfg c blob₀ q₀ o₁ o₂ r = .ok (some blob) →
        ∀ q oParse oCreate random, upgradeKeyBlob lib cfg c blob q oParse oCreate random =
          (parseKeyBlob lib cfg c blob q true oParse).map fun _ => none) ∧
      ∀ hw sw hw' sw' ch, upgradeAuthorizations c hw sw = some (hw', sw', ch) →
        (ch = true ↔ (hw', sw') ≠ (hw, sw)) := by
  refine ⟨fun d origin m oc r blob hw sw hc => ?_, fun blob₀ q₀ o₁ o₂ r blob h => ?_,
    fun _ _ _ _ _ => upgradeAuthorizations_changed⟩
  · obtain ⟨hs, hcr⟩ := createKeyBlob_eq_ok.1 hc
    obtain ⟨e, hd⟩ := createAuthEncryptedKeyBlob_deserialize hcr
    exact upgradeKeyBlob_eq_parse_of_upToDate hd (setAuthorizations_upToDate hs)
  · obtain ⟨k₀, hparse₀⟩ := upgradeKeyBlob_parses h
    obtain ⟨hw, sw, ch, hu, e, hd⟩ := upgradeKeyBlob_current hparse₀ h
    exact upgradeKeyBlob_eq_parse_of_upToDate hd (upgradeAuthorizations_upToDate hu)

set_option maxRecDepth 8000 in
/-- A blob created from the empty description decrypts in its own boot, but `ParseKeyBlob`
    finds no `ALGORITHM` entry, so `UpgradeKeyBlob` returns `KM_ERROR_INVALID_KEY_BLOB` rather
    than `KM_ERROR_OK`. -/
theorem createKeyBlob_upgrade_invalid_key_blob :
    ∃ blob hw sw, createKeyBlob .reference .plain .initial [] 0 [1] .success [9] =
        (.ok blob, hw, sw) ∧
      (∃ x, decryptKeyBlob .reference .plain .initial blob [] true .success = .ok x) ∧
      upgradeKeyBlob .reference .plain .initial blob [] .success .success [9] =
        .error (.error .invalidKeyBlob) :=
  ⟨_, _, _, rfl, ⟨_, rfl⟩, rfl⟩

end

/-! ## What an upgrade writes, in the specification's terms -/

/-- The set with its first `tag` entry holding `value`, or with `tag = value` appended at the
    end if it has none. -/
def setFirstOrAppend (tag : Tag) (value : Nat) : AuthorizationSet → AuthorizationSet
  | [] => [{ tag := tag, integer := value }]
  | p :: s => if p.tag = tag then { p with integer := value } :: s
    else p :: setFirstOrAppend tag value s

/-- The set with its first `tag` entry, if it has one, holding `value`. -/
def setFirst (tag : Tag) (value : Nat) : AuthorizationSet → AuthorizationSet
  | [] => []
  | p :: s => if p.tag = tag then { p with integer := value } :: s
    else p :: setFirst tag value s

section
variable {tag : Tag} {value : Nat}

theorem Param.with_integer_of_eq {p : Param} (h : p.integer = value) :
    { p with integer := value } = p := by
  subst h; rfl

theorem setFirstOrAppend_of_not_mem :
    ∀ {s : AuthorizationSet}, tag ∉ s.tags →
      setFirstOrAppend tag value s = s ++ [{ tag := tag, integer := value }]
  | [], _ => rfl
  | p :: s, h => by
    simp only [tags, List.map_cons, List.mem_cons, not_or] at h
    simp [setFirstOrAppend, Ne.symm h.1, setFirstOrAppend_of_not_mem h.2]

theorem setFirstOrAppend_split {p : Param} (hp : p.tag = tag) (post : AuthorizationSet) :
    ∀ {pre : AuthorizationSet}, tag ∉ pre.tags →
      setFirstOrAppend tag value (pre ++ p :: post) = pre ++ { p with integer := value } :: post
  | [], _ => by simp [setFirstOrAppend, hp]
  | q :: pre, h => by
    simp only [tags, List.map_cons, List.mem_cons, not_or] at h
    simp [setFirstOrAppend, Ne.symm h.1, setFirstOrAppend_split hp post h.2]

theorem setFirst_of_not_mem : ∀ {s : AuthorizationSet}, tag ∉ s.tags → setFirst tag value s = s
  | [], _ => rfl
  | p :: s, h => by
    simp only [tags, List.map_cons, List.mem_cons, not_or] at h
    simp [setFirst, Ne.symm h.1, setFirst_of_not_mem h.2]

theorem setFirst_split {p : Param} (hp : p.tag = tag) (post : AuthorizationSet) :
    ∀ {pre : AuthorizationSet}, tag ∉ pre.tags →
      setFirst tag value (pre ++ p :: post) = pre ++ { p with integer := value } :: post
  | [], _ => by simp [setFirst, hp]
  | q :: pre, h => by
    simp only [tags, List.map_cons, List.mem_cons, not_or] at h
    simp [setFirst, Ne.symm h.1, setFirst_split hp post h.2]

/-- `UpgradeIntegerTag` writes the set with its first entry for the tag holding the value,
    appended if absent. -/
theorem upgradeIntegerTag_eq_setFirstOrAppend {s s' : AuthorizationSet} {ch ch' : Bool}
    (h : upgradeIntegerTag tag value s ch = some (s', ch')) :
    s' = setFirstOrAppend tag value s := by
  rcases upgradeIntegerTag_cases tag value s ch with ⟨hs, h'⟩ | ⟨pre, p, post, rfl, hpre, hp, h'⟩
  · rw [h'] at h; cases h
    exact (setFirstOrAppend_of_not_mem hs).symm
  · rw [h'] at h
    rw [setFirstOrAppend_split hp post hpre]
    split_ifs at h with h1 h2 <;> cases h
    · rfl
    · rw [Param.with_integer_of_eq (not_not.1 h2)]

end

/-- The zero-version block writes `sw_enforced` with its first `OS_VERSION` entry, if any,
    holding 0 when the boot's OS version is 0, and leaves it alone otherwise. -/
theorem zeroSwOsVersion_eq_setFirst {v : Nat} {sw sw' : AuthorizationSet} {ch ch' : Bool}
    (h : zeroSwOsVersion v sw ch = (sw', ch')) :
    sw' = if v = 0 then setFirst .osVersion 0 sw else sw := by
  rcases zeroSwOsVersion_cases v sw ch with ⟨h', hz⟩ | ⟨rfl, pre, p, post, rfl, hpre, hp, -, h'⟩
  · rw [h'] at h; cases h
    split_ifs with hv
    · cases hf : sw.find .osVersion with
      | none => exact (setFirst_of_not_mem (find_eq_none.1 hf)).symm
      | some i =>
        obtain ⟨pre, p, post, rfl, hpre, hp, -⟩ := find_eq_some hf
        have h0 : p.integer = 0 := (hz.resolve_left (not_not.2 hv)) _
          (by simp [integerValue, getTagValue_split hpre hp])
        rw [setFirst_split hp post hpre, Param.with_integer_of_eq h0]
    · rfl
  · rw [h'] at h; cases h
    simp [setFirst_split hp post hpre]

/-- **What an upgrade writes.** The first `OS_VERSION` and `OS_PATCHLEVEL` entries of
    `hw_enforced` hold the boot's values, each appended if absent, and with a zero boot OS
    version the first `OS_VERSION` entry of `sw_enforced` holds 0; nothing else changes. -/
theorem upgradeAuthorizations_eq_spec {c : Context} {hw sw hw' sw' : AuthorizationSet}
    {ch : Bool} (h : upgradeAuthorizations c hw sw = some (hw', sw', ch)) :
    hw' = setFirstOrAppend .osPatchlevel c.bootOsPatchlevel
        (setFirstOrAppend .osVersion c.bootOsVersion hw) ∧
      sw' = if c.bootOsVersion = 0 then setFirst .osVersion 0 sw else sw := by
  obtain ⟨ch₀, hw₁, ch₁, hz, h₁, h₂⟩ := upgradeAuthorizations_eq_some h
  rw [upgradeIntegerTag_eq_setFirstOrAppend h₂, upgradeIntegerTag_eq_setFirstOrAppend h₁]
  exact ⟨rfl, zeroSwOsVersion_eq_setFirst hz⟩

section
variable {lib : Library} {cfg : BuildConfig} {c : Context}

/-- A written blob is `CreateAuthEncryptedKeyBlob` of the parsed material under the upgrade
    parameters and the upgraded sets. -/
theorem upgradeKeyBlob_written {blob : Bytes} {q : AuthorizationSet}
    {oParse oCreate : HwkeyOutcome} {random : Bytes} {k : Key} {blob₂ : Bytes}
    (hparse : parseKeyBlob lib cfg c blob q true oParse = .ok k)
    (h : upgradeKeyBlob lib cfg c blob q oParse oCreate random = .ok (some blob₂)) :
    ∃ hw sw, upgradeAuthorizations c k.hwEnforced k.swEnforced = some (hw, sw, true) ∧
      createAuthEncryptedKeyBlob lib cfg c q k.keyMaterial hw sw oCreate random = .ok blob₂ := by
  rw [upgradeKeyBlob_of_parse hparse] at h
  cases hu : upgradeAuthorizations c k.hwEnforced k.swEnforced with
  | none => simp [hu] at h
  | some res =>
    obtain ⟨hw, sw, ch⟩ := res
    rw [hu] at h
    cases ch with
    | false => simp at h
    | true =>
      cases hb : createAuthEncryptedKeyBlob lib cfg c q k.keyMaterial hw sw oCreate random with
      | error => simp [hb, Except.map] at h
      | ok b =>
        simp only [hb, Except.map, if_true, Except.ok.injEq, Option.some.injEq] at h
        exact ⟨hw, sw, rfl, h ▸ hb⟩

/-- **An upgrade changes only the version entries.** For a blob that parses under the upgrade
    parameters and is upgraded into a new blob, the two blobs decrypt under exactly the same
    additional parameters and contexts, both to the parsed key material; and the new blob
    records the old one's sets with only the version entries written. -/
theorem upgradeKeyBlob_changes_only_versions (hauth : lib.Authenticated) {blob : Bytes}
    {p : AuthorizationSet} {oParse oCreate : HwkeyOutcome} {random : Bytes} {k : Key} {blob₂ : Bytes}
    (hparse : parseKeyBlob lib cfg c blob p true oParse = .ok k)
    (hup : upgradeKeyBlob lib cfg c blob p oParse oCreate random = .ok (some blob₂)) :
    (∀ (c' : Context) q allowOcb o,
      ((∃ r, decryptKeyBlob lib cfg c' blob₂ q allowOcb o = .ok r) ↔
          ∃ r, decryptKeyBlob lib cfg c' blob q allowOcb o = .ok r) ∧
        (∀ r, decryptKeyBlob lib cfg c' blob₂ q allowOcb o = .ok r → r.2 = k.keyMaterial) ∧
        ∀ r, decryptKeyBlob lib cfg c' blob q allowOcb o = .ok r → r.2 = k.keyMaterial) ∧
    ∃ e e₂, deserializeKeyBlob lib blob = .ok ⟨e, k.hwEnforced, k.swEnforced⟩ ∧
      deserializeKeyBlob lib blob₂ = .ok ⟨e₂,
        setFirstOrAppend .osPatchlevel c.bootOsPatchlevel
          (setFirstOrAppend .osVersion c.bootOsVersion k.hwEnforced),
        if c.bootOsVersion = 0 then setFirst .osVersion 0 k.swEnforced else k.swEnforced⟩ := by
  obtain ⟨e, he⟩ := parseKeyBlob_deserialize hparse
  obtain ⟨dk, hdk, -, -, -⟩ := parseKeyBlob_eq_ok hparse
  obtain ⟨hd, -, hm⟩ := decryptKeyBlob_eq_ok.1 hdk
  obtain ⟨hw, sw, hu, hc⟩ := upgradeKeyBlob_written hparse hup
  obtain ⟨-, e₂, he₂, hs₂⟩ := createAuthEncryptedKeyBlob_eq_ok.1 hc
  -- each blob decrypts exactly when the derivation succeeds and the hidden sets agree
  have hB₂ : ∀ c' q allowOcb o dk' m',
      decryptKeyBlob lib cfg c' blob₂ q allowOcb o = .ok (dk', m') ↔ o = .success ∧ buildHiddenAuthorizations c' q = buildHiddenAuthorizations c p ∧
        dk' = ⟨e₂, hw, sw⟩ ∧ m' = k.keyMaterial := fun c' q allowOcb o dk' m' => by
    rw [@decryptKeyBlob_of_encryptKey lib cfg c' _ _ _ _ _ _ _ _ _ he₂ hs₂]
    simp
  have hB : ∀ c' q allowOcb o dk' m',
      decryptKeyBlob lib cfg c' blob q allowOcb o = .ok (dk', m') ↔ o = .success ∧ buildHiddenAuthorizations c' q = buildHiddenAuthorizations c p ∧
        dk' = dk ∧ m' = k.keyMaterial := fun c' q allowOcb o dk' m' => by
    rw [decryptKeyBlob_eq_ok, hd, Except.ok.injEq]
    constructor
    · rintro ⟨rfl, ho, hm'⟩
      obtain ⟨hh, -, rfl⟩ := (hauth _ _ _ _ hm _ _ _).1 hm'
      exact ⟨ho, hh, rfl, rfl⟩
    · rintro ⟨ho, hh, rfl, rfl⟩
      exact ⟨rfl, ho, (hauth _ _ _ _ hm _ _ _).2 ⟨hh, rfl, rfl⟩⟩
  -- so each decrypts exactly under that condition, and only to the parsed material
  have decrypts : ∀ {x : Except Fault (DeserializedKey × Bytes)} {A B : Prop}
      {D : DeserializedKey}, (∀ dk' m', x = .ok (dk', m') ↔ A ∧ B ∧ dk' = D ∧ m' = k.keyMaterial) →
        ((∃ r, x = .ok r) ↔ A ∧ B) ∧ ∀ r, x = .ok r → r.2 = k.keyMaterial :=
    fun h => ⟨⟨fun ⟨_, hr⟩ => ((h _ _).1 hr).imp_right And.left,
      fun ⟨a, b⟩ => ⟨_, (h _ _).2 ⟨a, b, rfl, rfl⟩⟩⟩, fun _ hr => ((h _ _).1 hr).2.2.2⟩
  refine ⟨fun c' q allowOcb o => ?_, e, e₂, he, ?_⟩
  · obtain ⟨h₂, hm₂⟩ := decrypts (hB₂ c' q allowOcb o)
    obtain ⟨h₁, hm₁⟩ := decrypts (hB c' q allowOcb o)
    exact ⟨h₂.trans h₁.symm, hm₂, hm₁⟩
  · obtain ⟨rfl, rfl⟩ := upgradeAuthorizations_eq_spec hu
    exact deserializeKeyBlob_serialize hs₂

set_option maxRecDepth 8000 in
theorem upgradeKeyBlob_changes_only_versions_aes :
    ∃ blob hw sw k blob₂, createKeyBlob .reference .plain .initial
        [{ tag := .algorithm, integer := 32 }] 0 [1] .success [9] = (.ok blob, hw, sw) ∧
      Library.reference.Authenticated ∧
      parseKeyBlob .reference .plain { Context.initial with bootOsVersion := 1 } blob
        [{ tag := .algorithm, integer := 32 }] true .success = .ok k ∧
      upgradeKeyBlob .reference .plain { Context.initial with bootOsVersion := 1 } blob
        [{ tag := .algorithm, integer := 32 }] .success .success [9] = .ok (some blob₂) ∧
      ∀ c' q allowOcb o,
        (∃ r, decryptKeyBlob .reference .plain c' blob₂ q allowOcb o = .ok r) ↔
          ∃ r, decryptKeyBlob .reference .plain c' blob q allowOcb o = .ok r := by
  obtain ⟨blob, hw, sw, k, blob₂, hc, hp, hu⟩ : ∃ blob hw sw k blob₂, createKeyBlob .reference
      .plain .initial [{ tag := .algorithm, integer := 32 }] 0 [1] .success [9] =
        (.ok blob, hw, sw) ∧
      parseKeyBlob .reference .plain { Context.initial with bootOsVersion := 1 } blob
        [{ tag := .algorithm, integer := 32 }] true .success = .ok k ∧
      upgradeKeyBlob .reference .plain { Context.initial with bootOsVersion := 1 } blob
        [{ tag := .algorithm, integer := 32 }] .success .success [9] = .ok (some blob₂) :=
    ⟨_, _, _, _, _, rfl, rfl, rfl⟩
  exact ⟨blob, hw, sw, k, blob₂, hc, Library.reference_authenticated, hp, hu, fun c' q a o =>
    ((upgradeKeyBlob_changes_only_versions Library.reference_authenticated hp hu).1 c' q a o).1⟩

end

end TrustyKeymaster
