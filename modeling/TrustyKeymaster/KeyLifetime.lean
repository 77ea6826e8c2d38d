/-
  Trusty Keymaster formalization — key blobs over the life of the context.

  A created blob is bound to the root of trust and records the boot's OS version and
  patchlevel, which `SetBootParams` and `SetSystemVersion` fix once.

  * `run_createKeyBlob_lifetime`: a blob made before `SetBootParams` decrypts only until it
    takes effect, one made after it for good;
  * `run_upgradeKeyBlob_createKeyBlob`: a blob made after `SetSystemVersion` is never
    rewritten by `UpgradeKeyBlob`.
-/
import TrustyKeymaster.Reachable

namespace TrustyKeymaster

/-! ## The lifetime of a created blob -/

section
variable {cfg : BuildConfig} {w : Nat} {env : Collaborators}

/-- Along a run from a consistent state, the root of trust stays what it was exactly when it
    was already set, or is still unset at the end. -/
theorem rootOfTrust_eq_run_iff {c : Context} (h : c.Consistent) (post : List Call) :
    c.rootOfTrust = (run cfg w env c post).1.rootOfTrust ↔
      c.rootOfTrustSet = true ∨ (run cfg w env c post).1.rootOfTrustSet = false := by
  have hend : (run cfg w env c post).1.Consistent := h.after post
  cases hc : c.rootOfTrustSet
  case true =>
    exact iff_of_true (congrArg (·.1) (run_bootParams_of_set cfg w env hc post)).symm (.inl rfl)
  case false =>
    have h₀ : c.rootOfTrust = Context.initial.rootOfTrust :=
      congrArg (·.1) (h.bootParams_of_unset hc)
    cases he : (run cfg w env c post).1.rootOfTrustSet
    case false =>
      exact iff_of_true (h₀.trans (congrArg (·.1) (hend.bootParams_of_unset he)).symm) (.inr rfl)
    case true =>
      exact iff_of_false (fun heq => hend.rootOfTrust_of_set he (heq ▸ h₀)) (by simp)

/-- **A key lives as long as the root of trust it was created under.** In any build, for a
    blob `CreateKeyBlob` made at some point of a run from the constructor's state: at every
    later point, whatever calls came in between, the blob decrypts exactly when the master
    key is derived, the application id and data match those of creation, and the root of
    trust was already set at creation or is still unset; so a key made before `SetBootParams`
    takes effect is lost once it does, and one made after it stays usable for good. -/
theorem run_createKeyBlob_lifetime {pre : List Call} {d : AuthorizationSet} {origin : Nat}
    {m : Bytes} {oc : HwkeyOutcome} {r blob : Bytes} {hw sw : AuthorizationSet}
    (hc : createKeyBlob env.lib cfg (run cfg w env .initial pre).1 d origin m oc r =
      (.ok blob, hw, sw))
    (post : List Call) (p : AuthorizationSet) (allowOcb : Bool) (o : HwkeyOutcome) :
    (∃ r, decryptKeyBlob env.lib cfg (run cfg w env .initial (pre ++ post)).1 blob p allowOcb o =
        .ok r) ↔
      o = .success ∧ ((run cfg w env .initial pre).1.rootOfTrustSet = true ∨
          (run cfg w env .initial (pre ++ post)).1.rootOfTrustSet = false) ∧
        p.blobValue .applicationId = d.blobValue .applicationId ∧
        p.blobValue .applicationData = d.blobValue .applicationData := by
  simp only [run_append]
  rw [decrypts_createKeyBlob_iff hc, KeyBinding,
    rootOfTrust_eq_run_iff (Context.initial_consistent.after pre)]

end

set_option maxRecDepth 8000 in
/-- A key created before `SetBootParams` no longer decrypts once it has taken effect. -/
theorem run_createKeyBlob_lifetime_lost :
    ∃ blob hw sw, createKeyBlob .reference .plain (run .plain 32 .unavailable .initial []).1
        [{ tag := .algorithm, integer := 32 }] 0 [1] .success [9] = (.ok blob, hw, sw) ∧
      ¬ ∃ r, decryptKeyBlob .reference .plain (run .plain 32 .unavailable .initial
        [.setBootParams [1] 0 true []]).1 blob [] false .success = .ok r :=
  ⟨_, _, _, rfl, fun hr => absurd ((@run_createKeyBlob_lifetime .plain 32 .unavailable []
    [{ tag := .algorithm, integer := 32 }] 0 [1] .success [9] _ _ _ rfl
    [.setBootParams [1] 0 true []]
    [] false .success).1 hr).2.1 (by decide)⟩

section
variable {cfg : BuildConfig} {w : Nat} {env : Collaborators}

/-- A blob created after `SetSystemVersion` records the versions of every later state. -/
theorem upToDate_of_createKeyBlob {c : Context} (hv : c.versionInfoSet = true)
    {d : AuthorizationSet} {origin : Nat} {m : Bytes} {oc : HwkeyOutcome} {r blob : Bytes}
    {hw sw : AuthorizationSet}
    (hc : createKeyBlob env.lib cfg c d origin m oc r = (.ok blob, hw, sw))
    (post : List Call) : UpToDate (run cfg w env c post).1 hw sw := by
  have hu := setAuthorizations_upToDate (createKeyBlob_eq_ok.1 hc).1
  have hvi := run_versionInfo_of_set cfg w env hv post
  simp only [Context.versionInfo, Prod.mk.injEq] at hvi
  unfold UpToDate
  rw [hvi.1, hvi.2.1]
  exact hu

/-- **A key created after `SetSystemVersion` is never rewritten.** In any build, at every
    later state of any run, upgrading a blob `CreateKeyBlob` made once the versions were set,
    with any parameters and whatever the hardware key service does, returns what parsing it
    returns, with no new blob: its parse error, or `KM_ERROR_OK` with nothing to write. -/
theorem run_upgradeKeyBlob_createKeyBlob {c : Context} (hv : c.versionInfoSet = true)
    {d : AuthorizationSet} {origin : Nat} {m : Bytes} {oc : HwkeyOutcome} {r blob : Bytes}
    {hw sw : AuthorizationSet}
    (hc : createKeyBlob env.lib cfg c d origin m oc r = (.ok blob, hw, sw))
    (post : List Call) (q : AuthorizationSet) (oParse oCreate : HwkeyOutcome) (random : Bytes) :
    upgradeKeyBlob env.lib cfg (run cfg w env c post).1 blob q oParse oCreate random =
      (parseKeyBlob env.lib cfg (run cfg w env c post).1 blob q true oParse).map fun _ => none := by
  obtain ⟨e, hd⟩ := createAuthEncryptedKeyBlob_deserialize (createKeyBlob_eq_ok.1 hc).2
  exact upgradeKeyBlob_eq_parse_of_upToDate hd (upToDate_of_createKeyBlob hv hc post) q oParse
    oCreate random

end

set_option maxRecDepth 8000 in
/-- A key created after `SetSystemVersion`, upgraded after `SetBootParams`. -/
theorem run_upgradeKeyBlob_createKeyBlob_after_boot :
    (run .plain 32 .unavailable .initial [.setSystemVersion 11 0]).1.versionInfoSet = true ∧
      ∃ blob hw sw, createKeyBlob .reference .plain
          (run .plain 32 .unavailable .initial [.setSystemVersion 11 0]).1
          [{ tag := .algorithm, integer := 32 }] 0 [1] .success [9] = (.ok blob, hw, sw) ∧
        upgradeKeyBlob .reference .plain (run .plain 32 .unavailable
            (run .plain 32 .unavailable .initial [.setSystemVersion 11 0]).1
            [.setBootParams [1] 0 true []]).1 blob [] .success .success [9] =
          (parseKeyBlob .reference .plain (run .plain 32 .unavailable
            (run .plain 32 .unavailable .initial [.setSystemVersion 11 0]).1
            [.setBootParams [1] 0 true []]).1 blob [] true .success).map fun _ => none :=
  ⟨rfl, _, _, _, rfl, @run_upgradeKeyBlob_createKeyBlob .plain 32 .unavailable _ rfl
    [{ tag := .algorithm, integer := 32 }] 0 [1] .success [9] _ _ _ rfl
    [.setBootParams [1] 0 true []] [] .success .success [9]⟩

end TrustyKeymaster
