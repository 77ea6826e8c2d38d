/-
  Trusty Keymaster formalization — the RNG seeding policy: `SeedRngIfNeeded`,
  `ShouldReseedRng` and `ReseedRng`.

  The type of `calls_since_reseed_` is declared in the header, which is not among the
  sources; the model takes it to be `w` bits wide and its increment to wrap modulo `2 ^ w`.

  * `seedRngRun` runs `SeedRngIfNeeded` once per outcome of the hardware RNG and records,
    for each call, whether the RNG was seeded before it and whether it attempted a
    reseed;
  * `seedRngRun_schedule`: from a zero counter, a call made while uninitialized always
    attempts a reseed, and the `j`-th call made while initialized attempts one exactly when
    `kCallsBetweenRngReseeds` divides `j`, for every `j`, past the wrap included;
  * `seedRngIfNeeded_rngInitialized`: the flag is set by any reseed whose hardware read
    succeeds, whatever `trusty_rng_add_entropy` returns, and is never cleared.
-/
import TrustyKeymaster.Basic

namespace TrustyKeymaster

/-- `kCallsBetweenRngReseeds`. -/
def kCallsBetweenRngReseeds : Nat := 32

/-- `kRngReseedSize`. -/
def kRngReseedSize : Nat := 64

/-- What the Trusty RNG service does on one reseed: whether `trusty_rng_hw_rand` fills the
    `kRngReseedSize` bytes, and whether `trusty_rng_add_entropy` accepts them. -/
structure RngOutcome where
  hwRand : Bool
  addEntropy : Bool
  deriving DecidableEq, Repr

/-- `AddRngEntropy`: the status of `trusty_rng_add_entropy` is checked. -/
def addRngEntropy (accepts : Bool) : KmError :=
  if !accepts then .unknownError else .ok

/-- `ShouldReseedRng`, with `calls_since_reseed_` `w` bits wide: the new state and whether
    to reseed. The counter is only incremented once the RNG is initialized. -/
def shouldReseedRng (w : Nat) (c : Context) : Context × Bool :=
  if !c.rngInitialized then (c, true)
  else
    let callsSinceReseed := (c.callsSinceReseed + 1) % 2 ^ w
    ({ c with callsSinceReseed := callsSinceReseed },
      callsSinceReseed % kCallsBetweenRngReseeds == 0)

/-- `ReseedRng`: the new state and the return value. The status of
    `trusty_rng_add_entropy` is not read. -/
def reseedRng (c : Context) (o : RngOutcome) : Context × Bool :=
  if !o.hwRand then (c, false)
  else ({ c with rngInitialized := true }, true)

/-- `SeedRngIfNeeded`: the new state and the value of `rng_initialized_` it returns. -/
def seedRngIfNeeded (w : Nat) (c : Context) (o : RngOutcome) : Context × Bool :=
  let (c, reseed) := shouldReseedRng w c
  let c := if reseed then (reseedRng c o).1 else c
  (c, c.rngInitialized)

/-- One call of a run of `SeedRngIfNeeded`, as seen from outside: whether the RNG was
    seeded (`rng_initialized_`) before it, whether it attempted a reseed, and what it returned. -/
structure SeedCall where
  seeded : Bool
  attempted : Bool
  returned : Bool
  deriving DecidableEq, Repr

/-- A run of `SeedRngIfNeeded`, one call per outcome of the RNG service. -/
def seedRngRun (w : Nat) : Context → List RngOutcome → Context × List SeedCall
  | c, [] => (c, [])
  | c, o :: os =>
    let r := seedRngIfNeeded w c o
    let rest := seedRngRun w r.1 os
    (rest.1, ⟨c.rngInitialized, (shouldReseedRng w c).2, r.2⟩ :: rest.2)

/-- The number of calls of a run made while the RNG was initialized. -/
def SeedCall.seededCount (calls : List SeedCall) : Nat :=
  (calls.filter (·.seeded)).length

/-! ## One call -/

section
variable {w : Nat} {c : Context} {o : RngOutcome}

theorem shouldReseedRng_of_not_initialized (h : c.rngInitialized = false) :
    shouldReseedRng w c = (c, true) := by
  simp [shouldReseedRng, h]

theorem shouldReseedRng_of_initialized (h : c.rngInitialized = true) :
    shouldReseedRng w c = ({ c with callsSinceReseed := (c.callsSinceReseed + 1) % 2 ^ w },
      (c.callsSinceReseed + 1) % 2 ^ w % kCallsBetweenRngReseeds == 0) := by
  simp [shouldReseedRng, h]

/-- `SeedRngIfNeeded` changes only `rng_initialized_`, which it sets exactly when the RNG was
    initialized or a reseed is attempted and the hardware read succeeds, and
    `calls_since_reseed_`, which it increments only when the RNG was initialized. -/
theorem seedRngIfNeeded_eq (w : Nat) (c : Context) (o : RngOutcome) :
    seedRngIfNeeded w c o =
      let seeded := c.rngInitialized || ((shouldReseedRng w c).2 && o.hwRand)
      ({ c with
          rngInitialized := seeded
          callsSinceReseed := if c.rngInitialized then (c.callsSinceReseed + 1) % 2 ^ w
            else c.callsSinceReseed }, seeded) := by
  cases hi : c.rngInitialized <;> cases ho : o.hwRand <;>
    simp [seedRngIfNeeded, shouldReseedRng, reseedRng, hi, ho]
  cases c; simp_all

/-- **The flag is set by a reseed whose hardware read succeeds, and never cleared.** -/
theorem seedRngIfNeeded_rngInitialized (w : Nat) (c : Context) (o : RngOutcome) :
    (seedRngIfNeeded w c o).2 = (seedRngIfNeeded w c o).1.rngInitialized ∧
      (seedRngIfNeeded w c o).1.rngInitialized = (c.rngInitialized || o.hwRand) := by
  rw [seedRngIfNeeded_eq]
  cases hi : c.rngInitialized <;> simp [shouldReseedRng, hi]

end

/-! ## Runs -/

/-- `x % 2 ^ w` keeps `x`'s residue modulo `kCallsBetweenRngReseeds` once the counter has
    room for it. -/
theorem mod_pow_mod_calls {w : Nat} (hw : 5 ≤ w) (x : Nat) :
    x % 2 ^ w % kCallsBetweenRngReseeds = x % kCallsBetweenRngReseeds :=
  Nat.mod_mod_of_dvd x (Nat.pow_dvd_pow 2 hw)

/-- The schedule from a counter holding `j` initialized calls modulo `2 ^ w`. -/
theorem seedRngRun_schedule_from {w : Nat} (hw : 5 ≤ w) :
    ∀ (os : List RngOutcome) (c : Context) (j : Nat), c.callsSinceReseed = j % 2 ^ w →
      ∀ k call, (seedRngRun w c os).2[k]? = some call →
        call.attempted = (!call.seeded ||
          (j + SeedCall.seededCount ((seedRngRun w c os).2.take (k + 1))) %
            kCallsBetweenRngReseeds == 0)
  | [], _, _, _, k, call, h => by simp [seedRngRun] at h
  | o :: os, c, j, hc, k, call, h => by
    have hnext : (seedRngIfNeeded w c o).1.callsSinceReseed =
        (j + if c.rngInitialized then 1 else 0) % 2 ^ w := by
      rw [seedRngIfNeeded_eq]
      cases c.rngInitialized <;> simp [hc, Nat.add_mod]
    cases k with
    | zero =>
      simp only [seedRngRun, List.getElem?_cons_zero, Option.some.injEq] at h
      subst h
      cases hi : c.rngInitialized
      · simp [shouldReseedRng_of_not_initialized hi]
      · simp [seedRngRun, shouldReseedRng_of_initialized hi, SeedCall.seededCount, hc, hi,
          mod_pow_mod_calls hw]
    | succ k =>
      simp only [seedRngRun, List.getElem?_cons_succ] at h
      rw [seedRngRun_schedule_from hw os _ _ hnext k call h]
      cases hi : c.rngInitialized <;>
        simp [seedRngRun, SeedCall.seededCount, hi, List.filter_cons, Nat.add_assoc,
          Nat.add_comm 1]

/-- **The reseed schedule.** From a zero counter, in any run under any pattern of hardware
    RNG failures, a call made while the RNG is uninitialized attempts a reseed, and a call
    made while it is initialized attempts one exactly when the number of such calls so far,
    itself included, is a multiple of `kCallsBetweenRngReseeds`. -/
theorem seedRngRun_schedule {w : Nat} (hw : 5 ≤ w) (c : Context) (hc : c.callsSinceReseed = 0)
    (os : List RngOutcome) (k : Nat) (call : SeedCall)
    (h : (seedRngRun w c os).2[k]? = some call) :
    call.attempted = (!call.seeded ||
      SeedCall.seededCount ((seedRngRun w c os).2.take (k + 1)) %
        kCallsBetweenRngReseeds == 0) := by
  simpa using seedRngRun_schedule_from hw os c 0 (by simp [hc]) k call h

/-- A failed hardware read, a seeding, then the first call on the seeded RNG, which does not
    reseed. -/
theorem seedRngRun_schedule_after_failure :
    5 ≤ 32 ∧ Context.initial.callsSinceReseed = 0 ∧
      (seedRngRun 32 .initial [⟨false, true⟩, ⟨true, true⟩, ⟨true, true⟩]).2[2]? =
        some ⟨true, false, true⟩ ∧
      (⟨true, false, true⟩ : SeedCall).attempted = (!(⟨true, false, true⟩ : SeedCall).seeded ||
        SeedCall.seededCount ((seedRngRun 32 .initial
          [⟨false, true⟩, ⟨true, true⟩, ⟨true, true⟩]).2.take (2 + 1)) %
          kCallsBetweenRngReseeds == 0) :=
  ⟨by decide, rfl, rfl, seedRngRun_schedule (by decide) .initial rfl _ 2 _ rfl⟩

/-- A call made while uninitialized leaves `calls_since_reseed_` alone. -/
theorem seedRngIfNeeded_callsSinceReseed {w : Nat} {c : Context} (h : c.rngInitialized = false)
    (o : RngOutcome) : (seedRngIfNeeded w c o).1.callsSinceReseed = c.callsSinceReseed := by
  simp [seedRngIfNeeded_eq, h]

/-- Once set, the flag stays set along any run, and every call returns true. -/
theorem seedRngRun_initialized {w : Nat} :
    ∀ (os : List RngOutcome) (c : Context), c.rngInitialized = true →
      (seedRngRun w c os).1.rngInitialized = true ∧
        ∀ call ∈ (seedRngRun w c os).2, call.returned = true
  | [], c, h => by simp [seedRngRun, h]
  | o :: os, c, h => by
    obtain ⟨hr, hi⟩ := seedRngIfNeeded_rngInitialized w c o
    have hc : (seedRngIfNeeded w c o).1.rngInitialized = true := by simp [hi, h]
    obtain ⟨ih₁, ih₂⟩ := seedRngRun_initialized os _ hc
    refine ⟨ih₁, fun call hmem => ?_⟩
    rcases List.mem_cons.1 hmem with rfl | hmem
    · exact hr.trans hc
    · exact ih₂ call hmem

/-- **`ReseedRng` marks the RNG seeded whatever `trusty_rng_add_entropy` returns.** The
    first call on an uninitialized RNG whose hardware read succeeds returns true, even when
    the entropy is refused. -/
theorem seedRngIfNeeded_ignores_addEntropy (w : Nat) {c : Context}
    (h : c.rngInitialized = false) {o : RngOutcome} (ho : o.hwRand = true) :
    seedRngIfNeeded w c o = ({ c with rngInitialized := true }, true) := by
  simp [seedRngIfNeeded_eq, shouldReseedRng_of_not_initialized h, h, ho]

theorem seedRngIfNeeded_ignores_addEntropy_initial :
    seedRngIfNeeded 32 .initial ⟨true, false⟩ =
      ({ Context.initial with rngInitialized := true }, true) :=
  seedRngIfNeeded_ignores_addEntropy 32 (c := .initial) rfl (o := ⟨true, false⟩) rfl

end TrustyKeymaster
