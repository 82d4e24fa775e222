import QuantumLink.Relay.Admission

/-! # The admission limit of an address

The limiter has a bucket for each address, and a check uses the bucket of its own address alone. So
an address is answered as a fixed-window counter answers that is fed with its checks.
-/

namespace QuantumLink.Relay

open FixedWindow

/-- A call of `check`: when it is made, from which address and for which service. -/
structure AdmissionCheck where
  now : Nat
  ip : IpAddr
  service : String

def checkIn (config : RateLimitConfig) (buckets : AdmissionLimiter) (call : AdmissionCheck) :
    Except Device.QlinkError Unit × AdmissionLimiter :=
  AdmissionLimiter.check (some config) buckets call.now call.ip call.service

section

variable (config : RateLimitConfig) (ip : IpAddr) (buckets : AdmissionLimiter)
  (call : AdmissionCheck)

/-- Whether a check of the address succeeds. -/
def outcome : Option Bool :=
  if call.ip = ip then some (checkIn config buckets call).1.isOk else none

def admittedAt : Option Nat :=
  if call.ip = ip ∧ (checkIn config buckets call).1.isOk = true then some call.now else none

/-- A check starts a window if the address has none that is not over. -/
def windowStartedAt : Option Nat :=
  if call.ip = ip ∧ ¬ Open config.window call.now (buckets.lookup ip) then some call.now else none

def admissionUse : Option Use :=
  if call.ip = ip then some (.check call.now) else none

theorem admissionUse_eq_some (h : admissionUse ip call = some use) : use = .check call.now := by
  rw [admissionUse, Option.ite_none_right_eq_some] at h
  exact (Option.some.inj h.2).symm

theorem isOk_checkIn : (checkIn config buckets call).1.isOk =
    (check config.maxEvents config.window call.now (buckets.lookup call.ip)).1 := by
  simp only [checkIn, AdmissionLimiter.check]
  split <;> simp_all [Except.isOk, Except.toBool]

theorem lookup_checkIn : (checkIn config buckets call).2.lookup ip =
    (admissionUse ip call).elim (buckets.lookup ip) fun use =>
      (apply config.maxEvents config.window (buckets.lookup ip) use).2 := by
  by_cases hp : call.ip = ip
  · subst hp
    simp [checkIn, AdmissionLimiter.check, admissionUse, apply]
  · simp [checkIn, AdmissionLimiter.check, admissionUse, hp, Finmap.lookup_insert_of_ne _ (Ne.symm hp)]

theorem outcome_eq : outcome config ip buckets call = (admissionUse ip call).bind fun use =>
    some (apply config.maxEvents config.window (buckets.lookup ip) use).1 := by
  by_cases hp : call.ip = ip
  · subst hp
    simp [outcome, admissionUse, isOk_checkIn, apply]
  · simp [outcome, admissionUse, hp]

theorem admittedAt_eq : admittedAt config ip buckets call =
    (admissionUse ip call).bind (passedAt config.maxEvents config.window (buckets.lookup ip)) := by
  by_cases hp : call.ip = ip
  · subst hp
    simp [admittedAt, admissionUse, isOk_checkIn, passedAt]
  · simp [admittedAt, admissionUse, hp]

theorem windowStartedAt_eq : windowStartedAt config ip buckets call =
    (admissionUse ip call).bind (startedAt config.window (buckets.lookup ip)) := by
  by_cases hp : call.ip = ip
  · simp [windowStartedAt, admissionUse, hp, startedAt]
  · simp [windowStartedAt, admissionUse, hp]

end

section

variable (config : RateLimitConfig) (ip : IpAddr) (calls : List AdmissionCheck)

def outcomes : List Bool := observed (checkIn config) (outcome config ip) ∅ calls

def admitted : List Nat := observed (checkIn config) (admittedAt config ip) ∅ calls

def windowsStarted : List Nat := observed (checkIn config) (windowStartedAt config ip) ∅ calls

def admissionUses : List Use := calls.filterMap (admissionUse ip)

/-- The counter of the address along a run of the limiter. -/
structure Admitted : Prop where
  bucket : (run (checkIn config) ∅ calls).lookup ip =
    run (apply config.maxEvents config.window) none (admissionUses ip calls)
  outcomes : outcomes config ip calls = observed (apply config.maxEvents config.window)
    (fun bucket use => some (apply config.maxEvents config.window bucket use).1) none
    (admissionUses ip calls)
  passes : admitted config ip calls = passes config.maxEvents config.window (admissionUses ip calls)
  starts : windowsStarted config ip calls =
    starts config.maxEvents config.window (admissionUses ip calls)

theorem run_admitted : Admitted config ip calls := by
  have hs := lookup_checkIn config ip
  have hr := part_run (fun buckets : AdmissionLimiter => buckets.lookup ip) hs ∅ calls
  have hn {β : Type} (note : Option Bucket → Use → Option β) :=
    observed_part (fun buckets : AdmissionLimiter => buckets.lookup ip) hs note ∅ calls
  rw [observed_eq_filterMap] at hr
  simp only [observed_eq_filterMap, Finmap.lookup_empty] at hn
  refine ⟨hr, ?_, ?_, ?_⟩
  · rw [Relay.outcomes, funext₂ (outcome_eq config ip)]
    exact hn fun b use => some (apply config.maxEvents config.window b use).1
  · rw [admitted, funext₂ (admittedAt_eq config ip)]
    exact hn _
  · rw [windowsStarted, funext₂ (windowStartedAt_eq config ip)]
    exact hn _

end

/-- At most the limit of an address's checks succeed in a window of the address, checks from other
addresses make no difference to them, and one is refused only if the window it falls in is used up. -/
theorem admission_rate_limited (config : RateLimitConfig) (hlimit : 0 < config.maxEvents)
    (hwindow : 0 < config.window) (calls : List AdmissionCheck)
    (htimes : (calls.map AdmissionCheck.now).Pairwise (· ≤ ·)) (ip : IpAddr) :
    (∀ start ∈ windowsStarted config ip calls, (admitted config ip calls).countP
      (fun t => decide (start ≤ t ∧ t < start + config.window)) ≤ config.maxEvents) ∧
    outcomes config ip calls = outcomes config ip (calls.filter fun call => call.ip = ip) ∧
    ∀ call : AdmissionCheck, call.ip = ip →
      (checkIn config (run (checkIn config) ∅ calls) call).1.isOk = false →
      ∃ bucket, (run (checkIn config) ∅ calls).lookup ip = some bucket ∧
        call.now < bucket.windowStarted + config.window ∧
        (admitted config ip calls).countP (fun t => bucket.windowStarted ≤ t) =
          config.maxEvents := by
  have ha := run_admitted config ip calls
  have hus : ((admissionUses ip calls).map Use.time).Pairwise (· ≤ ·) := by
    rw [List.pairwise_map] at htimes ⊢
    refine htimes.filterMap _ fun a b hle use hu l hla => ?_
    rw [admissionUse_eq_some ip a hu, admissionUse_eq_some ip b hla]
    exact hle
  have hn : Along (apply config.maxEvents config.window) (DroppedOver config.window) none
      (admissionUses ip calls) := by
    by_contra hd
    obtain ⟨f, use, ba, heq, -, hf⟩ := exists_of_not_along hd
    obtain ⟨call, -, hu⟩ := List.mem_filterMap.mp (heq ▸ List.mem_append_cons_self : use ∈ _)
    exact hf (admissionUse_eq_some ip call hu ▸ trivial)
  obtain ⟨ht, hl⟩ := run_tallied hwindow (admissionUses ip calls) hus hn
  refine ⟨?_, ?_, ?_⟩
  · rw [ha.passes, ha.starts]
    exact hl
  · have hs : admissionUses ip (calls.filter fun call => call.ip = ip) = admissionUses ip calls := by
      rw [admissionUses, List.filterMap_filter, admissionUses]
      congr
      funext call
      simp [admissionUse]
    rw [ha.outcomes, (run_admitted config ip _).outcomes, hs]
  · rintro call rfl hr
    rw [isOk_checkIn, ha.bucket] at hr
    rw [ha.bucket, ha.passes]
    generalize run (apply config.maxEvents config.window) none _ = bucket at ht hr
    by_cases ho : Open config.window call.now bucket
    · obtain ⟨b, rfl, hb⟩ := ho
      have hc : config.maxEvents ≤ b.count := by
        by_contra he
        simp [check, current_of_open hb, he] at hr
      have hru : Running _ _ _ _ _ b := ht
      refine ⟨b, rfl, by omega, ?_⟩
      rw [hru.count]
      exact le_antisymm hru.within hc
    · simp [check, current_of_not_open hwindow ho, hlimit.ne'] at hr

theorem admission_rate_limited_of_second_check :
    ∃ bucket, (run (checkIn ⟨1, 10⟩) ∅ [⟨3, "10.0.0.1", "relay"⟩]).lookup "10.0.0.1" = some bucket ∧
      5 < bucket.windowStarted + 10 ∧
      (admitted ⟨1, 10⟩ "10.0.0.1" [⟨3, "10.0.0.1", "relay"⟩]).countP (bucket.windowStarted ≤ ·) = 1 :=
  (admission_rate_limited ⟨1, 10⟩ Nat.one_pos (by decide) [⟨3, "10.0.0.1", "relay"⟩]
    (List.pairwise_singleton _ _) "10.0.0.1").2.2 ⟨5, "10.0.0.1", "relay"⟩ rfl rfl

end QuantumLink.Relay
