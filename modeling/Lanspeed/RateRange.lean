import Lanspeed.BpfRates
import Lanspeed.FlowGrowth
import Lanspeed.InterfaceRates

/-!
# The range of the published rates

A rate is computed in words of 64 bits and published as a signed integer. `delta_bps` and
`interfaces_method` both scale the growth of the counter modulo `2 ^ 64` and divide by the time
(`toNat_deltaBps_mod`, `toNat_interfaceBps_mod`). What is published is exact up to `2 ^ 63` and not
negative unless the product overflows, or the rate over one millisecond lies in the upper half of a
word (`published_exactly_iff`).
-/

namespace Lanspeed

/-! ## Statements -/

/-- A rate that is published for a counter: the exact one where that is below `2 ^ 63`, and never a
negative one. -/
structure PublishedExactly (published : ℤ) (current previous deltaMs : UInt64) : Prop where
  exact  : previous ≤ current → 0 < deltaMs →
    scaledGrowth current previous / deltaMs.toNat < 2 ^ 63 →
    published = (scaledGrowth current previous / deltaMs.toNat : ℕ)
  nonneg : 0 ≤ published

/-- The arithmetic in words gives a rate that may be published. Over one millisecond, the reduced
growth is in the lower half of a word; over a longer time, the growth is a word, or the rate is `2 ^
63` or more. -/
structure RateInRange (current previous deltaMs : UInt64) : Prop where
  one_ms : previous ≤ current → deltaMs = 1 → scaledGrowth current previous % 2 ^ 64 < 2 ^ 63
  longer : previous ≤ current → 1 < deltaMs →
    scaledGrowth current previous < 2 ^ 64 ∨ 2 ^ 63 * deltaMs.toNat ≤ scaledGrowth current previous

/-! ## One rate -/

section Rate

variable {rate current previous deltaMs : UInt64}

/-- Where time has passed and the counter did not fall, a rate is published exactly when its word is
below `2 ^ 63`, and no growth was lost that would have given such a rate. -/
theorem publishedExactly_iff_of_pos (hle : previous ≤ current) (hdt : 0 < deltaMs)
    (hrate : rate.toNat = wordBps current previous deltaMs) :
    PublishedExactly (jsonInt64 rate) current previous deltaMs ↔
      scaledGrowth current previous % 2 ^ 64 / deltaMs.toNat < 2 ^ 63 ∧
        (scaledGrowth current previous / deltaMs.toNat < 2 ^ 63 →
          scaledGrowth current previous < 2 ^ 64) := by
  have hpos : 0 < deltaMs.toNat := UInt64.lt_iff_toNat_lt.mp hdt
  have hsame :=
    Word.mod_div_eq_div_iff (n := scaledGrowth current previous) hpos deltaMs.toNat_lt.le
  rw [wordBps, if_pos hle] at hrate
  constructor
  · intro h
    have hlow : rate.toNat < 2 ^ 63 := Word.toInt_toInt64_nonneg_iff.mp h.nonneg
    refine ⟨hrate ▸ hlow, fun hbelow => hsame.mp ?_⟩
    have hvalue := h.exact hle hdt hbelow
    rw [jsonInt64, Word.toInt_toInt64_of_lt hlow, hrate] at hvalue
    exact Int.ofNat_inj.mp hvalue
  · rintro ⟨hlow, hkept⟩
    have hvalue : jsonInt64 rate = rate.toNat := Word.toInt_toInt64_of_lt (hrate ▸ hlow)
    refine ⟨fun _ _ hbelow => ?_, ?_⟩
    · rw [hvalue, hrate, hsame.mpr (hkept hbelow)]
    · rw [hvalue]
      exact Int.natCast_nonneg _

/-- The condition, where time has passed and the counter did not fall. -/
theorem rateInRange_iff_of_pos (hle : previous ≤ current) (hdt : 0 < deltaMs) :
    RateInRange current previous deltaMs ↔
      scaledGrowth current previous % 2 ^ 64 / deltaMs.toNat < 2 ^ 63 ∧
        (scaledGrowth current previous / deltaMs.toNat < 2 ^ 63 →
          scaledGrowth current previous < 2 ^ 64) := by
  have hpos : 0 < deltaMs.toNat := UInt64.lt_iff_toNat_lt.mp hdt
  by_cases hone : deltaMs = 1
  · subst hone
    have hvalue : UInt64.toNat 1 = 1 := rfl
    rw [hvalue, Nat.div_one, Nat.div_one]
    constructor
    · exact fun h => ⟨h.one_ms hle rfl, fun hbelow => hbelow.trans (by decide)⟩
    · exact fun h => ⟨fun _ _ => h.1, fun _ hlonger => absurd hlonger (UInt64.lt_irrefl 1)⟩
  · have hlonger : 1 < deltaMs := by
      rw [UInt64.lt_iff_toNat_lt]
      have hne : deltaMs.toNat ≠ UInt64.toNat 1 := fun heq => hone (UInt64.toNat_inj.mp heq)
      have hvalue : UInt64.toNat 1 = 1 := rfl
      omega
    have htwo : 2 ≤ deltaMs.toNat := UInt64.lt_iff_toNat_lt.mp hlonger
    -- Half of a word is the most that a time of two milliseconds or more leaves.
    have hhalf : scaledGrowth current previous % 2 ^ 64 / deltaMs.toNat < 2 ^ 63 := by
      rw [Nat.div_lt_iff_lt_mul hpos]
      have hword := Nat.mod_lt (scaledGrowth current previous) (show 0 < 2 ^ 64 by decide)
      omega
    have hbelow : scaledGrowth current previous / deltaMs.toNat < 2 ^ 63 ↔
        ¬ 2 ^ 63 * deltaMs.toNat ≤ scaledGrowth current previous := by
      rw [Nat.div_lt_iff_lt_mul hpos, Nat.not_le]
    rw [hbelow, and_iff_right hhalf, ← or_iff_not_imp_left, or_comm]
    constructor
    · exact fun h => h.longer hle hlonger
    · exact fun h => ⟨fun _ heq => absurd heq hone, fun _ _ => h⟩

/-- A word with the value of the arithmetic in words is published exactly under the condition. -/
theorem publishedExactly_iff_of_toNat (hrate : rate.toNat = wordBps current previous deltaMs) :
    PublishedExactly (jsonInt64 rate) current previous deltaMs ↔
      RateInRange current previous deltaMs := by
  by_cases hpos : previous ≤ current ∧ 0 < deltaMs
  · rw [publishedExactly_iff_of_pos hpos.1 hpos.2 hrate, rateInRange_iff_of_pos hpos.1 hpos.2]
  · -- Without growth or time there is no rate.
    have hzero : rate = 0 := by
      rw [← UInt64.toNat_inj, hrate, wordBps]
      split_ifs with hle
      · have hdt : deltaMs = 0 := by
          by_contra hne
          exact hpos ⟨hle, UInt64.pos_iff_ne_zero.mpr hne⟩
        rw [hdt]
        exact Nat.div_zero _
      · rfl
    subst hzero
    refine iff_of_true ⟨fun hle hdt => absurd ⟨hle, hdt⟩ hpos,
      le_rfl⟩ ⟨fun hle hone => ?_, fun hle hlonger => ?_⟩
    · exact absurd ⟨hle, hone ▸ (show (0 : UInt64) < 1 by decide)⟩ hpos
    · exact absurd ⟨hle, UInt64.lt_trans (show (0 : UInt64) < 1 by decide) hlonger⟩ hpos

end Rate

/-! ## The replies -/

section Replies

variable {hostnameLookup : CStr → List CStr → Option CStr} (dir : Direction)

/-- The rates of a client with a previous sample that the BPF collector publishes. -/
theorem bpfClientJson_publishedExactly_iff {snapshotMs deltaMs : UInt64}
    {previous : List BpfClientSample} {cur prev : BpfClientSample}
    (hprev : Keyed.lookup BpfClientSample.identityKey cur.identityKey previous = some prev) :
    PublishedExactly ((bpfClientJson hostnameLookup snapshotMs deltaMs previous cur).bps dir)
      (cur.bytes dir) (prev.bytes dir) deltaMs ↔
      RateInRange (cur.bytes dir) (prev.bytes dir) deltaMs := by
  have hbps : (bpfClientJson hostnameLookup snapshotMs deltaMs previous cur).bps dir =
      jsonInt64 (deltaBps (cur.bytes dir) (prev.bytes dir) deltaMs).1 := by
    unfold bpfClientJson
    rw [hprev]
    cases dir <;> rfl
  rw [hbps]
  exact publishedExactly_iff_of_toNat (toNat_deltaBps_mod _ _ _)

/-- The rates of a client with a previous sample that the conntrack and the NSS
collector publish. -/
theorem snapshotClientJson_publishedExactly_iff {prev : PreviousSnapshot}
    (hvalid : prev.valid = true) {nowMs : UInt64} {cur held : ConntrackClientSample}
    (hheld : findConntrackClientSample cur.identityKey prev.samples = some held)
    (shown : ConntrackClientSample)
    (udpDnsConns udpOtherConns : ℤ) (collectorMode confidence : CStr) (warnings : List CStr) :
    PublishedExactly
      ((snapshotClientJson hostnameLookup nowMs (prev.rates nowMs cur) shown udpDnsConns
        udpOtherConns collectorMode confidence warnings).bps dir) (cur.bytes dir) (held.bytes dir)
        (prev.deltaMs nowMs) ↔
      RateInRange (cur.bytes dir) (held.bytes dir) (prev.deltaMs nowMs) := by
  have hrate := rates_bps dir prev hvalid nowMs cur
  rw [hheld] at hrate
  have hbps : (snapshotClientJson hostnameLookup nowMs (prev.rates nowMs cur)
        shown udpDnsConns udpOtherConns
      collectorMode confidence warnings).bps dir = jsonInt64 ((prev.rates nowMs cur).bps dir) := by
    cases dir <;> rfl
  rw [hbps, hrate]
  exact publishedExactly_iff_of_toNat (toNat_deltaBps_mod _ _ _)

/-- The counter of a direction. -/
def InterfaceStatSample.bytes (s : InterfaceStatSample) : Direction → UInt64
  | .tx => s.txBytes
  | .rx => s.rxBytes

/-- The rates of an interface whose files open, against a slot in the past. -/
theorem interfaceJson_publishedExactly_iff {nowMs : UInt64} {role name : CStr}
    {stats : IfaceStatistics}
    (hstats : stats.statsOk = true) {prev : InterfaceStatSample} (htime : prev.snapshotMs < nowMs) :
    PublishedExactly ((interfaceJson nowMs role name stats (some prev)).bps dir)
        ((stats.sample nowMs name).bytes dir) (prev.bytes dir) (nowMs - prev.snapshotMs) ↔
      RateInRange ((stats.sample nowMs name).bytes dir) (prev.bytes dir)
        (nowMs - prev.snapshotMs) := by
  have hbps : (interfaceJson nowMs role name stats (some prev)).bps dir =
      jsonInt64 (interfaceBps ((stats.sample nowMs name).bytes dir) (prev.bytes dir)
        (nowMs - prev.snapshotMs)) := by
    unfold interfaceJson
    dsimp only
    rw [hstats, decide_eq_true htime]
    cases dir <;> rfl
  rw [hbps]
  exact publishedExactly_iff_of_toNat (toNat_interfaceBps_mod _ _ _)

end Replies

/-- Both computations publish a rate exactly under the same condition on the two readings and the
time. -/
theorem published_exactly_iff (current previous deltaMs : UInt64) :
    (PublishedExactly (jsonInt64 (deltaBps current previous deltaMs).1) current previous deltaMs ↔
        RateInRange current previous deltaMs) ∧
      (PublishedExactly (jsonInt64 (interfaceBps current previous deltaMs))
        current previous deltaMs ↔
        RateInRange current previous deltaMs) :=
  ⟨publishedExactly_iff_of_toNat (toNat_deltaBps_mod _ _ _),
    publishedExactly_iff_of_toNat (toNat_interfaceBps_mod _ _ _)⟩

/-- A growth of `2 ^ 60` bytes in two seconds is published as nothing, and one of little more than a
petabyte in a millisecond as less than nothing. -/
theorem not_publishedExactly_jump :
    jsonInt64 (deltaBps (2 ^ 60) 0 2000).1 = 0 ∧ jsonInt64 (interfaceBps (2 ^ 60) 0 2000) = 0 ∧
      scaledGrowth (2 ^ 60) 0 / 2000 = 2 ^ 62 ∧
      ¬ PublishedExactly (jsonInt64 (deltaBps (2 ^ 60) 0 2000).1) (2 ^ 60) 0 2000 ∧
      ¬ PublishedExactly (jsonInt64 (interfaceBps (2 ^ 60) 0 2000)) (2 ^ 60) 0 2000 ∧
      jsonInt64 (deltaBps 1152921504606847 0 1).1 < 0 ∧ jsonInt64
        (interfaceBps 1152921504606847 0 1) < 0 := by
  have hclient : jsonInt64 (deltaBps (2 ^ 60) 0 2000).1 = 0 := by decide +kernel
  have hiface : jsonInt64 (interfaceBps (2 ^ 60) 0 2000) = 0 := by decide +kernel
  have hexact : scaledGrowth (2 ^ 60) 0 / 2000 = 2 ^ 62 := by decide +kernel
  have hbelow : scaledGrowth (2 ^ 60) 0 / UInt64.toNat 2000 < 2 ^ 63 := by decide +kernel
  refine ⟨hclient, hiface, hexact, fun h => ?_, fun h => ?_, by decide +kernel, by decide +kernel⟩
  · have hvalue := h.exact (by decide +kernel) (by decide +kernel) hbelow
    exact absurd (hclient.symm.trans hvalue) (by decide +kernel)
  · have hvalue := h.exact (by decide +kernel) (by decide +kernel) hbelow
    exact absurd (hiface.symm.trans hvalue) (by decide +kernel)

end Lanspeed
