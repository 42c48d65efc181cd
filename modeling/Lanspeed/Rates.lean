import Lanspeed.State
import Lanspeed.Lib.Word
import Lanspeed.Lib.Keyed

/-!
# Published clients and their rates

The client object of a clients reply, and `delta_bps`, which every collector computes its rates
with. A rate is published as a signed 64-bit JSON integer.
-/

namespace Lanspeed

/-- A client object of a clients reply. -/
structure ClientJson where
  mac : CStr
  identityKey : CStr
  zone : CStr
  interface : CStr
  ips : List CStr
  hostname : Option CStr
  rxBps : ℤ
  txBps : ℤ
  rxBytes : ℤ
  txBytes : ℤ
  tcpConns : ℤ
  udpConns : ℤ
  udpDnsConns : Option ℤ := none
  udpOtherConns : Option ℤ := none
  sampleMs : ℤ
  lastSeen : ℤ
  collectorMode : CStr
  confidence : CStr
  warnings : List CStr
deriving DecidableEq, Repr

/-- The connection totals at the top of a clients reply, where the collector added them. -/
structure ConnTotals where
  tcp : Option ℤ := none
  udp : Option ℤ := none
  udpDns : Option ℤ := none
  udpOther : Option ℤ := none
deriving DecidableEq, Repr

/-- A clients reply: the clients, and what the collector adds about their connections. -/
structure ClientsReply where
  clients : List ClientJson := []
  totals : ConnTotals := {}
  connSource : Option CStr := none
  connSemantics : Option CStr := none
deriving DecidableEq, Repr

/-- `json_object_new_int64((int64_t)x)`. -/
def jsonInt64 (x : UInt64) : ℤ := x.toInt64.toInt

/-- `add_string_unique`. -/
def addStringUnique (array : List CStr) (value : CStr) : List CStr :=
  if value ∈ array then array else array ++ [value]

/-- `delta_bps`, and whether the call sets `*counter_anomaly`. -/
def deltaBps (current previous deltaMs : UInt64) : UInt64 × Bool :=
  if current < previous then (0, true)
  else if deltaMs = 0 then (0, false)
  else ((current - previous) * 8 * 1000 / deltaMs, false)

/-- The two rates of one client, and its counter anomaly. -/
structure ClientRates where
  txBps : UInt64
  rxBps : UInt64
  counterAnomaly : Bool
deriving DecidableEq, Repr

/-- The tx and rx byte totals of a sample. -/
structure ByteTotals where
  tx : UInt64
  rx : UInt64
deriving DecidableEq, Repr

/-- The rates that the collectors compute from a client's totals in two snapshots; `none` when the
client has no previous sample. -/
def clientRates (cur : ByteTotals) (prev : Option ByteTotals) (deltaMs : UInt64) : ClientRates :=
  match prev with
  | none => { txBps := 0, rxBps := 0, counterAnomaly := false }
  | some prev =>
    let tx := deltaBps cur.tx prev.tx deltaMs
    let rx := deltaBps cur.rx prev.rx deltaMs
    { txBps := tx.1, rxBps := rx.1, counterAnomaly := tx.2 || rx.2 }

/-! ## The rates as numbers -/

/-- Bits per second from bytes and milliseconds. -/
abbrev bpsScale : ℕ := 8000

/-- The growth of a counter, scaled to a rate, fits in an unsigned 64-bit word. -/
def GrowthFits (prev : Option UInt64) (cur : UInt64) : Prop :=
  ∀ p, prev = some p → p ≤ cur → bpsScale * (cur.toNat - p.toNat) < 2 ^ 64

/-- The growth of a counter over `dt` milliseconds is a rate below `2 ^ 63`. -/
def GrowthBelowSigned (prev : Option UInt64) (cur : UInt64) (dt : ℕ) : Prop :=
  ∀ p, prev = some p → p ≤ cur → 0 < dt → bpsScale * (cur.toNat - p.toNat) < 2 ^ 63 * dt

instance (prev : Option UInt64) (cur : UInt64) : Decidable (GrowthFits prev cur) :=
  match prev with
  | none => .isTrue (by simp [GrowthFits])
  | some p =>
    decidable_of_iff (p ≤ cur → bpsScale * (cur.toNat - p.toNat) < 2 ^ 64) (by simp [GrowthFits])

instance (prev : Option UInt64) (cur : UInt64) (dt : ℕ) :
    Decidable (GrowthBelowSigned prev cur dt) :=
  match prev with
  | none => .isTrue (by simp [GrowthBelowSigned])
  | some p =>
    decidable_of_iff (p ≤ cur → 0 < dt → bpsScale * (cur.toNat - p.toNat) < 2 ^ 63 * dt)
      (by simp [GrowthBelowSigned])

/-- The rate of a counter in bits per second over `dt` milliseconds, with exact arithmetic. -/
def exactBps (prev : Option UInt64) (cur : UInt64) (dt : ℕ) : ℕ :=
  CounterRate.rate bpsScale (prev.map UInt64.toNat) cur.toNat dt

/-- The counter read less than it did before. -/
def CounterFell (prev : Option UInt64) (cur : UInt64) : Prop :=
  CounterRate.Fell (prev.map UInt64.toNat) cur.toNat

@[simp] theorem counterFell_none (cur : UInt64) : ¬ CounterFell none cur :=
  CounterRate.fell_none _

@[simp] theorem counterFell_some (p cur : UInt64) : CounterFell (some p) cur ↔ cur < p := by
  rw [CounterFell, Option.map_some, CounterRate.fell_some, UInt64.lt_iff_toNat_lt]

instance (prev : Option UInt64) (cur : UInt64) : Decidable (CounterFell prev cur) :=
  match prev with
  | none => .isFalse (counterFell_none cur)
  | some p => decidable_of_iff (cur < p) (counterFell_some p cur).symm

/-- `delta_bps` reports an anomaly when the counter fell. -/
theorem deltaBps_anomaly (cur prev dt : UInt64) :
    (deltaBps cur prev dt).2 = true ↔ CounterFell (some prev) cur := by
  rw [counterFell_some, deltaBps]
  split_ifs with hlt <;> simp [hlt]

/-- The growth of a counter in bits, for a rate per second over a time in milliseconds. -/
def scaledGrowth (current previous : UInt64) : ℕ := bpsScale * (current.toNat - previous.toNat)

/-- What is left of an exact rate when its growth is reduced to a word. -/
def wordBps (current previous deltaMs : UInt64) : ℕ :=
  if previous ≤ current then scaledGrowth current previous % 2 ^ 64 / deltaMs.toNat else 0

/-- The rate of a client is the exact one modulo `2 ^ 64`. -/
theorem toNat_deltaBps_mod (current previous deltaMs : UInt64) :
    (deltaBps current previous deltaMs).1.toNat = wordBps current previous deltaMs := by
  rw [deltaBps, wordBps]
  by_cases hfell : current < previous
  · rw [if_pos hfell, if_neg (UInt64.not_le.mpr hfell)]
    rfl
  · have hle : previous ≤ current := UInt64.not_lt.mp hfell
    have h8000 : UInt64.toNat 8 * UInt64.toNat 1000 = bpsScale := rfl
    rw [if_neg hfell, if_pos hle, scaledGrowth, Nat.mul_comm bpsScale]
    split_ifs with hdt
    · subst hdt
      exact (Nat.div_zero _).symm
    · rw [UInt64.toNat_div, Word.toNat_sub_mul_mod hle, h8000]

/-- `delta_bps` computes the exact rate when the scaled growth does not overflow. -/
theorem toNat_deltaBps {cur prev dt : UInt64} (h : GrowthFits (some prev) cur) :
    (deltaBps cur prev dt).1.toNat = exactBps (some prev) cur dt.toNat := by
  rw [toNat_deltaBps_mod, wordBps, exactBps, Option.map_some]
  split_ifs with hle
  · rw [CounterRate.rate_of_le (UInt64.le_iff_toNat_le.mp hle),
      scaledGrowth, Nat.mod_eq_of_lt (h prev rfl hle)]
  · rw [CounterRate.rate_of_fell]
    rw [CounterRate.fell_some]
    exact UInt64.lt_iff_toNat_lt.mp (UInt64.not_le.mp hle)

/-- An exact rate is below `2 ^ 63` when the growth is. -/
theorem exactBps_lt_iff {prev : Option UInt64} {cur : UInt64} {dt : ℕ} :
    exactBps prev cur dt < 2 ^ 63 ↔ GrowthBelowSigned prev cur dt := by
  cases prev with
  | none => simp [exactBps, GrowthBelowSigned]
  | some p =>
    rw [exactBps, Option.map_some]
    rcases Nat.eq_zero_or_pos dt with rfl | hdt
    · simp [GrowthBelowSigned]
    · by_cases hlt : cur < p
      · rw [CounterRate.rate_of_fell (by simpa [UInt64.lt_iff_toNat_lt] using hlt)]
        simp [GrowthBelowSigned, UInt64.not_le.mpr hlt]
      · have hle : p ≤ cur := UInt64.not_lt.mp hlt
        rw [CounterRate.rate_of_le (UInt64.le_iff_toNat_le.mp hle), Nat.div_lt_iff_lt_mul hdt]
        simp [GrowthBelowSigned, hle, hdt]

/-- A word is published as its value when that is below `2 ^ 63`, and only then. -/
theorem jsonInt64_eq_iff {x : UInt64} {n : ℕ} (h : x.toNat = n) :
    jsonInt64 x = n ↔ n < 2 ^ 63 := by
  subst h
  constructor
  · intro heq
    by_contra hge
    rw [jsonInt64, Word.toInt_toInt64_of_ge (by omega)] at heq
    omega
  · exact fun hlt => Word.toInt_toInt64_of_lt hlt

/-- The published rate of one direction is the exact rate when the exact rate is below `2 ^ 63`, and
only then. -/
theorem jsonInt64_deltaBps_eq_iff {cur prev dt : UInt64} (h : GrowthFits (some prev) cur) :
    jsonInt64 (deltaBps cur prev dt).1 = exactBps (some prev) cur dt.toNat ↔
      GrowthBelowSigned (some prev) cur dt.toNat := by
  rw [jsonInt64_eq_iff (toNat_deltaBps h), exactBps_lt_iff]

/-- The published tx rate of a client is exact when the exact rate is below `2 ^ 63`, and
only then. -/
theorem clientRates_txBps_iff (cur : ByteTotals) (prev : Option ByteTotals) (dt : UInt64)
    (h : GrowthFits (prev.map ByteTotals.tx) cur.tx) :
    jsonInt64 (clientRates cur prev dt).txBps = exactBps (prev.map ByteTotals.tx) cur.tx dt.toNat ↔
      GrowthBelowSigned (prev.map ByteTotals.tx) cur.tx dt.toNat := by
  cases prev with
  | none => simp [clientRates, exactBps, GrowthBelowSigned, jsonInt64]
  | some p => exact jsonInt64_deltaBps_eq_iff h

/-- The published rx rate of a client is exact when the exact rate is below `2 ^ 63`, and
only then. -/
theorem clientRates_rxBps_iff (cur : ByteTotals) (prev : Option ByteTotals) (dt : UInt64)
    (h : GrowthFits (prev.map ByteTotals.rx) cur.rx) :
    jsonInt64 (clientRates cur prev dt).rxBps = exactBps (prev.map ByteTotals.rx) cur.rx dt.toNat ↔
      GrowthBelowSigned (prev.map ByteTotals.rx) cur.rx dt.toNat := by
  cases prev with
  | none => simp [clientRates, exactBps, GrowthBelowSigned, jsonInt64]
  | some p => exact jsonInt64_deltaBps_eq_iff h

/-- A client has a counter anomaly when one of its totals fell. -/
theorem clientRates_counterAnomaly (cur : ByteTotals) (prev : Option ByteTotals) (dt : UInt64) :
    (clientRates cur prev dt).counterAnomaly = true ↔
      CounterFell (prev.map ByteTotals.tx) cur.tx ∨ CounterFell
        (prev.map ByteTotals.rx) cur.rx := by
  cases prev with
  | none => simp [clientRates]
  | some p =>
    rw [clientRates, Bool.or_eq_true, deltaBps_anomaly, deltaBps_anomaly]
    rfl

end Lanspeed
