import Lanspeed.Rates

/-!
# The overview sample

`overview_push_from_clients` sums up a clients reply into one slot of the overview ring. A client is
counted as active when it has an active rate and was seen within the active window before its
sample.
-/

namespace Lanspeed

/-- `json_uint64_value`. -/
def jsonUint64Value (value : ℤ) : UInt64 := if value > 0 then UInt64.ofInt value else 0

/-- `client_is_active_recent`. -/
def clientIsActiveRecent (cfg : CollectorConfig) (sampleMs lastSeenMs : UInt64) : Bool :=
  if sampleMs = 0 ∨ lastSeenMs = 0 ∨ lastSeenMs > sampleMs then false
  else sampleMs - lastSeenMs ≤ cfg.activeClientWindowMs

/-- `client_has_active_rate`. -/
def clientHasActiveRate (cfg : CollectorConfig) (txBps rxBps : UInt64) : Bool :=
  let total := txBps + rxBps
  let total := if total < txBps then UInt64.ofNat (2 ^ 64 - 1) else total
  total ≥ cfg.activeClientMinBps

/-- The test of `overview_push_from_clients` for one client. -/
def clientIsActive (cfg : CollectorConfig) (client : ClientJson) : Bool :=
  clientHasActiveRate cfg (jsonUint64Value client.txBps) (jsonUint64Value client.rxBps) &&
    clientIsActiveRecent cfg (jsonUint64Value client.sampleMs) (jsonUint64Value client.lastSeen)

/-- A connection total: that of the reply, or the sum over its clients. -/
def connTotal (total : Option ℤ) (count : ClientJson → Option ℤ) (clients : List ClientJson) :
    UInt32 :=
  match total with
  | some value => (jsonUint64Value value).toUInt32
  | none => (clients.map fun c => ((count c).map jsonUint64Value).getD 0).sum.toUInt32

/-- The slot that `overview_push_from_clients` writes. -/
def overviewSampleOf (cfg : CollectorConfig) (nowMs : UInt64) (totals : ConnTotals)
    (clients : List ClientJson) : OverviewSample :=
  { tsMs := nowMs
    txBps := (clients.map fun c => jsonUint64Value c.txBps).sum
    rxBps := (clients.map fun c => jsonUint64Value c.rxBps).sum
    tcpConns := connTotal totals.tcp (fun c => some c.tcpConns) clients
    udpConns := connTotal totals.udp (fun c => some c.udpConns) clients
    udpDnsConns := connTotal totals.udpDns ClientJson.udpDnsConns clients
    udpOtherConns := connTotal totals.udpOther ClientJson.udpOtherConns clients
    activeClients := UInt32.ofNat (clients.countP (clientIsActive cfg))
    clientCount := UInt32.ofNat clients.length }

/-- `overview_push_from_clients`. -/
def overviewPushFromClients (cfg : CollectorConfig) (nowMs : UInt64) (totals : ConnTotals)
    (clients : List ClientJson) (ring : OverviewRing) : OverviewRing :=
  ring.push (overviewSampleOf cfg nowMs totals clients)

/-! ## When a client counts as active -/

/-- A published number that is not negative is read back as it is. -/
theorem jsonUint64Value_of_nonneg {value : ℤ} (h : 0 ≤ value) (hlt : value < 2 ^ 64) :
    jsonUint64Value value = UInt64.ofNat value.toNat := by
  unfold jsonUint64Value
  split_ifs with hpos
  · rw [UInt64.ofInt, Int.emod_eq_of_lt h hlt]
  · have hzero : value = 0 := by omega
    rw [hzero]
    rfl

/-- A published word below `2 ^ 63` is read back as it is. -/
theorem jsonUint64Value_jsonInt64 {x : UInt64} (h : x.toNat < 2 ^ 63) :
    jsonUint64Value (jsonInt64 x) = x := by
  rw [jsonInt64, Word.toInt_toInt64_of_lt h, jsonUint64Value]
  split_ifs with hpos
  · have hmod : ((x.toNat : ℤ) % 2 ^ 64).toNat = x.toNat := by omega
    rw [UInt64.ofInt, hmod, UInt64.ofNat_toNat]
  · have hzero : x.toNat = 0 := by omega
    exact UInt64.toNat_inj.mp hzero.symm

/-- A published word is read back as a number that is at least its signed reading. -/
theorem jsonInt64_le_toNat_jsonUint64Value (x : UInt64) :
    jsonInt64 x ≤ (jsonUint64Value (jsonInt64 x)).toNat := by
  by_cases h : x.toNat < 2 ^ 63
  · rw [jsonUint64Value_jsonInt64 h, jsonInt64, Word.toInt_toInt64_of_lt h]
  · have hneg : jsonInt64 x < 0 := by
      have := x.toNat_lt
      rw [jsonInt64, Word.toInt_toInt64_of_ge (by omega)]
      omega
    omega

/-- The saturating sum of the two rates reaches the minimum exactly when their exact sum does. -/
theorem clientHasActiveRate_iff (cfg : CollectorConfig) (txBps rxBps : UInt64) :
    clientHasActiveRate cfg txBps rxBps = true ↔
      cfg.activeClientMinBps.toNat ≤ txBps.toNat + rxBps.toNat := by
  have hmin := cfg.activeClientMinBps.toNat_lt
  have hsum : (txBps + rxBps).toNat = (txBps.toNat + rxBps.toNat) % 2 ^ 64 := UInt64.toNat_add _ _
  have htx := txBps.toNat_lt
  have hrx := rxBps.toNat_lt
  rw [clientHasActiveRate, decide_eq_true_eq, ge_iff_le, UInt64.le_iff_toNat_le]
  split_ifs with hover
  · have hmax : (UInt64.ofNat (2 ^ 64 - 1)).toNat = 2 ^ 64 - 1 := rfl
    rw [UInt64.lt_iff_toNat_lt] at hover
    omega
  · rw [UInt64.lt_iff_toNat_lt] at hover
    omega

/-- When a client was seen, by its sample, within the active window. -/
theorem clientIsActiveRecent_iff (cfg : CollectorConfig) (sampleMs lastSeenMs : UInt64) :
    clientIsActiveRecent cfg sampleMs lastSeenMs = true ↔
      0 < lastSeenMs.toNat ∧ lastSeenMs.toNat ≤ sampleMs.toNat ∧
        sampleMs.toNat - lastSeenMs.toNat ≤ cfg.activeClientWindowMs.toNat := by
  rw [clientIsActiveRecent]
  simp only [← UInt64.toNat_inj, gt_iff_lt, UInt64.lt_iff_toNat_lt, UInt64.toNat_zero]
  split_ifs with h
  · simp only [false_iff]
    omega
  · have hle : lastSeenMs.toNat ≤ sampleMs.toNat := by omega
    rw [decide_eq_true_eq, UInt64.le_iff_toNat_le,
      UInt64.toNat_sub_of_le _ _ (UInt64.le_iff_toNat_le.mpr hle)]
    omega

end Lanspeed
