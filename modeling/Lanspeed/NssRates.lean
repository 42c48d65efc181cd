import Lanspeed.FlowGrowth
import Lanspeed.NssDump
import Lanspeed.Lib.SampledCounters

/-!
# The rates of the NSS connection manager

`collect_nss_ecm_direct_clients` computes a rate from the totals of a client in two dumps of the
connection manager, and a total is the sum of the counters of the flows that the dump shows for the
client. Flows come and go between the dumps, and count on while a dump is read. Over all calls of a
run, the published rates add up to no more than what was counted for the client's flows from the
beginning of the oldest to the end of the newest dump (`nss_bits_sum_le`).
-/

namespace Lanspeed

open CText

/-! ## What a dump shows -/

/-- The counter of a flow in one direction. -/
def NssEcmDirectFlow.counter (flow : NssEcmDirectFlow) : Direction → UInt64
  | .tx => flow.fromDataTotal
  | .rx => flow.toDataTotal

/-- A call of the collector on the files of a moment, with what the connection manager had ever
counted for the flow under a serial when the reading began and when it ended. -/
structure EcmCall where
  env : BpfPublishEnv
  nowMs : UInt64
  arpFile : Option CStr
  stateFile : Option CStr
  begun : CStr → Direction → ℕ
  ended : CStr → Direction → ℕ

namespace EcmCall

/-- The call of the collector. -/
def call (cfg : CollectorConfig) (c : EcmCall) : NssEcmDirectCall where
  env := c.env
  nowMs := c.nowMs
  read := nssReadOf cfg.maxSamples c.nowMs c.arpFile c.stateFile

/-- The flows that the state file shows. -/
def flows (c : EcmCall) : List NssEcmDirectFlow :=
  (c.stateFile.map fun content => nssFlows {} (fgetsLines nssEcmStateLineMax content)).getD []

/-- The client that the ARP table of the call gives a flow to. -/
def clientOf (c : EcmCall) (flow : NssEcmDirectFlow) : Option CStr :=
  (nssFlowShare (loadArpTable c.arpFile) flow).map FlowShare.key

/-- The dump as a reading of the counters of the flows. -/
def reading (dir : Direction) (c : EcmCall) : SampledCounters.Reading CStr where
  shown serial :=
    ((Keyed.lookup NssEcmDirectFlow.serial serial c.flows).map fun flow =>
      (flow.counter dir).toNat).getD 0
  begun serial := c.begun serial dir
  ended serial := c.ended serial dir

/-- A dump that can be followed: every flow under its own serial, for the client that owns it, and
the counters of all flows fit in a word. -/
structure Followed (owner : CStr → Option CStr) (c : EcmCall) : Prop where
  serials : (c.flows.map NssEcmDirectFlow.serial).Nodup
  owned : ∀ flow ∈ c.flows, c.clientOf flow = owner flow.serial
  fits : ∀ dir, (c.flows.map fun flow => (flow.counter dir).toNat).sum < 2 ^ 64

/-- What the flows that have a client add to its total. -/
theorem sum_shares (arp : List ArpEntry) (dir : Direction) (key : CStr)
    (flows : List NssEcmDirectFlow) :
    (((flows.filterMap (nssFlowShare arp)).filter fun share =>
      some share.key = some key).map (·.bytes dir)).sum =
      (flows.map fun flow =>
        if (nssFlowShare arp flow).map FlowShare.key = some key then flow.counter dir
          else 0).sum := by
  have hcounter : ∀ flow share, nssFlowShare arp flow = some share →
      share.bytes dir = flow.counter dir := by
    intro flow share h
    unfold nssFlowShare at h
    split_ifs at h
    obtain ⟨row, -, rfl⟩ := Option.map_eq_some_iff.mp h
    cases dir <;> rfl
  induction flows with
  | nil => rfl
  | cons flow flows ih =>
    rw [List.map_cons, List.sum_cons, ← ih]
    cases hshare : nssFlowShare arp flow with
    | none => simp [hshare]
    | some share =>
      rw [List.filterMap_cons_some hshare]
      by_cases hkey : share.key = key
      · simp [hkey, hcounter flow share hshare]
      · simp [hkey]

variable {cfg : CollectorConfig} {owner : CStr → Option CStr} {c : EcmCall}

/-- The total of a client in a snapshot is what the dump shows for its flows. -/
theorem Followed.toNat_bytes (h : c.Followed owner) {snap : Snapshot}
    (hsnap : (c.call cfg).snapshot cfg = some snap)
    {s : ConntrackClientSample} (hs : s ∈ snap.samples) (dir : Direction) {S : Finset CStr}
    (hS : ∀ serial ∈ S, owner serial = some s.identityKey)
    (hcover : ∀ flow ∈ c.flows, owner flow.serial = some s.identityKey → flow.serial ∈ S) :
    (s.bytes dir).toNat = ∑ serial ∈ S, (c.reading dir).shown serial := by
  have hshares : ∃ content, c.stateFile = some content ∧ snap.samples = shareTable
      { arp := loadArpTable c.arpFile, maxSamples := cfg.maxSamples, nowMs := c.nowMs }
      (c.flows.filterMap (nssFlowShare (loadArpTable c.arpFile))) := by
    rw [NssEcmDirectCall.snapshot] at hsnap
    split_ifs at hsnap
    obtain ⟨table, htable, rfl⟩ := Option.map_eq_some_iff.mp hsnap
    obtain ⟨hread, -⟩ := Option.filter_eq_some_iff.mp htable
    obtain ⟨shares, hshares, rfl⟩ := Option.map_eq_some_iff.mp hread
    unfold nssSnapshotShares at hshares
    split_ifs at hshares
    obtain ⟨content, hcontent, rfl⟩ := Option.map_eq_some_iff.mp hshares
    refine ⟨content, hcontent, ?_⟩
    rw [flows, hcontent]
    rfl
  obtain ⟨content, -, hsamples⟩ := hshares
  rw [hsamples] at hs
  have hbytes : s.bytes dir = (c.flows.map fun flow =>
      if owner flow.serial = some s.identityKey then flow.counter dir else 0).sum := by
    rw [GroupBy.measure_of_mem_groupBy (shareGrouping_lawful c.nowMs)
      (μ := fun s : ConntrackClientSample => s.bytes dir) (fun share => by cases dir <;> rfl)
      (bytes_addShare dir c.nowMs) hs]
    refine (sum_shares (loadArpTable c.arpFile) dir s.identityKey c.flows).trans ?_
    refine congrArg List.sum (List.map_congr_left fun flow hflow => ?_)
    rw [← h.owned flow hflow]
    rfl
  have hshown : ∑ serial ∈ S, (c.reading dir).shown serial = (c.flows.map fun flow =>
      if owner flow.serial = some s.identityKey then (flow.counter dir).toNat else 0).sum := by
    have hsum := Keyed.Distinct.sum_lookup h.serials (fun flow => (flow.counter dir).toNat)
      (p := fun serial => owner serial = some s.identityKey) (S := S)
        (by simpa using hS) (by simpa using hcover)
    simpa [reading] using hsum
  have hfits : ∑ serial ∈ S, (c.reading dir).shown serial < 2 ^ 64 := by
    rw [hshown]
    refine (List.sum_le_sum fun flow _ => ?_).trans_lt (h.fits dir)
    split_ifs
    · exact le_rfl
    · exact Nat.zero_le _
  have hwords : s.bytes dir = UInt64.ofNat (∑ serial ∈ S, (c.reading dir).shown serial) := by
    rw [hbytes, hshown, ← Word.sum_map_ofNat]
    refine congrArg List.sum (List.map_congr_left fun flow _ => ?_)
    split_ifs
    · exact UInt64.ofNat_toNat.symm
    · rfl
  rw [hwords, UInt64.toNat_ofNat_of_lt' hfits]

/-! ## What a call publishes -/

/-- What a call publishes for a client in one direction, in bits: the rate times the time since the
last dump. -/
def bits (cfg : CollectorConfig) (dir : Direction) (key : CStr)
    (st : CollectorState) (c : EcmCall) : ℤ :=
  match (collectNssEcmDirectClients cfg (c.call cfg) st).1.bind fun reply =>
      Keyed.lookup ClientJson.identityKey key reply.clients with
  | none => 0
  | some client => client.bps dir * ((st.previousNssEcmDirect.deltaMs c.nowMs).toNat : ℤ)

/-- The previous snapshot is that of a call. -/
def KeptFrom (cfg : CollectorConfig) (prev : PreviousSnapshot) (c : EcmCall) : Prop :=
  ∃ snap, (c.call cfg).snapshot cfg = some snap ∧
    prev = { samples := snap.samples, snapshotMs := snap.atMs, valid := true }

variable {dir : Direction} {key : CStr} {st : CollectorState}

/-- The flows of a client that the calls show. -/
def clientFlows (owner : CStr → Option CStr) (key : CStr) (calls : List EcmCall) : Finset CStr :=
  ((calls.flatMap fun c => c.flows.map NssEcmDirectFlow.serial).filter fun serial =>
    owner serial = some key).toFinset

/-- The flows of a client are owned by it. -/
theorem of_mem_clientFlows {calls : List EcmCall} {serial : CStr}
    (h : serial ∈ clientFlows owner key calls) :
    owner serial = some key := by
  simp only [clientFlows, List.mem_toFinset, List.mem_filter, decide_eq_true_eq] at h
  exact h.2

/-- A flow of a dump that the client owns is among its flows. -/
theorem serial_mem_clientFlows {calls : List EcmCall} (hc : c ∈ calls)
    {flow : NssEcmDirectFlow} (hflow : flow ∈ c.flows)
    (howner : owner flow.serial = some key) : flow.serial ∈ clientFlows owner key calls := by
  simp only [clientFlows, List.mem_toFinset, List.mem_filter, decide_eq_true_eq]
  exact ⟨List.mem_flatMap.mpr ⟨c, hc, List.mem_map_of_mem hflow⟩, howner⟩

/-- What a call that reads a snapshot publishes for a client. -/
theorem bits_eq {snap : Snapshot} (hsnap : (c.call cfg).snapshot cfg = some snap) :
    c.bits cfg dir key st =
      match findConntrackClientSample key snap.samples with
      | none => 0
      | some cur => jsonInt64 ((st.previousNssEcmDirect.rates c.nowMs cur).bps dir) *
          ((st.previousNssEcmDirect.deltaMs c.nowMs).toNat : ℤ) := by
  have hatMs : snap.atMs = c.nowMs := by
    rw [NssEcmDirectCall.snapshot] at hsnap
    split_ifs at hsnap
    obtain ⟨table, -, rfl⟩ := Option.map_eq_some_iff.mp hsnap
    rfl
  rw [bits, collectNssEcmDirectClients_eq, hsnap, ← hatMs]
  dsimp only [Option.bind_some, emitNssEcmDirectClients]
  rw [Keyed.lookup, List.find?_map]
  generalize hfound : List.find? _ snap.samples = found
  rw [show findConntrackClientSample key snap.samples = found from hfound]
  cases found with
  | none => rfl
  | some cur => cases dir <;> rfl

/-- A call that reads no snapshot publishes nothing. -/
theorem bits_of_none (hsnap : (c.call cfg).snapshot cfg = none) : c.bits cfg dir key st = 0 := by
  rw [bits, collectNssEcmDirectClients_eq, hsnap]
  rfl

/-- Without a previous snapshot nothing is published. -/
theorem bits_of_not_valid (hvalid : st.previousNssEcmDirect.valid = false) :
    c.bits cfg dir key st = 0 := by
  rw [bits, PreviousSnapshot.deltaMs, hvalid]
  cases (collectNssEcmDirectClients cfg (c.call cfg) st).1.bind fun reply =>
      Keyed.lookup ClientJson.identityKey key reply.clients with
  | none => rfl
  | some client => exact Int.mul_zero _

/-- A published rate, times the time, is at most the growth of the total; for a client that is new
it is zero. -/
theorem rates_mul_le {prev : PreviousSnapshot} (hvalid : prev.valid = true) (nowMs : UInt64)
    (cur : ConntrackClientSample) :
    jsonInt64 ((prev.rates nowMs cur).bps dir) * ((prev.deltaMs nowMs).toNat : ℤ) ≤
      match findConntrackClientSample cur.identityKey prev.samples with
      | none => 0
      | some held => (bpsScale * ((cur.bytes dir).toNat - (held.bytes dir).toNat) : ℕ) := by
  rw [rates_bps dir prev hvalid]
  cases findConntrackClientSample cur.identityKey prev.samples with
  | none => exact (Int.zero_mul _).le
  | some held =>
    have hrate := jsonInt64_deltaBps_le (cur.bytes dir) (held.bytes dir) (prev.deltaMs nowMs)
    dsimp only
    calc jsonInt64 (deltaBps (cur.bytes dir) (held.bytes dir) (prev.deltaMs nowMs)).1 *
          ((prev.deltaMs nowMs).toNat : ℤ)
      _ ≤ ((8000 * ((cur.bytes dir).toNat - (held.bytes dir).toNat) /
          (prev.deltaMs nowMs).toNat : ℕ) : ℤ) * ((prev.deltaMs nowMs).toNat : ℤ) :=
        Int.mul_le_mul_of_nonneg_right hrate (Int.natCast_nonneg _)
      _ ≤ _ := by exact_mod_cast Nat.div_mul_le_self _ _

/-- After a dump, a call publishes at most the growth of what the dumps show for the
client's flows. -/
theorem bits_le {last : EcmCall} (hc : c.Followed owner) (hlast : last.Followed owner)
    (hkept : KeptFrom cfg st.previousNssEcmDirect last) {calls : List EcmCall} (hcalls : c ∈ calls)
    (hlastCalls : last ∈ calls) :
    c.bits cfg dir key st ≤
      (bpsScale * (∑ serial ∈ clientFlows owner key calls, (c.reading dir).shown serial -
        ∑ serial ∈ clientFlows owner key calls, (last.reading dir).shown serial) : ℕ) := by
  obtain ⟨before, hbefore, hprev⟩ := hkept
  cases hsnap : (c.call cfg).snapshot cfg with
  | none => exact (bits_of_none hsnap).trans_le (Int.natCast_nonneg _)
  | some snap =>
    rw [bits_eq hsnap]
    cases hcur : findConntrackClientSample key snap.samples with
    | none => exact Int.natCast_nonneg _
    | some cur =>
      obtain rfl : cur.identityKey = key := Keyed.key_of_lookup hcur
      have hvalid : st.previousNssEcmDirect.valid = true := by rw [hprev]
      refine (rates_mul_le hvalid c.nowMs cur).trans ?_
      rw [hprev]
      dsimp only
      cases hheld : findConntrackClientSample cur.identityKey before.samples with
      | none => exact Int.natCast_nonneg _
      | some held =>
        have hkey : held.identityKey = cur.identityKey := Keyed.key_of_lookup hheld
        dsimp only
        rw [hc.toNat_bytes hsnap (Keyed.mem_of_lookup hcur) dir (fun _ => of_mem_clientFlows)
            fun flow hflow => serial_mem_clientFlows hcalls hflow,
          hlast.toNat_bytes hbefore (Keyed.mem_of_lookup hheld) dir (fun _ hmem =>
          hkey ▸ of_mem_clientFlows hmem)
            fun flow hflow howner => serial_mem_clientFlows hlastCalls hflow (hkey ▸ howner)]

end EcmCall

/-! ## Runs -/

/-- The state of the collectors, the calls that read a snapshot, newest first, and what was
published for a client. -/
structure EcmRun where
  st : CollectorState
  dumps : List EcmCall
  published : ℤ

namespace EcmRun

section Step

variable (cfg : CollectorConfig) (dir : Direction) (key : CStr)

/-- One call of the collector. -/
def step (run : EcmRun) (c : EcmCall) : EcmRun where
  st := nssEcmDirectStep cfg run.st (c.call cfg)
  dumps := if ((c.call cfg).snapshot cfg).isSome then c :: run.dumps else run.dumps
  published := run.published + c.bits cfg dir key run.st

/-- The run of some calls from the start of the daemon. -/
def after (enabled : Bool) (calls : List EcmCall) : EcmRun :=
  Machine.run (step cfg dir key) ⟨.init enabled, [], 0⟩ calls

end Step

variable {cfg : CollectorConfig} {owner : CStr → Option CStr} {dir : Direction}
    {key : CStr} {run : EcmRun}

/-- The collector keeps the newest dump, and what it published are growths between the dumps. -/
structure Growths (cfg : CollectorConfig) (owner : CStr → Option CStr)
    (dir : Direction) (key : CStr) (run : EcmRun) : Prop where
  followed : ∀ c ∈ run.dumps, c.Followed owner
  none_kept : run.dumps = [] → run.st.previousNssEcmDirect.valid = false
  kept : ∀ last ∈ run.dumps.head?, last.KeptFrom cfg run.st.previousNssEcmDirect
  published : ∀ calls, (∀ c ∈ run.dumps, c ∈ calls) → run.published ≤
    (bpsScale * SampledCounters.growths (EcmCall.clientFlows owner key calls)
      (run.dumps.map (EcmCall.reading dir)) : ℕ)

/-- A call keeps the account of the growths. -/
theorem Growths.step (h : Growths cfg owner dir key run) {c : EcmCall} (hc : c.Followed owner) :
    Growths cfg owner dir key (run.step cfg dir key c) := by
  cases hsnap : (c.call cfg).snapshot cfg with
  | none =>
    have hst : nssEcmDirectStep cfg run.st (c.call cfg) = run.st := by
      rw [nssEcmDirectStep, collectNssEcmDirectClients_eq, hsnap]
    have hstep : run.step cfg dir key c = run := by
      rw [EcmRun.step, hst, hsnap, EcmCall.bits_of_none hsnap, add_zero]
      rfl
    rwa [hstep]
  | some snap =>
    have hdumps : (run.step cfg dir key c).dumps = c :: run.dumps := by
      rw [EcmRun.step, hsnap]
      rfl
    refine ⟨?_, ?_, ?_, ?_⟩
    · rw [hdumps]
      exact List.forall_mem_cons.mpr ⟨hc, h.followed⟩
    · intro hnil
      exact absurd (hdumps.symm.trans hnil) (by simp)
    · rw [hdumps]
      intro last hlast
      obtain rfl := Option.some.inj hlast
      refine ⟨snap, hsnap, ?_⟩
      show (nssEcmDirectStep cfg run.st (c.call cfg)).previousNssEcmDirect = _
      rw [nssEcmDirectStep, collectNssEcmDirectClients_eq, hsnap]
      rfl
    · rw [hdumps]
      intro calls hcalls
      obtain ⟨hcall, hcalls⟩ := List.forall_mem_cons.mp hcalls
      have hpublished := h.published calls hcalls
      show run.published + c.bits cfg dir key run.st ≤ _
      cases hrun : run.dumps with
      | nil =>
        rw [hrun] at hpublished
        rw [EcmCall.bits_of_not_valid (h.none_kept hrun), add_zero]
        exact hpublished
      | cons last older =>
        have hlast : last ∈ run.dumps := hrun ▸ List.mem_cons_self
        have hkept := h.kept last (by rw [hrun]; rfl)
        rw [hrun] at hpublished
        simp only [List.map_cons, SampledCounters.growths, Nat.mul_add, Nat.cast_add]
        rw [add_comm]
        exact add_le_add (EcmCall.bits_le hc (h.followed last hlast)
          hkept hcall (hcalls last hlast)) hpublished

/-- After any calls the account of the growths is right. -/
theorem growths_after (enabled : Bool) {calls : List EcmCall}
    (hcalls : ∀ c ∈ calls, c.Followed owner) :
    Growths cfg owner dir key (after cfg dir key enabled calls) :=
  Machine.run_invariant_along (step cfg dir key) (P := fun _ c =>
    c.Followed owner) (fun _ _ h hc => h.step hc)
    ⟨by simp, fun _ => rfl, by simp, fun _ _ => le_rfl⟩ (Machine.along_of_forall_mem _ hcalls _)

end EcmRun

/-- Over all calls of a run, what is published for a client is at most what was counted for its
flows from the beginning of the oldest to the end of the newest dump, while flows come and go and
count on during the dumps. The dumps can be followed: distinct serials, flows that keep their
clients, and sums below `2 ^ 64`. -/
theorem nss_bits_sum_le (cfg : CollectorConfig) (enabled : Bool)
    (dir : Direction) (key : CStr) {calls : List EcmCall}
    {owner : CStr → Option CStr} (hcalls : ∀ c ∈ calls, c.Followed owner) {taken : CStr → ℕ}
    (hsound : SampledCounters.Sound
      ((EcmRun.after cfg dir key enabled calls).dumps.map (EcmCall.reading dir)) taken)
    (horder : SampledCounters.OneAfterAnother
      ((EcmRun.after cfg dir key enabled calls).dumps.map (EcmCall.reading dir)))
    {newest oldest : EcmCall}
    (hnewest : (EcmRun.after cfg dir key enabled calls).dumps.head? = some newest)
    (holdest : (EcmRun.after cfg dir key enabled calls).dumps.getLast? = some oldest) :
    (EcmRun.after cfg dir key enabled calls).published ≤
      (bpsScale * ∑ serial ∈ EcmCall.clientFlows owner key
        (EcmRun.after cfg dir key enabled calls).dumps,
        (newest.ended serial dir - oldest.begun serial dir) : ℕ) := by
  have hrun : EcmRun.Growths cfg owner dir key (EcmRun.after cfg dir key enabled calls) :=
    EcmRun.growths_after enabled hcalls
  have hhead : ((EcmRun.after cfg dir key enabled calls).dumps.map (EcmCall.reading dir)).head? =
      some (newest.reading dir) := by
    rw [List.head?_map, hnewest]
    rfl
  have hlast : ((EcmRun.after cfg dir key enabled calls).dumps.map (EcmCall.reading dir)).getLast? =
      some (oldest.reading dir) := by
    rw [List.getLast?_map, holdest]
    rfl
  have hgrowths := hsound.growths_le_sum
    (EcmCall.clientFlows owner key (EcmRun.after cfg dir key enabled calls).dumps)
      horder hhead hlast
  exact (hrun.published _ fun _ hc => hc).trans
    (by exact_mod_cast Nat.mul_le_mul_left bpsScale hgrowths)

/-- A call on flows of one client, with the bytes that each of them has sent as the dump
shows them. -/
def ecmCallAt (nowMs : UInt64) (shown : List (String × String)) (counted : CStr → ℕ) : EcmCall where
  env :=
    { probe := { nssPresent := true, nssEcmActive := true, nssEcmDirectSupported := true }
      status := {}
      nowMs := 0
      hostnameLookup := fun _ _ => none }
  nowMs
  arpFile := some "IP address\n192.168.1.2 0x1 0x2 02:00:00:00:00:01 * br-lan\n".toList
  stateFile := some (shown.flatMap fun flow =>
    "conns.conn.".toList ++ flow.1.toList ++ ".sip_address=192.168.1.2\nconns.conn.".toList ++
      flow.1.toList ++ ".adv_stats.from_data_total=".toList ++ flow.2.toList ++ ['\n'])
  begun serial _ := counted serial
  ended serial _ := counted serial

/-- The first dump shows two flows. -/
def firstDump : EcmCall :=
  ecmCallAt 1000 [("17", "1000"), ("18", "400")] fun serial =>
    if serial = "17".toList then 1000 else if serial = "18".toList then 400 else 0

/-- In the second dump one of them is gone, and there is a new one. -/
def secondDump : EcmCall :=
  ecmCallAt 2000 [("17", "3000"), ("19", "500")] fun serial =>
    if serial = "17".toList then 3000 else if serial = "18".toList then 400
    else if serial = "19".toList then 500 else 0

/-- A dump shows nothing for the serials that it does not have. -/
theorem EcmCall.shown_of_not_mem {c : EcmCall} {serials : List CStr}
    (hserials : c.flows.map NssEcmDirectFlow.serial = serials)
    {serial : CStr} (h : serial ∉ serials) (dir : Direction) :
    (c.reading dir).shown serial = 0 := by
  subst hserials
  have hnone : Keyed.lookup NssEcmDirectFlow.serial serial c.flows = none :=
    not_not.mp fun hne => h (Keyed.mem_map_key_iff.mpr hne)
  simp only [EcmCall.reading, hnone]
  rfl

/-- A client that is read from two dumps. -/
theorem nss_bits_sum_le_twoDumps :
    (EcmRun.after {} .tx "02:00:00:00:00:01@lan".toList false [firstDump,
      secondDump]).published = 16800000 ∧
      (EcmRun.after {} .tx "02:00:00:00:00:01@lan".toList false [firstDump, secondDump]).published ≤
        (bpsScale * ∑ serial ∈ EcmCall.clientFlows (fun _ => some "02:00:00:00:00:01@lan".toList)
            "02:00:00:00:00:01@lan".toList
            (EcmRun.after {} .tx "02:00:00:00:00:01@lan".toList false [firstDump,
              secondDump]).dumps,
          (secondDump.ended serial .tx - firstDump.begun serial .tx) : ℕ) := by
  have hdumps :
      (EcmRun.after {} .tx "02:00:00:00:00:01@lan".toList false [firstDump, secondDump]).dumps =
      [secondDump, firstDump] := by
    have hfirst : ((firstDump.call {}).snapshot {}).isSome = true := by decide +kernel
    have hsecond : ((secondDump.call {}).snapshot {}).isSome = true := by decide +kernel
    simp only [EcmRun.after, Machine.run_cons, Machine.run_nil,
      EcmRun.step, hfirst, hsecond, if_true]
  have hfollowed : ∀ c ∈ [firstDump, secondDump], c.Followed fun _ =>
      some "02:00:00:00:00:01@lan".toList := by
    refine List.forall_mem_cons.mpr ⟨⟨by decide +kernel, by decide +kernel, ?_⟩,
      List.forall_mem_singleton.mpr ⟨by decide +kernel, by decide +kernel, ?_⟩⟩
    · intro dir
      cases dir <;> decide +kernel
    · intro dir
      cases dir <;> decide +kernel
  have hserials : firstDump.flows.map NssEcmDirectFlow.serial = [['1', '7'], ['1', '8']] ∧
      secondDump.flows.map NssEcmDirectFlow.serial = [['1', '7'], ['1', '9']] := by
    decide +kernel
  have hshown : (firstDump.reading .tx).shown ['1', '7'] = 1000 ∧
      (firstDump.reading .tx).shown ['1', '8'] = 400 ∧
      (secondDump.reading .tx).shown ['1', '7'] = 3000 ∧
      (secondDump.reading .tx).shown ['1', '9'] = 500 := by
    decide +kernel
  have hgrown : ∀ serial, (secondDump.reading .tx).shown serial + firstDump.begun serial .tx ≤
      (firstDump.reading .tx).shown serial + secondDump.begun serial .tx := by
    intro serial
    by_cases h17 : serial = ['1', '7']
    · subst h17
      rw [hshown.1, hshown.2.2.1]
      decide +kernel
    · by_cases h18 : serial = ['1', '8']
      · subst h18
        rw [hshown.2.1, EcmCall.shown_of_not_mem hserials.2 (by decide)]
        decide +kernel
      · by_cases h19 : serial = ['1', '9']
        · subst h19
          rw [hshown.2.2.2, EcmCall.shown_of_not_mem hserials.1 (by decide)]
          decide +kernel
        · rw [EcmCall.shown_of_not_mem hserials.2 (by simp [h17, h19]),
            EcmCall.shown_of_not_mem hserials.1 (by simp [h17, h18])]
          simp [firstDump, secondDump, ecmCallAt, h17, h18, h19]
  have hlater : ∀ serial, firstDump.ended serial .tx ≤ secondDump.begun serial .tx := by
    intro serial
    simp only [firstDump, secondDump, ecmCallAt]
    split_ifs <;> omega
  have hfirst : SampledCounters.Sound ([firstDump].map (EcmCall.reading .tx))
      fun serial => firstDump.begun serial .tx :=
    .cons (fun _ => ⟨le_rfl, le_rfl⟩) (.nil fun _ => 0) (by simp)
  have hsound : SampledCounters.Sound ([secondDump, firstDump].map (EcmCall.reading .tx))
      fun serial => secondDump.begun serial .tx := by
    refine .cons (fun _ => ⟨le_rfl, le_rfl⟩) hfirst fun prev hprev => ?_
    obtain rfl := Option.some.inj hprev
    exact hgrown
  have horder :
      SampledCounters.OneAfterAnother ([secondDump, firstDump].map (EcmCall.reading .tx)) :=
    List.isChain_cons_cons.mpr ⟨hlater, List.isChain_singleton _⟩
  have hsound := hdumps ▸ hsound
  have horder := hdumps ▸ horder
  refine ⟨by decide +kernel, nss_bits_sum_le {} false .tx _ hfollowed hsound horder ?_ ?_⟩
  · rw [hdumps]
    rfl
  · rw [hdumps]
    rfl

end Lanspeed
