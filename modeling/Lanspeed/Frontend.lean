import Lanspeed.Paths
import Lanspeed.Lib.Js
import Mathlib.Algebra.Order.BigOperators.Group.List
import Mathlib.Algebra.Order.Ring.Int

/-!
# The totals of the frontend

The page sums up the clients of a reply itself: `sumTotals` adds their rates and counts the active
ones by the window and the minimum rate that `activeConfig` takes from the status. The daemon does
the same for the overview ring. On a reply of one collector the two agree
(`overview_agrees_with_sumTotals`).
-/

namespace Lanspeed

open Js (number)

/-- The fields of a status or overview reply that `activeConfig` reads, where they are there. -/
structure ActiveFields where
  activeClientWindowMs : Option ℤ := none
  activeClientMinBps   : Option ℤ := none
deriving DecidableEq, Repr

/-- What `status_method` publishes of them. -/
def statusActiveFields (cfg : CollectorConfig) : ActiveFields where
  activeClientWindowMs := some (jsonInt64 cfg.activeClientWindowMs)
  activeClientMinBps   := some (jsonInt64 cfg.activeClientMinBps)

/-- `Number(c && c.sample_ms) || 0`, where it is positive. -/
def clientSampleMs (c : ClientJson) : ℤ :=
  let v := number c.sampleMs
  if v > 0 then v else 0

def latestClientSampleMs (clients : List ClientJson) : ℤ :=
  clients.foldl (fun latest c => if clientSampleMs c > latest then clientSampleMs c else latest) 0

def positiveNumber (v : Option ℤ) (fallback : ℤ) : ℤ :=
  match v with
  | some v => if number v > 0 then number v else fallback
  | none => fallback

/-- `ACTIVE_CLIENT_WINDOW_MS`. -/
def activeClientWindowMs : ℤ := 10000

/-- `ACTIVE_CLIENT_MIN_BPS`. -/
def activeClientMinBps : ℤ := 1

/-- The thresholds of `isActiveClient`. -/
structure ActiveConfig where
  activeWindowMs : ℤ
  activeMinBps   : ℤ
deriving DecidableEq, Repr

def activeConfig (status overview : ActiveFields) : ActiveConfig where
  activeWindowMs := positiveNumber status.activeClientWindowMs
    (positiveNumber overview.activeClientWindowMs activeClientWindowMs)
  activeMinBps := positiveNumber status.activeClientMinBps
    (positiveNumber overview.activeClientMinBps activeClientMinBps)

def isActiveClient (c : ClientJson) (nowMs : ℤ) (config : ActiveConfig) : Bool :=
  let sample := if nowMs = 0 then clientSampleMs c else nowMs
  let last := number c.lastSeen
  let rate := number (number c.txBps + number c.rxBps)
  let windowMs := positiveNumber (some config.activeWindowMs) activeClientWindowMs
  let minBps := positiveNumber (some config.activeMinBps) activeClientMinBps
  if rate < minBps then false
  else if sample ≤ 0 ∨ last ≤ 0 ∨ last > sample then false
  else number (sample - last) ≤ windowMs

/-- The result of `sumTotals`. -/
structure FrontendTotals where
  tx     : ℤ := 0
  rx     : ℤ := 0
  active : ℕ := 0
deriving DecidableEq, Repr

def sumTotals (clients : List ClientJson) (config : ActiveConfig) : FrontendTotals :=
  let latestSample := latestClientSampleMs clients
  clients.foldl (fun totals c =>
    { tx := number (totals.tx + number c.txBps)
      rx := number (totals.rx + number c.rxBps)
      active :=
        if isActiveClient c latestSample config then totals.active + 1 else totals.active }) {}

/-! ## The same totals -/

/-- The numbers of a reply that a script can add up exactly. -/
structure SafeFields (clients : List ClientJson) : Prop where
  nonneg : ∀ c ∈ clients, 0 ≤ c.txBps ∧ 0 ≤ c.rxBps ∧ 0 ≤ c.sampleMs ∧ 0 ≤ c.lastSeen
  times  : ∀ c ∈ clients, c.sampleMs < Js.safeLimit ∧ c.lastSeen < Js.safeLimit
  tx     : (clients.map (·.txBps)).sum < Js.safeLimit
  rx     : (clients.map (·.rxBps)).sum < Js.safeLimit

/-- What a reply of one collector is: its clients were sampled together, and they are not
too many. -/
structure OneSnapshot (clients : List ClientJson) : Prop where
  sampleMs  : ∃ ms, ∀ c ∈ clients, c.sampleMs = ms
  length_le : clients.length ≤ defaultMaxClients

/-- The thresholds are positive and safe numbers. -/
structure SafeThresholds (cfg : CollectorConfig) : Prop where
  window_pos : 0 < cfg.activeClientWindowMs
  window_lt  : cfg.activeClientWindowMs.toNat < Js.safeLimit
  minBps_pos : 0 < cfg.activeClientMinBps
  minBps_lt  : cfg.activeClientMinBps.toNat < Js.safeLimit

/-- A positive number below `2 ^ 53` is taken as it is. -/
theorem positiveNumber_of_pos {n : ℕ} (hpos : 0 < n) (hlt : n < Js.safeLimit) (fallback : ℤ) :
    positiveNumber (some n) fallback = n := by
  rw [positiveNumber, Js.number_natCast hlt]
  exact if_pos (Int.natCast_pos.mpr hpos)

/-- The thresholds that the frontend takes from the status are those of the daemon. -/
theorem activeConfig_status {cfg : CollectorConfig} (h : SafeThresholds cfg)
    (overview : ActiveFields) :
    activeConfig (statusActiveFields cfg) overview =
      ⟨cfg.activeClientWindowMs.toNat, cfg.activeClientMinBps.toNat⟩ := by
  have hsmall : Js.safeLimit < 2 ^ 63 := by decide
  have hwindow := h.window_lt
  have hmin := h.minBps_lt
  rw [activeConfig, statusActiveFields, jsonInt64, jsonInt64, Word.toInt_toInt64_of_lt (by omega),
    Word.toInt_toInt64_of_lt (by omega),
    positiveNumber_of_pos (UInt64.lt_iff_toNat_lt.mp h.window_pos) hwindow,
    positiveNumber_of_pos (UInt64.lt_iff_toNat_lt.mp h.minBps_pos) hmin]

/-- A sample time that a double holds is taken as it is. -/
theorem clientSampleMs_of_safe {c : ClientJson} (h0 : 0 ≤ c.sampleMs)
    (h : c.sampleMs < Js.safeLimit) :
    clientSampleMs c = c.sampleMs := by
  rw [clientSampleMs, Js.number_of_nonneg h0 h]
  split_ifs <;> omega

/-- The latest sample of clients that were sampled together is the sample of each. -/
theorem latestClientSampleMs_eq {clients : List ClientJson} {ms : ℤ} (hms : 0 ≤ ms)
    (hlt : ms < Js.safeLimit) (hall : ∀ c ∈ clients, c.sampleMs = ms) (hne : clients ≠ []) :
    latestClientSampleMs clients = ms := by
  have hsample : ∀ c ∈ clients, clientSampleMs c = ms := by
    intro c hc
    rw [clientSampleMs_of_safe (by rw [hall c hc]; exact hms) (by rw [hall c hc]; exact hlt),
      hall c hc]
  -- Once the sample is found, it stays the latest.
  have hstay : ∀ l : List ClientJson, (∀ c ∈ l, clientSampleMs c = ms) →
      l.foldl (fun latest c => if clientSampleMs c > latest then clientSampleMs c
        else latest) ms = ms := by
    intro l hl
    apply Loop.foldl_eq_self
    intro c hc
    rw [hl c hc]
    exact if_neg (lt_irrefl ms)
  obtain ⟨c, rest, rfl⟩ := List.exists_cons_of_ne_nil hne
  obtain ⟨hc, hrest⟩ := List.forall_mem_cons.mp hsample
  have hfirst : (if clientSampleMs c > 0 then clientSampleMs c else 0) = ms := by
    rw [hc]
    split_ifs <;> omega
  rw [latestClientSampleMs, List.foldl_cons, hfirst, hstay rest hrest]

/-- Frontend and daemon count the same clients as active. -/
theorem isActiveClient_eq {cfg : CollectorConfig} (hcfg : SafeThresholds cfg) {c : ClientJson}
    (hnonneg : 0 ≤ c.txBps ∧ 0 ≤ c.rxBps ∧ 0 ≤ c.sampleMs ∧ 0 ≤ c.lastSeen)
    (htimes : c.sampleMs < Js.safeLimit ∧ c.lastSeen < Js.safeLimit)
    (htx : c.txBps < Js.safeLimit) (hrx : c.rxBps < Js.safeLimit) :
    isActiveClient c c.sampleMs ⟨cfg.activeClientWindowMs.toNat, cfg.activeClientMinBps.toNat⟩ =
      clientIsActive cfg c := by
  have hsafe : (Js.safeLimit : ℤ) < 2 ^ 64 := by decide
  have hread : ∀ v : ℤ, 0 ≤ v → v < Js.safeLimit → (jsonUint64Value v).toNat = v.toNat := by
    intro v h0 hv
    rw [jsonUint64Value_of_nonneg h0 (hv.trans hsafe), UInt64.toNat_ofNat']
    omega
  obtain ⟨hntx, hnrx, hnms, hnseen⟩ := hnonneg
  obtain ⟨hms, hseen⟩ := htimes
  have hsample : (if c.sampleMs = 0 then clientSampleMs c else c.sampleMs) = c.sampleMs := by
    rw [clientSampleMs_of_safe hnms hms, ite_self]
  have hrate : number (c.txBps + c.rxBps) < cfg.activeClientMinBps.toNat ↔
      c.txBps.toNat + c.rxBps.toNat < cfg.activeClientMinBps.toNat := by
    rw [← not_le, ← not_le, ← Js.natCast_le_number_iff hcfg.minBps_lt, Nat.cast_add,
      Int.toNat_of_nonneg hntx, Int.toNat_of_nonneg hnrx]
  have hage : ¬(c.sampleMs ≤ 0 ∨ c.lastSeen ≤ 0 ∨ c.lastSeen > c.sampleMs) →
      number (c.sampleMs - c.lastSeen) = c.sampleMs - c.lastSeen := by
    intro h
    exact Js.number_of_nonneg (by omega) (by omega)
  rw [Bool.eq_iff_iff, clientIsActive, Bool.and_eq_true, clientHasActiveRate_iff,
    clientIsActiveRecent_iff, hread _ hntx htx, hread _ hnrx hrx,
    hread _ hnms hms, hread _ hnseen hseen,
    isActiveClient]
  simp only [hsample, Js.number_of_nonneg hntx htx, Js.number_of_nonneg hnrx hrx,
    Js.number_of_nonneg hnseen hseen,
    positiveNumber_of_pos (UInt64.lt_iff_toNat_lt.mp hcfg.window_pos) hcfg.window_lt,
    positiveNumber_of_pos (UInt64.lt_iff_toNat_lt.mp hcfg.minBps_pos) hcfg.minBps_lt, hrate]
  split_ifs with hslow hunseen
  · simp only [false_iff]
    omega
  · simp only [false_iff]
    omega
  · rw [hage hunseen, decide_eq_true_eq]
    omega

/-- A number of the clients is no more than the sum over them. -/
theorem le_sum_of_mem {f : ClientJson → ℤ} {clients : List ClientJson} (h : ∀ c ∈ clients, 0 ≤ f c)
    {c : ClientJson} (hc : c ∈ clients) : f c ≤ (clients.map f).sum :=
  List.single_le_sum (List.forall_mem_map.mpr h) _ (List.mem_map_of_mem hc)

/-- Adding up as a script does is exact while the sums are safe. -/
theorem foldl_sumTotals {active : ClientJson → Bool} {clients : List ClientJson}
    (hnonneg : ∀ c ∈ clients, 0 ≤ c.txBps ∧ 0 ≤ c.rxBps) {totals : FrontendTotals}
    (htx0 : 0 ≤ totals.tx) (hrx0 : 0 ≤ totals.rx)
    (htx : totals.tx + (clients.map (·.txBps)).sum < Js.safeLimit)
    (hrx : totals.rx + (clients.map (·.rxBps)).sum < Js.safeLimit) :
    clients.foldl (fun totals c =>
      { tx := number (totals.tx + number c.txBps)
        rx := number (totals.rx + number c.rxBps)
        active := if active c then totals.active + 1 else totals.active }) totals =
      { tx := totals.tx + (clients.map (·.txBps)).sum
        rx := totals.rx + (clients.map (·.rxBps)).sum
        active := totals.active + clients.countP active } := by
  induction clients generalizing totals with
  | nil => simp
  | cons c clients ih =>
    obtain ⟨⟨hctx, hcrx⟩, hrest⟩ := List.forall_mem_cons.mp hnonneg
    have htxs : 0 ≤ (clients.map (·.txBps)).sum :=
      List.sum_nonneg (List.forall_mem_map.mpr fun c hc => (hrest c hc).1)
    have hrxs : 0 ≤ (clients.map (·.rxBps)).sum :=
      List.sum_nonneg (List.forall_mem_map.mpr fun c hc => (hrest c hc).2)
    rw [List.map_cons, List.sum_cons] at htx hrx
    rw [List.foldl_cons, Js.number_of_nonneg hctx (by omega), Js.number_of_nonneg hcrx (by omega),
      Js.number_of_nonneg (by omega) (by omega), Js.number_of_nonneg (by omega) (by omega),
      ih hrest (by dsimp only; omega) (by dsimp only; omega) (by dsimp only; omega)
        (by dsimp only; omega)]
    simp only [List.map_cons, List.sum_cons, List.countP_cons, FrontendTotals.mk.injEq]
    refine ⟨add_assoc .., add_assoc .., ?_⟩
    split_ifs <;> omega

/-- A word that sums up published numbers is their sum, while it is safe. -/
theorem toNat_sum_jsonUint64Value {f : ClientJson → ℤ} {clients : List ClientJson}
    (h : ∀ c ∈ clients, 0 ≤ f c) (hsum : (clients.map f).sum < Js.safeLimit) :
    ((clients.map fun c => jsonUint64Value (f c)).sum.toNat : ℤ) = (clients.map f).sum := by
  have hsafe : (Js.safeLimit : ℤ) < 2 ^ 64 := by decide
  have hwords : (clients.map fun c => jsonUint64Value (f c)) =
      clients.map fun c => UInt64.ofNat (f c).toNat :=
    List.map_congr_left fun c hc =>
      jsonUint64Value_of_nonneg (h c hc) (((le_sum_of_mem h hc).trans_lt hsum).trans hsafe)
  have hnat : (((clients.map fun c => (f c).toNat).sum : ℕ) : ℤ) = (clients.map f).sum := by
    clear hwords hsum
    induction clients with
    | nil => rfl
    | cons c clients ih =>
      obtain ⟨hc, hrest⟩ := List.forall_mem_cons.mp h
      rw [List.map_cons, List.sum_cons, Nat.cast_add, ih hrest,
        Int.toNat_of_nonneg hc, List.map_cons, List.sum_cons]
  rw [hwords, Word.sum_map_ofNat, UInt64.toNat_ofNat', ← hnat]
  have : (clients.map fun c => (f c).toNat).sum < 2 ^ 64 := by omega
  rw [Nat.mod_eq_of_lt this]

/-- On clients that were sampled together the overview sample has the totals of the frontend. -/
theorem overviewSampleOf_sumTotals {cfg : CollectorConfig} (hcfg : SafeThresholds cfg)
    {clients : List ClientJson} (hsnap : OneSnapshot clients)
    (hsafe : SafeFields clients) (ms : UInt64) (totals : ConnTotals) (overview : ActiveFields) :
    let slot := overviewSampleOf cfg ms totals clients
    let shown := sumTotals clients (activeConfig (statusActiveFields cfg) overview)
    (slot.txBps.toNat : ℤ) = shown.tx ∧ (slot.rxBps.toNat : ℤ) = shown.rx ∧
      slot.activeClients.toNat = shown.active := by
  dsimp only
  have htx : ∀ c ∈ clients, 0 ≤ c.txBps := fun c hc => (hsafe.nonneg c hc).1
  have hrx : ∀ c ∈ clients, 0 ≤ c.rxBps := fun c hc => (hsafe.nonneg c hc).2.1
  have hactive : clients.countP (fun c => isActiveClient c (latestClientSampleMs clients)
      ⟨cfg.activeClientWindowMs.toNat, cfg.activeClientMinBps.toNat⟩) =
        clients.countP (clientIsActive cfg) := by
    obtain ⟨ms, hms⟩ := hsnap.sampleMs
    apply List.countP_congr
    intro c hc
    have hnonneg := hsafe.nonneg c hc
    have htimes := hsafe.times c hc
    have hlatest : latestClientSampleMs clients = c.sampleMs := by
      rw [hms c hc] at hnonneg htimes ⊢
      exact latestClientSampleMs_eq hnonneg.2.2.1 htimes.1 hms (List.ne_nil_of_mem hc)
    rw [hlatest, isActiveClient_eq hcfg hnonneg htimes ((le_sum_of_mem htx hc).trans_lt hsafe.tx)
      ((le_sum_of_mem hrx hc).trans_lt hsafe.rx)]
  have hcount : clients.countP (clientIsActive cfg) < 2 ^ 32 :=
    (List.countP_le_length.trans hsnap.length_le).trans_lt (by decide)
  rw [activeConfig_status hcfg, sumTotals,
    foldl_sumTotals (fun c hc => ⟨htx c hc, hrx c hc⟩) le_rfl le_rfl
    (by simpa using hsafe.tx) (by simpa using hsafe.rx), hactive]
  refine ⟨?_, ?_, ?_⟩
  · exact (toNat_sum_jsonUint64Value htx hsafe.tx).trans (zero_add _).symm
  · exact (toNat_sum_jsonUint64Value hrx hsafe.rx).trans (zero_add _).symm
  · exact (UInt32.toNat_ofNat_of_lt' hcount).trans (zero_add _).symm

/-! ## The replies of the collectors -/

section Collectors

variable {cfg : CollectorConfig} {st : CollectorState}

theorem oneSnapshot_nil : OneSnapshot [] :=
  ⟨⟨0, fun _ hc => absurd hc List.not_mem_nil⟩, Nat.zero_le _⟩

/-- The clients that are made from a table at one time are one snapshot. -/
theorem oneSnapshot_map {α : Type*} {f : α → ClientJson} (ms : ℤ) (hf : ∀ a, (f a).sampleMs = ms)
    {samples : List α} (hlen : samples.length ≤ defaultMaxClients) : OneSnapshot (samples.map f) :=
  ⟨⟨ms, List.forall_mem_map.mpr fun a _ => hf a⟩, by rwa [List.length_map]⟩

/-- Merging the connections of a client keeps the time of its sample. -/
theorem sampleMs_mergeClient (table : List ConntrackClientSample) (c : ClientJson) :
    (mergeClient table c).sampleMs = c.sampleMs := by
  unfold mergeClient
  split <;> rfl

/-- The merge leaves the samples alone. -/
theorem OneSnapshot.merge {nowMs : UInt64} (read : ConntrackRead nowMs) {reply : ClientsReply}
    (h : OneSnapshot reply.clients) :
    OneSnapshot (mergeConntrackConnCounts cfg read reply).clients := by
  unfold mergeConntrackConnCounts
  split
  · exact h
  · obtain ⟨ms, hms⟩ := h.sampleMs
    refine ⟨⟨ms, List.forall_mem_map.mpr fun c hc => ?_⟩, by simpa using h.length_le⟩
    rw [sampleMs_mergeClient, hms c hc]

variable (cfg) in
/-- The reply of a path is one snapshot, where the tables are not too long. -/
theorem oneSnapshot_reply {inp : ClientsInput}
    (hnss : ∀ table, inp.nssRead.table = some table → table.samples.length ≤ defaultMaxClients)
    (hconntrack : ∀ table, inp.conntrackRead.table = some table →
      table.samples.length ≤ defaultMaxClients)
    (hst : st.bpfCurrentSamples.length ≤ defaultMaxClients) {path : ClientsPath}
    (hpath : path.From inp st) : OneSnapshot (path.reply cfg inp st).clients := by
  cases hpath with
  | nss htable =>
    exact OneSnapshot.merge inp.mergeRead
      (oneSnapshot_map (jsonInt64 inp.nssNowMs) (fun _ => rfl) (hnss _ htable))
  | conntrack htable =>
    exact oneSnapshot_map (jsonInt64 inp.conntrackNowMs) (fun _ => rfl) (hconntrack _ htable)
  | bpf =>
    exact OneSnapshot.merge inp.mergeRead
      (oneSnapshot_map (jsonInt64 st.bpfCurrentSnapshotMs) (fun _ => rfl) hst)
  | empty => exact oneSnapshot_nil

end Collectors

/-- On a reply of `clients_method`, after any run of the daemon, the overview sample has the totals
that the frontend computes from the reply. -/
theorem overview_agrees_with_sumTotals (cfg : CollectorConfig)
    (hcfg : SafeThresholds cfg) (enabled : Bool)
    (evs : List DaemonEvent) (inp : ClientsFileInput) (overview : ActiveFields) :
    let result := clientsMethod cfg (inp.input cfg)
      (Machine.run (daemonStep cfg) (CollectorState.init enabled) evs)
    SafeFields result.1.clients → ∃ slot, result.2.overviewRing.sampleAt 0 = some slot ∧
      let shown := sumTotals result.1.clients (activeConfig (statusActiveFields cfg) overview)
      (slot.txBps.toNat : ℤ) = shown.tx ∧ (slot.rxBps.toNat : ℤ) = shown.rx ∧
        slot.activeClients.toNat = shown.active := by
  intro result hsafe
  have hst :
      (clientsRefresh cfg (inp.input cfg)
      (Machine.run (daemonStep cfg) (CollectorState.init enabled)
      evs)).bpfCurrentSamples.length ≤ defaultMaxClients :=
    length_clientsRefresh_le _ (length_bpfCurrentSamples_run_le cfg enabled evs)
  have hsnap : OneSnapshot result.1.clients := by
    have hreply := oneSnapshot_reply cfg length_nssReadOf_le length_conntrackReadOf_le hst
      (clientsPath_from cfg (inp.input cfg) _)
    rw [← collectClients_eq_reply] at hreply
    exact hreply
  exact ⟨_, RingBuffer.sampleAt_push_zero _ _,
    overviewSampleOf_sumTotals hcfg hsnap hsafe _ _ overview⟩

/-- A call with BPF metrics available. -/
def oneClientCall : ClientsFileInput where
  switched := false
  collect := collectOneClient 2 1000
  env := burstEnv
  nssNowMs := 2
  nssArpFile := none
  nssStateFile := none
  conntrackNowMs := 2
  conntrackFiles := ⟨none, .unavailable, none, none, none⟩
  mergeNowMs := 2
  mergeFiles := ⟨none, .unavailable, none, none, none⟩
  overviewMs := 2

/-- A client that sends 1000 bytes between two collections: both sides add it up to the
same totals. -/
theorem overview_agrees_oneClient :
    let result := clientsMethod bpfConfig (oneClientCall.input bpfConfig)
      (Machine.run (daemonStep bpfConfig) (CollectorState.init true) [tickAt 1 0, tickAt 2 1000])
    result.1.clients.length = 1 ∧ ∃ slot, result.2.overviewRing.sampleAt 0 = some slot ∧
      let shown := sumTotals result.1.clients (activeConfig (statusActiveFields bpfConfig) {})
      (slot.txBps.toNat : ℤ) = shown.tx ∧ (slot.rxBps.toNat : ℤ) = shown.rx ∧
        slot.activeClients.toNat = shown.active := by
  intro result
  have hclients : result.1.clients.map (fun c => (c.txBps, c.rxBps, c.sampleMs, c.lastSeen)) =
      [(8000000, 0, 2, 2)] := by decide +kernel
  have hrow :
      ∀ c ∈ result.1.clients, (c.txBps, c.rxBps, c.sampleMs, c.lastSeen) = (8000000, 0, 2, 2) := by
    intro c hc
    exact List.mem_singleton.mp (hclients ▸ List.mem_map_of_mem hc)
  have htx : result.1.clients.map (·.txBps) = [8000000] := by
    have h := congrArg (List.map Prod.fst) hclients
    rwa [List.map_map] at h
  have hrx : result.1.clients.map (·.rxBps) = [0] := by
    have h := congrArg (List.map fun row => row.2.1) hclients
    rwa [List.map_map] at h
  refine ⟨by simpa using congrArg List.length hclients,
    overview_agrees_with_sumTotals bpfConfig ⟨by decide, by decide, by decide, by decide⟩ true
      [tickAt 1 0, tickAt 2 1000] oneClientCall {} ⟨?_, ?_, ?_, ?_⟩⟩
  · intro c hc
    have h := hrow c hc
    simp only [Prod.mk.injEq] at h
    omega
  · intro c hc
    have h := hrow c hc
    simp only [Prod.mk.injEq] at h
    rw [h.2.2.1, h.2.2.2]
    decide
  · rw [htx]
    decide
  · rw [hrx]
    decide

end Lanspeed
