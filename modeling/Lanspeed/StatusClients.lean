import Lanspeed.Paths
import Lanspeed.Status

/-!
# The confidence of the clients

The status announces a confidence, and every client of a reply carries one. `clients_method` may end
up with another collector than the one that the status announces. The two confidences are the same
exactly when it does not, or when BPF stands in for NSS direct (`confidence_announced_iff`).
-/

namespace Lanspeed

/-! ## The paths -/

/-- The source of a path, in the words of `collector_primary_source`. -/
def ClientsPath.source : ClientsPath → CStr
  | .nss _ => "nss_ecm_direct".toList
  | .conntrack _ => "nss_conntrack_sync".toList
  | .bpf _ => "bpf".toList
  | .empty => "unsupported".toList

/-- The clients that were read from conntrack are announced as the NSS sync. -/
theorem ClientsPath.source_conntrack (samples : List ConntrackClientSample) :
    (ClientsPath.conntrack samples).source = "nss_conntrack_sync".toList :=
  rfl

theorem ClientsPath.source_bpf (samples : List BpfClientSample) :
    (ClientsPath.bpf samples).source = "bpf".toList := rfl

/-- The confidence of the clients on a path. -/
def ClientsPath.confidence (cfg : CollectorConfig) (probe : RuntimeProbe) : ClientsPath → CStr
  | .conntrack _ => conntrackFallbackConfidence cfg probe
  | _ => "high".toList

section Clients

variable {cfg : CollectorConfig} {inp : ClientsInput} {st : CollectorState}

/-- Merging the connections of a client keeps its confidence. -/
theorem confidence_mergeClient (table : List ConntrackClientSample) (client : ClientJson) :
    (mergeClient table client).confidence = client.confidence := by
  unfold mergeClient
  split <;> rfl

/-- The merge keeps what all clients have for a confidence. -/
theorem forall_confidence_merge {nowMs : UInt64} (read : ConntrackRead nowMs)
    {reply : ClientsReply} {conf : CStr} (h : ∀ client ∈ reply.clients, client.confidence = conf) :
    ∀ client ∈ (mergeConntrackConnCounts cfg read reply).clients, client.confidence = conf := by
  unfold mergeConntrackConnCounts
  split
  · exact h
  · refine List.forall_mem_map.mpr fun client hclient => ?_
    rw [confidence_mergeClient, h client hclient]

/-- All clients of a reply have the confidence of the path they came by. -/
theorem confidence_of_mem_reply (path : ClientsPath) :
    ∀ client ∈ (path.reply cfg inp st).clients, client.confidence =
      path.confidence cfg inp.env.probe := by
  cases path with
  | nss samples =>
    exact forall_confidence_merge inp.mergeRead (List.forall_mem_map.mpr fun _ _ => rfl)
  | conntrack samples => exact List.forall_mem_map.mpr fun _ _ => rfl
  | bpf samples =>
    exact forall_confidence_merge inp.mergeRead (List.forall_mem_map.mpr fun _ _ => rfl)
  | empty => exact fun client hclient => absurd hclient List.not_mem_nil

/-- What the collector of a path needs. -/
def ClientsPath.Open (cfg : CollectorConfig) (inp : ClientsInput) (st : CollectorState) :
    ClientsPath → Prop
  | .nss _ => nssEcmDirectPreferred cfg inp.env.probe = true
  | .conntrack _ => conntrackClientsReadActive cfg inp.env.probe = true
  | .bpf _ => bpfFullAvailable cfg inp.env st = true
  | .empty => True

/-- The path over the BPF map is taken only where BPF is full, or gives no clients. -/
theorem bpfPath_open : (bpfPath cfg inp st).Open cfg inp st := by
  unfold bpfPath
  split_ifs with hclients
  · by_contra hopen
    have hclosed : bpfFullAvailable cfg inp.env st = false := Bool.not_eq_true _ ▸ hopen
    rw [bpfFullAvailable] at hclosed
    rw [collectBpfClients, hclosed, if_pos (by decide)] at hclients
    exact absurd hclients (by decide)
  · trivial

/-- The path over conntrack is taken only where its condition holds. -/
theorem conntrackPath_open : (conntrackPath cfg inp st).Open cfg inp st := by
  unfold conntrackPath
  split_ifs with hactive
  · cases inp.conntrackRead.table with
    | some table => exact hactive
    | none => exact bpfPath_open
  · exact bpfPath_open

/-- The path that is taken is one whose condition holds. -/
theorem clientsPath_open : (clientsPath cfg inp st).Open cfg inp st := by
  unfold clientsPath
  split_ifs with hdirect
  · cases inp.nssRead.table with
    | some table => exact hdirect
    | none => exact conntrackPath_open
  · exact conntrackPath_open
  · exact bpfPath_open

/-- Conntrack is read for clients only where NSS syncs its counters to it. -/
theorem nssConntrackSyncPreferred_of_read {probe : RuntimeProbe}
    (h : conntrackClientsReadActive cfg probe = true) :
    nssConntrackSyncPreferred cfg probe = true := by
  unfold conntrackClientsReadActive at h
  split_ifs at h with hfallback hdirect
  · simp only [conntrackFallbackActive, conntrackPrimaryPreferred,
      Bool.and_eq_true, Bool.or_eq_true, Bool.not_eq_true'] at hfallback
    obtain ⟨⟨⟨-, hprimary⟩, hdirect⟩, -⟩ := hfallback
    exact hprimary.resolve_left (by rw [hdirect]; decide)
  · exact (Bool.and_eq_true _ _ ▸ h).2

/-- Without NSS direct, conntrack serves clients as the fallback. -/
theorem conntrackFallbackActive_of_read {probe : RuntimeProbe}
    (h : conntrackClientsReadActive cfg probe = true)
    (hdirect : nssEcmDirectPreferred cfg probe = false) :
    conntrackFallbackActive cfg probe = true := by
  by_contra hfallback
  rw [conntrackClientsReadActive, if_neg hfallback, if_neg (by simp [hdirect])] at h
  exact absurd h (by decide)

/-- Under NSS direct the fallback is not active, and its clients are marked as unsupported. -/
theorem conntrackFallbackConfidence_of_direct {probe : RuntimeProbe}
    (h : nssEcmDirectPreferred cfg probe = true) :
    conntrackFallbackConfidence cfg probe = "unsupported".toList := by
  have hfallback : conntrackFallbackActive cfg probe = false := by
    rw [conntrackFallbackActive, h, Bool.not_true, Bool.and_false, Bool.false_and]
  rw [conntrackFallbackConfidence, hfallback]
  exact if_pos rfl

/-- A call of `clients_method` that meets the router, and the gate of the BPF collector, as the
status call does. -/
structure MeetsTheSame (c : RuntimeCall) (inp : ClientsInput) (st : CollectorState) : Prop where
  probe : inp.env.probe = c.probe.toRuntimeProbe
  mode : c.bpfFull c.modeMs = bpfFullAvailable c.cfg.collector inp.env st
  source : c.bpfFull c.sourceMs = bpfFullAvailable c.cfg.collector inp.env st

end Clients

/-! ## What the status announces -/

namespace RuntimeCall

variable (c : RuntimeCall)

/-- With the direct ECM source the announced confidence is high. -/
theorem probeConfidence_of_direct
    (h : nssEcmDirectPreferred c.cfg.collector c.probe.toRuntimeProbe = true) :
    c.probeConfidence = "high".toList :=
  c.probeConfidence_eq_high_iff.mpr (c.probeMode_eq_full_iff.mpr (.inl h))

/-- The direct ECM source is announced where it is preferred. -/
theorem collectorPrimarySource_of_direct (now : UInt64)
    (h : nssEcmDirectPreferred c.cfg.collector c.probe.toRuntimeProbe = true) :
    c.collectorPrimarySource now = "nss_ecm_direct".toList :=
  if_pos h

/-- The NSS sync is announced where it is preferred and the direct source is not. -/
theorem collectorPrimarySource_of_sync (now : UInt64)
    (hdirect : nssEcmDirectPreferred c.cfg.collector c.probe.toRuntimeProbe = false)
    (hsync : nssConntrackSyncPreferred c.cfg.collector c.probe.toRuntimeProbe = true) :
    c.collectorPrimarySource now = "nss_conntrack_sync".toList :=
  (if_neg (Bool.not_eq_true _ ▸ hdirect)).trans (if_pos hsync)

/-- BPF is announced where no NSS source is preferred and its metrics are live. -/
theorem collectorPrimarySource_of_bpf {now : UInt64}
    (hdirect : nssEcmDirectPreferred c.cfg.collector c.probe.toRuntimeProbe = false)
    (hsync : nssConntrackSyncPreferred c.cfg.collector c.probe.toRuntimeProbe = false)
    (hactive : c.bpfPrimaryActive now = true) : c.collectorPrimarySource now = "bpf".toList :=
  (if_neg (Bool.not_eq_true _ ▸ hdirect)).trans
    ((if_neg (Bool.not_eq_true _ ▸ hsync)).trans (if_pos hactive))

/-- Where conntrack serves the clients as the fallback, the status has their confidence. -/
theorem probeConfidence_of_fallback
    (h : conntrackFallbackActive c.cfg.collector c.probe.toRuntimeProbe = true) :
    c.probeConfidence = conntrackFallbackConfidence c.cfg.collector c.probe.toRuntimeProbe := by
  have hprimary := h
  simp only [conntrackFallbackActive, Bool.and_eq_true, Bool.not_eq_true'] at hprimary
  obtain ⟨⟨⟨-, hprimary⟩, hdirect⟩, -⟩ := hprimary
  have hmode : c.probeMode = .degraded := by
    unfold probeMode
    dsimp only
    rw [hdirect, h, hprimary, Bool.not_true, Bool.and_false]
    rfl
  unfold probeConfidence conntrackFallbackConfidence
  dsimp only
  rw [hmode, h, if_neg (by decide), if_neg (by decide : ¬ (!true) = true)]
  split_ifs with herror hlow hlow
  · rfl
  · -- An error makes the confidence of the fallback low too.
    refine absurd ?_ hlow
    unfold conntrackFallbackLowConfidence
    dsimp only
    rw [h, Bool.true_and, Bool.or_assoc, herror, Bool.or_true]
  all_goals first | rfl | contradiction

end RuntimeCall

/-- The clients of a reply carry the confidence that the status announces exactly when the collector
that serves them is the one that it announces, or BPF stands in for NSS direct. -/
theorem confidence_announced_iff (c : RuntimeCall) {inp : ClientsInput} {st : CollectorState}
    (h : MeetsTheSame c inp st)
    (hclients : (collectClients c.cfg.collector inp st).1.clients ≠ []) :
    (∀ client ∈ (collectClients c.cfg.collector inp st).1.clients,
      client.confidence = c.probeConfidence) ↔
      ((clientsPath c.cfg.collector inp st).source = c.collectorPrimarySource c.sourceMs ∨
        nssEcmDirectPreferred c.cfg.collector c.probe.toRuntimeProbe = true ∧
          (clientsPath c.cfg.collector inp st).source = "bpf".toList) := by
  have hopen : (clientsPath c.cfg.collector inp st).Open c.cfg.collector inp st := clientsPath_open
  have hconfidence : (∀ client ∈ (collectClients c.cfg.collector inp st).1.clients,
      client.confidence = c.probeConfidence) ↔
        (clientsPath c.cfg.collector inp st).confidence c.cfg.collector inp.env.probe =
          c.probeConfidence := by
    rw [collectClients_eq_reply] at hclients ⊢
    have hreply :
        ∀ client ∈ ((clientsPath c.cfg.collector inp st).reply c.cfg.collector inp st).clients,
        client.confidence = _ := confidence_of_mem_reply _
    constructor
    · intro hall
      obtain ⟨client, hclient⟩ := List.exists_mem_of_ne_nil _ hclients
      exact (hreply client hclient).symm.trans (hall client hclient)
    · exact fun heq client hclient => (hreply client hclient).trans heq
  rw [collectClients_eq_reply] at hclients
  rw [hconfidence, h.probe]
  cases hpath : clientsPath c.cfg.collector inp st with
  | nss samples =>
    rw [hpath] at hopen
    have hdirect :
        nssEcmDirectPreferred c.cfg.collector c.probe.toRuntimeProbe = true := h.probe ▸ hopen
    exact iff_of_true (c.probeConfidence_of_direct hdirect).symm
      (.inl (c.collectorPrimarySource_of_direct c.sourceMs hdirect).symm)
  | conntrack samples =>
    rw [hpath] at hopen
    have hread :
        conntrackClientsReadActive c.cfg.collector c.probe.toRuntimeProbe = true := h.probe ▸ hopen
    have hsync := nssConntrackSyncPreferred_of_read hread
    by_cases hdirect : nssEcmDirectPreferred c.cfg.collector c.probe.toRuntimeProbe = true
    · rw [c.collectorPrimarySource_of_direct c.sourceMs hdirect,
        c.probeConfidence_of_direct hdirect, ClientsPath.confidence,
        conntrackFallbackConfidence_of_direct hdirect, ClientsPath.source_conntrack]
      exact iff_of_false (by decide) (by simp)
    · rw [Bool.not_eq_true] at hdirect
      have hfallback := conntrackFallbackActive_of_read hread hdirect
      exact iff_of_true (c.probeConfidence_of_fallback hfallback).symm
        (.inl (c.collectorPrimarySource_of_sync c.sourceMs hdirect hsync).symm)
  | bpf samples =>
    rw [hpath] at hopen
    have hmode : c.bpfFull c.modeMs = true := h.mode.trans hopen
    have hsource : c.bpfFull c.sourceMs = true := h.source.trans hopen
    by_cases hdirect : nssEcmDirectPreferred c.cfg.collector c.probe.toRuntimeProbe = true
    · exact iff_of_true (c.probeConfidence_of_direct hdirect).symm (.inr ⟨hdirect, rfl⟩)
    · rw [Bool.not_eq_true] at hdirect
      by_cases hsync : nssConntrackSyncPreferred c.cfg.collector c.probe.toRuntimeProbe = true
      · have hconfidence : c.probeConfidence ≠ "high".toList := by
          rw [Ne, c.probeConfidence_eq_high_iff, c.probeMode_eq_full_iff, hdirect,
            c.bpfPrimaryActive_of_not_direct _ hdirect, hsync]
          simp
        rw [c.collectorPrimarySource_of_sync c.sourceMs hdirect hsync,
          ClientsPath.source_bpf, hdirect]
        exact iff_of_false hconfidence.symm (by decide)
      · rw [Bool.not_eq_true] at hsync
        have hactive : ∀ now, c.bpfFull now = true → c.bpfPrimaryActive now = true := by
          intro now hnow
          rw [c.bpfPrimaryActive_of_not_direct now hdirect, hnow, hsync]
          rfl
        have hconfidence : c.probeConfidence = "high".toList :=
          c.probeConfidence_eq_high_iff.mpr (c.probeMode_eq_full_iff.mpr (.inr (hactive _ hmode)))
        exact iff_of_true hconfidence.symm
          (.inl (c.collectorPrimarySource_of_bpf hdirect hsync (hactive _ hsource)).symm)
  | empty =>
    rw [hpath] at hclients
    exact absurd rfl hclients

/-- A call on a router with NSS whose state device is there, and whose counters are synced to
conntrack. -/
def nssStateCall : RuntimeCall where
  router :=
    { commandExists := fun _ => false
      popen         := fun _ => none
      fileExists    := fun path =>
        path ∈ ["/sys/module/qca_nss_drv".toList, "/sys/module/ecm".toList, "/dev/ecm_state".toList]
      dirHasEntries := fun _ => false
      readFile      := fun path =>
        if path = "/proc/sys/net/netfilter/nf_conntrack_acct".toList then some "1\n".toList
          else none
      uciLoad       := fun _ => some none }
  cfg := {}
  bpfRuntimeEnabled := false
  status := {}
  inspectMs := 0
  warnMs := 0
  modeMs := 0
  sourceMs := 0
  bpfMs := 0
  liveMs := 0

/-- A call for the clients on that router whose state device cannot be read: conntrack
serves them. -/
def stateUnreadable : ClientsInput where
  switched := false
  collect := collectOneClient 3000 0
  env :=
    { probe := nssStateCall.probe.toRuntimeProbe
      status := {}
      nowMs := 0
      hostnameLookup := fun _ _ => none }
  nssNowMs := 3000
  nssRead := { table := none }
  conntrackNowMs := 3000
  conntrackRead := (readOneClient 3000 5000).read
  mergeNowMs := 3000
  mergeRead := { table := none }
  overviewMs := 3000

/-- A status call while the file of the ECM state cannot be read. -/
theorem confidence_announced_iff_unreadable :
    (∀ client ∈ (collectClients nssStateCall.cfg.collector stateUnreadable (.init false)).1.clients,
        client.confidence = nssStateCall.probeConfidence) ↔
      ((clientsPath nssStateCall.cfg.collector stateUnreadable (.init false)).source =
          nssStateCall.collectorPrimarySource nssStateCall.sourceMs ∨
        nssEcmDirectPreferred nssStateCall.cfg.collector nssStateCall.probe.toRuntimeProbe = true ∧
          (clientsPath nssStateCall.cfg.collector stateUnreadable (.init false)).source =
            "bpf".toList) :=
  confidence_announced_iff nssStateCall ⟨rfl, rfl, rfl⟩ (by decide +kernel)

end Lanspeed
