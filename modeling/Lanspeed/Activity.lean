import Lanspeed.BpfRates
import Lanspeed.Overview

/-!
# A collection tick while frames arrive

`bpf_collect_samples` reads the clock first and then the map, entry by entry, while frames go on
setting the last-seen times of the entries. A tick is a run of timed events, in which the daemon
makes its steps in program order. A busy client is counted as active when no entry that the tick
copied was touched in a later millisecond than that of the clock read: `active_when_busy_iff`.
-/

namespace Lanspeed

/-- What happens at one moment of a tick. -/
inductive TickEvent where
  | daemon (fault : Option ℤ)
  | frame (key : LanspeedKey) (len : UInt32)
  | connection (key : LanspeedKey) (proto : UInt8)
  | evict (key : LanspeedKey)
deriving DecidableEq, Repr

/-- A tick in progress: the time of the last event, the clock value once the daemon has read it, the
map and its reader, and the time at which each sample was copied. -/
structure TickState (bucketOf : LanspeedKey → ℕ) where
  clockNs : UInt64
  nowMs : Option UInt64
  read : ReadState bucketOf
  copiedAtNs : List UInt64

section Tick

variable {bucketOf : LanspeedKey → ℕ}

/-- A tick before its first step. -/
def TickState.start (m : ClientsMap bucketOf) (objectLoaded : Bool) (max : ℕ) :
    TickState bucketOf :=
  { clockNs := 0
    nowMs := none
    read := ⟨m, Reader.start objectLoaded max⟩
    copiedAtNs := [] }

/-- One event at its time. The first step of the daemon reads the clock; the others are the calls of
the reader. -/
def tickStep (max : ℕ) (st : TickState bucketOf) (e : UInt64 × TickEvent) : TickState bucketOf :=
  match e.2 with
  | .daemon fault =>
    match st.nowMs with
    | none => { st with clockNs := e.1, nowMs := some (monotonicNsToMs e.1) }
    | some _ =>
      let read := readStep max st.read (.call fault)
      { st with
        clockNs := e.1
        read
        copiedAtNs :=
          if st.read.reader.written.length < read.reader.written.length then st.copiedAtNs ++ [e.1]
          else st.copiedAtNs }
  | .frame key len => { st with clockNs := e.1, read := readStep max st.read (.frame key len e.1) }
  | .connection key proto =>
    { st with clockNs := e.1, read := readStep max st.read (.connection key proto) }
  | .evict key => { st with clockNs := e.1, read := readStep max st.read (.evict key) }

/-- The clock does not go back. -/
def ClockMonotone (st : TickState bucketOf) (e : UInt64 × TickEvent) : Prop := st.clockNs ≤ e.1

instance (st : TickState bucketOf) (e : UInt64 × TickEvent) : Decidable (ClockMonotone st e) :=
  inferInstanceAs (Decidable (_ ≤ _))

/-- The samples that were copied, each with the time at which it was. -/
def TickState.log (st : TickState bucketOf) : List (LanspeedBpfSample × UInt64) :=
  st.read.reader.written.zip st.copiedAtNs

/-- Nothing is copied before the clock is read. -/
structure ClockReadFirst (st : TickState bucketOf) : Prop where
  length_eq : st.copiedAtNs.length = st.read.reader.written.length
  nothing_before : st.nowMs = none → st.copiedAtNs = []
  clock_read : ∀ now, st.nowMs = some now → now.toNat * 1000000 ≤ st.clockNs.toNat
  copied_after : ∀ now, st.nowMs = some now → ∀ t ∈ st.copiedAtNs, now.toNat * 1000000 ≤ t.toNat

/-- A tick that begins has read nothing. -/
theorem clockReadFirst_start (m : ClientsMap bucketOf) (objectLoaded : Bool) (max : ℕ) :
    ClockReadFirst (TickState.start m objectLoaded max) := by
  refine ⟨?_, fun _ => rfl, fun now h => absurd h (by simp [TickState.start]),
    fun now h => absurd h (by simp [TickState.start])⟩
  simp only [TickState.start, Reader.start]
  split_ifs <;> rfl

theorem toNat_monotonicNsToMs (ns : UInt64) : (monotonicNsToMs ns).toNat = ns.toNat / 1000000 :=
  UInt64.toNat_div ns 1000000

/-- A millisecond count that comes from a nanosecond clock is far below `2 ^ 63`. -/
theorem toNat_monotonicNsToMs_lt (ns : UInt64) : (monotonicNsToMs ns).toNat < 2 ^ 63 := by
  have := ns.toNat_lt
  rw [toNat_monotonicNsToMs]
  omega

/-- A call of the reader copies at most one sample. -/
theorem Reader.call_written {m : ClientsMap bucketOf} (max : ℕ) (fault : Option ℤ) (r : Reader) :
    (r.call max m fault).written = r.written ∨
      ∃ sample, (r.call max m fault).written = r.written ++ [sample] := by
  cases hres : r.result with
  | some res => exact .inl (by simp only [Reader.call, hres])
  | none =>
    cases hnext : r.nextKey with
    | none =>
      rcases Reader.call_getNextKey max hres hnext fault with ⟨_, h⟩ | ⟨_, _, h⟩ <;>
        exact .inl (by rw [h])
    | some key =>
      rcases (Reader.call_lookup (m := m) max hres hnext fault).2.2 with h | ⟨_, -, h⟩
      · exact .inl h
      · exact .inr ⟨_, h⟩

/-- Events that leave the reader alone keep the order of clock read and copies. -/
theorem ClockReadFirst.world {st : TickState bucketOf} (h : ClockReadFirst st) {t : UInt64}
    (ht : st.clockNs ≤ t) {read : ReadState bucketOf}
    (hreader : read.reader.written = st.read.reader.written) :
    ClockReadFirst { st with clockNs := t, read := read } :=
  ⟨hreader ▸ h.length_eq, h.nothing_before,
    fun now hnow => (h.clock_read now hnow).trans (UInt64.le_iff_toNat_le.mp ht), h.copied_after⟩

/-- A step with a clock that goes on keeps the order of the readings. -/
theorem ClockReadFirst.step {st : TickState bucketOf} (h : ClockReadFirst st) (max : ℕ)
    {e : UInt64 × TickEvent} (he : ClockMonotone st e) : ClockReadFirst (tickStep max st e) := by
  obtain ⟨t, ev⟩ := e
  have ht : st.clockNs ≤ t := he
  cases ev with
  | frame key len => exact h.world ht rfl
  | connection key proto => exact h.world ht rfl
  | evict key => exact h.world ht rfl
  | daemon fault =>
    cases hnow : st.nowMs with
    | none =>
      -- The first step of the daemon reads the clock: nothing has been copied, so the bound is new.
      have hempty := h.nothing_before hnow
      simp only [tickStep, hnow]
      refine ⟨h.length_eq, fun h' => absurd h' (by simp), fun now hnow' => ?_,
        fun now _ t' ht' => ?_⟩
      · rw [← Option.some.inj hnow', toNat_monotonicNsToMs]
        exact Nat.div_mul_le_self _ _
      · rw [hempty] at ht'
        exact absurd ht' List.not_mem_nil
    | some now =>
      -- A later step is a call of the reader, at a time after the clock read.
      have hclock : now.toNat * 1000000 ≤ t.toNat :=
        (h.clock_read now hnow).trans (UInt64.le_iff_toNat_le.mp ht)
      simp only [tickStep, hnow, readStep]
      refine ⟨?_, fun h' => absurd h' (by simp), fun now' hnow' => ?_, fun now' hnow' t' ht' => ?_⟩
      · rcases Reader.call_written (m := st.read.clients) max fault st.read.reader with hw | ⟨_, hw⟩
        · simp [hw, h.length_eq]
        · simp [hw, h.length_eq]
      · exact Option.some.inj hnow' ▸ hclock
      · obtain rfl := Option.some.inj hnow'
        have hmem : t' ∈ st.copiedAtNs ∨ t' = t := by
          by_cases hcopied : st.read.reader.written.length
              < (st.read.reader.call max st.read.clients fault).written.length
          · simpa [hcopied] using ht'
          · exact .inl (by simpa [hcopied] using ht')
        rcases hmem with hmem | rfl
        · exact h.copied_after now hnow t' hmem
        · exact hclock

/-- At the end of every tick, everything was copied after the clock was read. -/
theorem clockReadFirst_run (m : ClientsMap bucketOf) (objectLoaded : Bool) (max : ℕ)
    {evs : List (UInt64 × TickEvent)}
    (hclock : Machine.Along (tickStep max) ClockMonotone (TickState.start m objectLoaded max) evs) :
    ClockReadFirst (Machine.run (tickStep max) (TickState.start m objectLoaded max) evs) :=
  Machine.run_invariant_along (tickStep max) (fun _ _ h he => h.step max he)
    (clockReadFirst_start m objectLoaded max) hclock

/-- The samples of the log are the samples that were copied. -/
theorem ClockReadFirst.map_fst_log {st : TickState bucketOf} (h : ClockReadFirst st) :
    st.log.map Prod.fst = st.read.reader.written :=
  List.map_fst_zip (by rw [h.length_eq])

end Tick

/-! ## Busy clients -/

/-- The outcome of `lanspeed_bpf_read_samples`. -/
def Reader.outcome (r : Reader) : Option (List LanspeedBpfSample) :=
  match r.result with
  | some (.ok ()) => some r.written
  | _ => none

/-- What `bpf_collect_samples` works with in a tick that has read the clock at `now`. -/
def TickState.collectInput {bucketOf : LanspeedKey → ℕ} (st : TickState bucketOf) (now : UInt64)
    (ifIndexToName : UInt32 → Option CStr) (arp : List ArpEntry) : CollectInput :=
  { nowMs := now, read := st.read.reader.outcome, ifIndexToName, arp }

/-- The published rates of a client reach the minimum of an active client. -/
def ClientBusy (cfg : CollectorConfig) (client : ClientJson) : Prop :=
  cfg.activeClientMinBps.toNat ≤ client.txBps + client.rxBps

instance (cfg : CollectorConfig) (client : ClientJson) : Decidable (ClientBusy cfg client) :=
  inferInstanceAs (Decidable (_ ≤ _))

/-- When the entry of the client's last frame was copied, that frame was at most the active window
old. -/
def LastFrameRecent (cfg : CollectorConfig) (env : FoldEnv)
    (log : List (LanspeedBpfSample × UInt64)) (key : CStr) : Prop :=
  ∃ e ∈ log, rawKey env e.1 = some key ∧
    (∀ e' ∈ log, rawKey env e'.1 = some key → e'.1.lastSeenNs.toNat ≤ e.1.lastSeenNs.toNat) ∧
    e.2.toNat ≤ e.1.lastSeenNs.toNat + cfg.activeClientWindowMs.toNat * 1000000

/-- No client was last seen after its sample, and every busy client with a recent last frame is
counted as active. -/
def ActiveWhenBusy (cfg : CollectorConfig) (env : FoldEnv)
    (log : List (LanspeedBpfSample × UInt64)) (clients : List ClientJson) : Prop :=
  ∀ c ∈ clients, c.lastSeen ≤ c.sampleMs ∧
    (ClientBusy cfg c → LastFrameRecent cfg env log c.identityKey → clientIsActive cfg c = true)

/-- No copied entry of a client had its last frame in a later millisecond than that of the clock
read. -/
def NoLateFrame (env : FoldEnv) (log : List (LanspeedBpfSample × UInt64)) : Prop :=
  ∀ e ∈ log, rawKey env e.1 ≠ none → (monotonicNsToMs e.1.lastSeenNs).toNat ≤ env.nowMs.toNat

/-- Every busy client with a recent last frame was seen after the first millisecond of the clock. -/
def SeenAfterBoot (cfg : CollectorConfig) (env : FoldEnv) (log : List (LanspeedBpfSample × UInt64))
    (clients : List ClientJson) : Prop :=
  ∀ c ∈ clients, ClientBusy cfg c → LastFrameRecent cfg env log c.identityKey →
    ∃ e ∈ log, rawKey env e.1 = some c.identityKey ∧ 0 < (rawSeenMs env.nowMs e.1).toNat

/-- The published rates of a busy client are active rates. -/
theorem ClientBusy.hasActiveRate {cfg : CollectorConfig} {tx rx : UInt64}
    (h : (cfg.activeClientMinBps.toNat : ℤ) ≤ jsonInt64 tx + jsonInt64 rx) :
    clientHasActiveRate cfg (jsonUint64Value (jsonInt64 tx)) (jsonUint64Value (jsonInt64 rx))
      = true := by
  have htx := jsonInt64_le_toNat_jsonUint64Value tx
  have hrx := jsonInt64_le_toNat_jsonUint64Value rx
  exact (clientHasActiveRate_iff _ _ _).mpr (by omega)

/-- A raw entry shows its client by `n` when its last frame came by `n`, if the tick did. -/
theorem rawSeenMs_le_iff {now : UInt64} {raw : LanspeedBpfSample} {n : ℕ} (hn : now.toNat ≤ n) :
    (rawSeenMs now raw).toNat ≤ n ↔ (monotonicNsToMs raw.lastSeenNs).toNat ≤ n := by
  rw [rawSeenMs]
  split_ifs with hns
  · rfl
  · rw [not_not.mp hns]
    exact ⟨fun _ => Nat.zero_le n, fun _ => hn⟩

section Busy

variable {cfg : CollectorConfig} {env : FoldEnv} {log : List (LanspeedBpfSample × UInt64)}

/-- What is folded from the copied samples, one raw entry at a time. -/
theorem lastSeenMs_le_iff_log (hfit : IdentitiesFit env (log.map Prod.fst)) {s : BpfClientSample}
    (hs : s ∈ bpfFold env [] (log.map Prod.fst)) (n : ℕ) :
    s.lastSeenMs.toNat ≤ n ↔ ∀ e ∈ log, rawKey env e.1 = some s.identityKey →
      (rawSeenMs env.nowMs e.1).toNat ≤ n := by
  rw [lastSeenMs_le_iff hfit hs, List.forall_mem_map]

/-- A client whose last frame is recent was seen within the window before the clock read, if it was
not seen after it. -/
theorem window_of_recent (hfit : IdentitiesFit env (log.map Prod.fst)) {s : BpfClientSample}
    (hs : s ∈ bpfFold env [] (log.map Prod.fst))
    (hafter : ∀ e ∈ log, env.nowMs.toNat * 1000000 ≤ e.2.toNat)
    (hrecent : LastFrameRecent cfg env log s.identityKey) :
    env.nowMs.toNat - s.lastSeenMs.toNat ≤ cfg.activeClientWindowMs.toNat := by
  obtain ⟨e, he, hkey, -, hwindow⟩ := hrecent
  have hseen := (lastSeenMs_le_iff_log hfit hs _).mp (Nat.le_refl _) e he hkey
  have hread := hafter e he
  rw [rawSeenMs] at hseen
  split_ifs at hseen
  · rw [toNat_monotonicNsToMs] at hseen
    omega
  · omega

end Busy

/-- The published time at which a client was last seen, in terms of the copied samples. -/
theorem lastSeen_bpfClientJson (hostnameLookup : CStr → List CStr → Option CStr) (delta : UInt64)
    (previous : List BpfClientSample) {now : UInt64} {s : BpfClientSample}
    (hs : s.lastSeenMs.toNat < 2 ^ 63) (hnow : now.toNat < 2 ^ 63) :
    (bpfClientJson hostnameLookup now delta previous s).lastSeen = s.lastSeenMs.toNat ∧
      (bpfClientJson hostnameLookup now delta previous s).sampleMs = now.toNat :=
  ⟨Word.toInt_toInt64_of_lt hs, Word.toInt_toInt64_of_lt hnow⟩

/-- When a published client is counted as active, in terms of its sample. -/
theorem clientIsActive_bpfClientJson_iff {cfg : CollectorConfig}
    {hostnameLookup : CStr → List CStr → Option CStr} {now delta : UInt64}
    {previous : List BpfClientSample} {s : BpfClientSample} (hs : s.lastSeenMs.toNat < 2 ^ 63)
    (hnow : now.toNat < 2 ^ 63)
    (hbusy : ClientBusy cfg (bpfClientJson hostnameLookup now delta previous s)) :
    clientIsActive cfg (bpfClientJson hostnameLookup now delta previous s) = true ↔
      0 < s.lastSeenMs.toNat ∧ s.lastSeenMs.toNat ≤ now.toNat ∧
        now.toNat - s.lastSeenMs.toNat ≤ cfg.activeClientWindowMs.toNat := by
  have hrate := ClientBusy.hasActiveRate hbusy
  rw [← clientIsActiveRecent_iff, clientIsActive]
  dsimp only [bpfClientJson] at hrate ⊢
  rw [hrate, Bool.true_and, jsonUint64Value_jsonInt64 hs, jsonUint64Value_jsonInt64 hnow]

section Published

variable {cfg : CollectorConfig} {env : FoldEnv} {log : List (LanspeedBpfSample × UInt64)}

/-- The clients that are published from the copied samples. -/
def publishedFrom (hostnameLookup : CStr → List CStr → Option CStr) (delta : UInt64)
    (previous : List BpfClientSample) (env : FoldEnv) (log : List (LanspeedBpfSample × UInt64)) :
    List ClientJson :=
  (bpfFold env [] (log.map Prod.fst)).map
    (bpfClientJson hostnameLookup env.nowMs delta previous)

/-- A client was last seen below `2 ^ 63` milliseconds. -/
theorem lastSeenMs_lt (hfit : IdentitiesFit env (log.map Prod.fst))
    (hnow : env.nowMs.toNat < 2 ^ 63)
    {s : BpfClientSample} (hs : s ∈ bpfFold env [] (log.map Prod.fst)) :
    s.lastSeenMs.toNat < 2 ^ 63 := by
  have hle : s.lastSeenMs.toNat ≤ 2 ^ 63 - 1 := by
    apply (lastSeenMs_le_iff_log hfit hs _).mpr
    intro e _ _
    have := toNat_monotonicNsToMs_lt e.1.lastSeenNs
    exact (rawSeenMs_le_iff (by omega)).mpr (by omega)
  omega

/-- When the copies happened after the clock read, busy clients with a recent last frame are active,
and none is seen after its sample, exactly when no frame was late and busy clients were seen. -/
theorem activeWhenBusy_publishedFrom_iff (hfit : IdentitiesFit env (log.map Prod.fst))
    (hnow : env.nowMs.toNat < 2 ^ 63) (hafter : ∀ e ∈ log, env.nowMs.toNat * 1000000 ≤ e.2.toNat)
    (hostnameLookup : CStr → List CStr → Option CStr) (delta : UInt64)
    (previous : List BpfClientSample) :
    ActiveWhenBusy cfg env log (publishedFrom hostnameLookup delta previous env log) ↔
      NoLateFrame env log ∧
        SeenAfterBoot cfg env log (publishedFrom hostnameLookup delta previous env log) := by
  -- `client_is_active_recent` also rejects a time of zero.
  have hseen : ∀ {s}, s ∈ bpfFold env [] (log.map Prod.fst) → (0 < s.lastSeenMs.toNat ↔
      ∃ e ∈ log, rawKey env e.1 = some s.identityKey ∧ 0 < (rawSeenMs env.nowMs e.1).toNat) := by
    intro s hs
    rw [← Nat.not_le, lastSeenMs_le_iff_log hfit hs 0]
    simp only [not_forall, Nat.not_le, exists_prop]
  constructor
  · intro h
    refine ⟨fun e he hkey => ?_, fun c hc hbusy hrecent => ?_⟩
    · obtain ⟨key, hkey⟩ := Option.ne_none_iff_exists'.mp hkey
      obtain ⟨s, hs, rfl⟩ := exists_mem_bpfFold hfit (List.mem_map_of_mem he) hkey
      have hlast := (h _ (List.mem_map_of_mem hs)).1
      obtain ⟨hl, hsample⟩ := lastSeen_bpfClientJson hostnameLookup delta previous
        (lastSeenMs_lt hfit hnow hs) hnow
      rw [hl, hsample] at hlast
      have hle : s.lastSeenMs.toNat ≤ env.nowMs.toNat := by omega
      exact (rawSeenMs_le_iff (Nat.le_refl _)).mp
        ((lastSeenMs_le_iff_log hfit hs _).mp hle e he hkey)
    · obtain ⟨s, hs, rfl⟩ := List.mem_map.mp hc
      have hactive := (h _ hc).2 hbusy hrecent
      rw [clientIsActive_bpfClientJson_iff (lastSeenMs_lt hfit hnow hs) hnow hbusy] at hactive
      exact (hseen hs).mp hactive.1
  · rintro ⟨hlate, hboot⟩ c hc
    obtain ⟨s, hs, rfl⟩ := List.mem_map.mp hc
    have hlt := lastSeenMs_lt hfit hnow hs
    have hle : s.lastSeenMs.toNat ≤ env.nowMs.toNat := by
      apply (lastSeenMs_le_iff_log hfit hs _).mpr
      intro e he hkey
      exact (rawSeenMs_le_iff (Nat.le_refl _)).mpr (hlate e he (by rw [hkey]; simp))
    refine ⟨?_, fun hbusy hrecent => ?_⟩
    · obtain ⟨hl, hsample⟩ := lastSeen_bpfClientJson hostnameLookup delta previous hlt hnow
      rw [hl, hsample]
      omega
    · rw [clientIsActive_bpfClientJson_iff hlt hnow hbusy]
      exact ⟨(hseen hs).mpr (hboot _ hc hbusy hrecent), hle,
        window_of_recent hfit hs hafter hrecent⟩

end Published

/-- In every tick that finishes and whose clients are published, every busy client with a recent
last frame is counted as active, and none is last seen after its sample, exactly when no entry was
copied with a frame of a later millisecond than that of the clock read (and busy clients were seen
after the first millisecond of the clock). -/
theorem active_when_busy_iff {bucketOf : LanspeedKey → ℕ} (m : ClientsMap bucketOf)
    (objectLoaded : Bool) (max : ℕ) {evs : List (UInt64 × TickEvent)} {now : UInt64}
    {tick : TickState bucketOf}
    (hclock : Machine.Along (tickStep max) ClockMonotone (TickState.start m objectLoaded max) evs)
    (hrun : Machine.run (tickStep max) (TickState.start m objectLoaded max) evs = tick)
    (hnow : tick.nowMs = some now) (hdone : tick.read.reader.result = some (.ok ()))
    (cfg : CollectorConfig) (st : CollectorState) (ifIndexToName : UInt32 → Option CStr)
    (arp : List ArpEntry) (env : BpfPublishEnv) {clients : List ClientJson}
    (hfit : IdentitiesFit ((tick.collectInput now ifIndexToName arp).foldEnv cfg)
      tick.read.reader.written)
    (hpub : collectBpfClients cfg env
      (bpfCollectSamples cfg (tick.collectInput now ifIndexToName arp) st) = some clients) :
    ActiveWhenBusy cfg ((tick.collectInput now ifIndexToName arp).foldEnv cfg) tick.log clients ↔
      NoLateFrame ((tick.collectInput now ifIndexToName arp).foldEnv cfg) tick.log ∧
        SeenAfterBoot cfg ((tick.collectInput now ifIndexToName arp).foldEnv cfg) tick.log
          clients := by
  have hinv := clockReadFirst_run m objectLoaded max hclock
  rw [hrun] at hinv
  generalize hfold : (tick.collectInput now ifIndexToName arp).foldEnv cfg = fenv at hfit ⊢
  have hfnow : fenv.nowMs = now := by rw [← hfold]; rfl
  -- The snapshot that is published is what is folded from the log.
  have hread : (tick.collectInput now ifIndexToName arp).read = some tick.read.reader.written := by
    simp only [TickState.collectInput, Reader.outcome, hdone]
  rw [← hinv.map_fst_log] at hfit hread
  obtain ⟨-, delta, hclients⟩ := collectBpfClients_some hpub
  simp only [bpfCollectSamples, hread, hfold] at hclients
  have hafter : ∀ e ∈ tick.log, fenv.nowMs.toNat * 1000000 ≤ e.2.toNat := by
    rw [hfnow]
    exact fun e he => hinv.copied_after now hnow e.2 (List.of_mem_zip he).2
  have hlt : fenv.nowMs.toNat < 2 ^ 63 := by
    have hread := hinv.clock_read now hnow
    have := tick.clockNs.toNat_lt
    rw [hfnow]
    omega
  have hpublished : clients
      = publishedFrom env.hostnameLookup delta st.bpfCurrentSamples fenv tick.log := by
    rw [hclients, publishedFrom, hfnow]
    rfl
  rw [hpublished]
  exact activeWhenBusy_publishedFrom_iff hfit hlt hafter env.hostnameLookup
    delta st.bpfCurrentSamples

/-! A tick at 2000 ms of a client with two frames of 100 bytes, after a snapshot at 1000 ms. -/

/-- The second frame comes at `frameNs`; the clock is read 1000 ns before the end of its
millisecond. -/
def twoFrameTick (frameNs : UInt64) : TickState lastByte :=
  Machine.run (tickStep 4096) (TickState.start .empty true 4096)
    [(1500000000, .frame (txKey 1) 100), (2000999000, .daemon none),
      (frameNs, .frame (txKey 1) 100), (2001000001, .daemon none), (2001000002, .daemon none),
      (2001000003, .daemon none)]

/-- The state before the tick, with the client's snapshot at 1000 ms. -/
def stateAtOneSecond : CollectorState :=
  { CollectorState.init true with
    bpfCurrentSamples := [oneClientSample 1000 0], bpfCurrentSnapshotMs := 1000 }

/-- The input of the tick. -/
def twoFrameInput (frameNs : UInt64) : CollectInput :=
  (twoFrameTick frameNs).collectInput 2000
    (fun ifindex => if ifindex = 4 then some "br-lan".toList else none) []

/-- The client that is published after the tick. -/
def twoFrameClient (lastSeen : ℤ) : ClientJson :=
  { mac := "02:00:00:00:00:01".toList, identityKey := "02:00:00:00:00:01@lan".toList
    zone := "lan".toList, interface := "br-lan".toList, ips := [], hostname := none, rxBps := 0
    txBps := 1600, rxBytes := 0, txBytes := 200, tcpConns := 0, udpConns := 0, sampleMs := 2000
    lastSeen, collectorMode := "bpf".toList, confidence := "high".toList, warnings := [] }

/-- A tick with two frames of one client. -/
theorem active_when_busy_two_frames :
    ActiveWhenBusy bpfConfig ((twoFrameInput 2000999500).foldEnv bpfConfig)
      (twoFrameTick 2000999500).log
        [twoFrameClient 2000] ↔
      NoLateFrame ((twoFrameInput 2000999500).foldEnv bpfConfig) (twoFrameTick 2000999500).log ∧
        SeenAfterBoot bpfConfig ((twoFrameInput 2000999500).foldEnv bpfConfig)
          (twoFrameTick 2000999500).log
          [twoFrameClient 2000] :=
  active_when_busy_iff .empty true 4096 (by decide +kernel) rfl (by decide +kernel) rfl
    bpfConfig stateAtOneSecond
    (fun ifindex => if ifindex = 4 then some "br-lan".toList else none) [] burstEnv
    (by decide +kernel) (by decide +kernel)

/-- A frame that comes after the clock read, and in the next millisecond, hides its busy client. -/
theorem busy_client_not_active :
    collectBpfClients bpfConfig burstEnv
        (bpfCollectSamples bpfConfig (twoFrameInput 2001000000) stateAtOneSecond)
      = some [twoFrameClient 2001] ∧
      ¬ ActiveWhenBusy bpfConfig ((twoFrameInput 2001000000).foldEnv bpfConfig)
        (twoFrameTick 2001000000).log [twoFrameClient 2001] := by
  refine ⟨by decide +kernel, fun h => ?_⟩
  have hrecent : LastFrameRecent bpfConfig ((twoFrameInput 2001000000).foldEnv bpfConfig)
      (twoFrameTick 2001000000).log (twoFrameClient 2001).identityKey :=
    ⟨_, List.mem_cons_self, by decide +kernel, by decide +kernel, by decide +kernel⟩
  have hactive := (h _ List.mem_cons_self).2 (by decide +kernel) hrecent
  exact absurd hactive (by decide +kernel)

end Lanspeed
