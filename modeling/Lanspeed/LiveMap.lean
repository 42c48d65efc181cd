import Lanspeed.Activity
import Lanspeed.FlowGrowth
import Lanspeed.MapWalk
import Lanspeed.Traffic
import Lanspeed.Lib.SampledCounters
import Mathlib.Algebra.BigOperators.Group.Finset.Piecewise

/-!
# The collector and the live map

The collector runs while the map of clients lives: frames are accounted before, during and after the
walk of a tick, the kernel evicts entries, and what a tick reads is no picture of the map at one
moment. A run has all of this, one event after the other, and keeps a history of the walks that the
daemon does not keep. The walks of a run are readings of counters that only grow by what is
accounted (`History`); where no entry is evicted they miss nothing of it (`MissesNothing`).
-/

namespace Lanspeed

variable {bucketOf : LanspeedKey → ℕ}

/-! ## The counters of the map -/

/-- The byte counter under a key. -/
def counterAt (m : ClientsMap bucketOf) (k : LanspeedKey) : ℕ :=
  ((m.get? k).map fun counters => counters.bytes.toNat).getD 0

/-- The bytes that an event accounts under the keys that satisfy `p`. -/
def MapEvent.bytesFor (p : LanspeedKey → Bool) : MapEvent → ℕ
  | .frame key len _ => if p key then len.toNat else 0
  | .call _ => 0
  | .connection _ _ => 0
  | .evict _ => 0

/-- The bytes that are accounted under the keys that satisfy `p`. -/
def accounted (p : LanspeedKey → Bool) (evs : List MapEvent) : ℕ :=
  (evs.map (MapEvent.bytesFor p)).sum

/-- One key alone. -/
def only (k : LanspeedKey) : LanspeedKey → Bool := fun k' => k' = k

@[simp] theorem accounted_nil (p : LanspeedKey → Bool) : accounted p [] = 0 := rfl

/-- The bytes of the first event come on top of those of the others. -/
@[simp] theorem accounted_cons (p : LanspeedKey → Bool) (e : MapEvent) (evs : List MapEvent) :
    accounted p (e :: evs) = e.bytesFor p + accounted p evs := by
  rw [accounted, List.map_cons, List.sum_cons, accounted]

/-- The bytes of two stretches are added. -/
@[simp] theorem accounted_append (p : LanspeedKey → Bool) (evs evs' : List MapEvent) :
    accounted p (evs ++ evs') = accounted p evs + accounted p evs' := by
  rw [accounted, List.map_append, List.sum_append, accounted, accounted]

/-- In the course of events no fewer bytes are accounted. -/
theorem accounted_le_of_earlier (p : LanspeedKey → Bool) {evs evs' : List MapEvent}
    (h : evs <+: evs') :
    accounted p evs ≤ accounted p evs' := by
  obtain ⟨rest, rfl⟩ := h
  rw [accounted_append]
  exact Nat.le_add_right _ _

/-- Under more keys no fewer bytes are accounted. -/
theorem accounted_mono {p q : LanspeedKey → Bool} (h : ∀ k, p k = true → q k = true)
    (evs : List MapEvent) :
    accounted p evs ≤ accounted q evs := by
  refine List.sum_le_sum fun e _ => ?_
  cases e with
  | frame key len ktimeNs =>
    rw [MapEvent.bytesFor, MapEvent.bytesFor]
    by_cases hp : p key = true
    · rw [if_pos hp, if_pos (h key hp)]
    · rw [if_neg hp]
      exact Nat.zero_le _
  | call _ => exact le_rfl
  | connection _ _ => exact le_rfl
  | evict _ => exact le_rfl

/-- What is accounted under some of the keys that satisfy `p` is accounted under `p`. -/
theorem sum_accounted_only_le {S : Finset LanspeedKey} {p : LanspeedKey → Bool}
    (hS : ∀ k ∈ S, p k = true)
    (evs : List MapEvent) : ∑ k ∈ S, accounted (only k) evs ≤ accounted p evs := by
  induction evs with
  | nil => simp
  | cons e evs ih =>
    simp only [accounted_cons, Finset.sum_add_distrib]
    refine Nat.add_le_add ?_ ih
    cases e with
    | frame key len ktimeNs =>
      simp only [MapEvent.bytesFor, only, decide_eq_true_eq, Finset.sum_ite_eq]
      by_cases hkey : key ∈ S
      · rw [if_pos hkey, if_pos (hS key hkey)]
      · rw [if_neg hkey]
        exact Nat.zero_le _
    | call _ => simp [MapEvent.bytesFor]
    | connection _ _ => simp [MapEvent.bytesFor]
    | evict _ => simp [MapEvent.bytesFor]

/-- The key of an event that accounts bytes under `p`. -/
def MapEvent.frameKey? (p : LanspeedKey → Bool) : MapEvent → Option LanspeedKey
  | .frame key _ _ => if p key then some key else none
  | _ => none

/-- What is accounted under `p` is accounted under the keys of the frames. -/
theorem accounted_le_sum_only {S : Finset LanspeedKey} {p : LanspeedKey → Bool}
    {evs : List MapEvent} (hS : ∀ e ∈ evs, ∀ k, e.frameKey? p = some k → k ∈ S) :
    accounted p evs ≤ ∑ k ∈ S, accounted (only k) evs := by
  induction evs with
  | nil => simp
  | cons e evs ih =>
    obtain ⟨he, hevs⟩ := List.forall_mem_cons.mp hS
    simp only [accounted_cons, Finset.sum_add_distrib]
    refine Nat.add_le_add ?_ (ih hevs)
    cases e with
    | frame key len ktimeNs =>
      simp only [MapEvent.bytesFor, only, decide_eq_true_eq, Finset.sum_ite_eq]
      by_cases hp : p key = true
      · rw [if_pos hp, if_pos (he key (by rw [MapEvent.frameKey?, if_pos hp]))]
      · rw [if_neg hp]
        exact Nat.zero_le _
    | call _ => exact Nat.zero_le _
    | connection _ _ => exact Nat.zero_le _
    | evict _ => exact Nat.zero_le _

/-- Counting a connection does not change the bytes. -/
theorem LanspeedCounters.addConnection_bytes (proto : UInt8) (c : LanspeedCounters) :
    (c.addConnection proto).bytes = c.bytes := by
  rw [LanspeedCounters.addConnection]
  split_ifs <;> rfl

/-- What an event does to a counter: it adds a frame, modulo the width of the counter, or the entry
is evicted. -/
theorem counterAt_readStep (max : ℕ) (s : ReadState bucketOf) (e : MapEvent) (k : LanspeedKey) :
    counterAt (readStep max s e).clients k =
      if e = .evict k then 0 else (counterAt s.clients k + e.bytesFor (only k)) % 2 ^ 64 := by
  have hword : counterAt s.clients k % 2 ^ 64 = counterAt s.clients k := by
    rw [counterAt]
    cases s.clients.get? k with
    | none => rfl
    | some counters => exact Nat.mod_eq_of_lt counters.bytes.toNat_lt
  cases e with
  | call fault =>
    rw [if_neg (by simp), MapEvent.bytesFor, Nat.add_zero, hword]
    rfl
  | connection key proto =>
    rw [if_neg (by simp), MapEvent.bytesFor, Nat.add_zero, hword,
      readStep, counterAt, BucketMap.get?_modify]
    split_ifs with hk
    · subst hk
      rw [Option.map_map, counterAt]
      simp only [Function.comp_def, LanspeedCounters.addConnection_bytes]
    · rfl
  | evict key =>
    rw [readStep, counterAt, BucketMap.get?_erase]
    by_cases hk : k = key
    · subst hk
      simp
    · rw [if_neg hk, if_neg (by simpa using Ne.symm hk), MapEvent.bytesFor,
        Nat.add_zero, hword, counterAt]
  | frame key len ktimeNs =>
    rw [if_neg (by simp)]
    simp only [MapEvent.bytesFor, only, decide_eq_true_eq]
    by_cases hmem : key ∈ s.clients.keys
    · rw [readStep, if_pos hmem, counterAt, BucketMap.get?_modify]
      by_cases hk : key = k
      · subst hk
        obtain ⟨counters, hget⟩ := Option.isSome_iff_exists.mp (BucketMap.get?_isSome_iff.mpr hmem)
        simp [counterAt, hget, UInt64.toNat_add]
      · rw [if_neg hk, if_neg hk, Nat.add_zero, hword, counterAt]
    · rw [readStep, if_neg hmem, counterAt, BucketMap.get?_insertNew hmem]
      by_cases hk : key = k
      · subst hk
        have hlen := len.toNat_lt
        rw [if_pos rfl, if_pos rfl, counterAt, BucketMap.get?_eq_none_iff.mpr hmem]
        simp only [Option.map_some, Option.getD_some, LanspeedCounters.initial_bytes,
          UInt32.toNat_toUInt64, Option.map_none, Option.getD_none]
        omega
      · rw [if_neg hk, if_neg hk, Nat.add_zero, hword, counterAt]

/-- Over a run, a counter grows by what is accounted under its key at most. -/
theorem counterAt_run_le (max : ℕ) (s : ReadState bucketOf) (evs : List MapEvent)
    (k : LanspeedKey) :
    counterAt (Machine.run (readStep max) s evs).clients k ≤ counterAt s.clients k + accounted
      (only k) evs := by
  refine Machine.run_subadditive (readStep max) (I := fun _ => True) (fun _ _ h => h)
    (fun s => counterAt s.clients k) (MapEvent.bytesFor (only k)) (fun s e _ => ?_) trivial evs
  rw [counterAt_readStep]
  split_ifs
  · exact Nat.zero_le _
  · exact Nat.mod_le _ _

/-- Over a run in which its entry is not evicted, a counter that has room grows by what is accounted
under its key. -/
theorem counterAt_run_eq (max : ℕ) {s : ReadState bucketOf} {evs : List MapEvent} {k : LanspeedKey}
    (hkept : .evict k ∉ evs) (hroom : counterAt s.clients k + accounted (only k) evs < 2 ^ 64) :
    counterAt (Machine.run (readStep max) s evs).clients k = counterAt s.clients k + accounted
      (only k) evs := by
  induction evs generalizing s with
  | nil => rfl
  | cons e evs ih =>
    rw [accounted_cons] at hroom ⊢
    have he : e ≠ .evict k := fun heq => hkept (heq ▸ List.mem_cons_self)
    have hevs : .evict k ∉ evs := fun hmem => hkept (List.mem_cons_of_mem e hmem)
    have hstep := counterAt_readStep max s e k
    rw [if_neg he, Nat.mod_eq_of_lt (by omega)] at hstep
    rw [Machine.run_cons, ih hevs (by rw [hstep]; omega), hstep, Nat.add_assoc]

/-! ## Runs of the collector -/

/-- What happens: an event of the map, a tick of the collector with what happens to the map while it
walks, or a reset of the rate state. -/
inductive LiveEvent where
  | map (e : MapEvent)
  | tick (nowMs : UInt64) (walk : List MapEvent) (arp : List ArpEntry)
  | reset

/-- A walk that succeeded: what it read, the entries that it copied, and what had happened to the
map when it began and when it ended. -/
structure Walk where
  read : BpfRead
  raws : List LanspeedBpfSample
  begun : List MapEvent
  ended : List MapEvent
deriving DecidableEq, Repr

/-- The map, the static variables of the daemon, and what the daemon does not keep: what has
happened to the map, and the walks since the last reset, newest first. -/
structure LiveState (bucketOf : LanspeedKey → ℕ) where
  clients : ClientsMap bucketOf
  st : CollectorState
  passed : List MapEvent
  walks : List Walk

/-- Before the first frame. -/
def LiveState.start (enabled : Bool) : LiveState bucketOf := ⟨.empty, .init enabled, [], []⟩

section Run

variable (cfg : CollectorConfig) (max : ℕ) (ifIndexToName : UInt32 → Option CStr)

/-- The reader before a tick walks the map. -/
def LiveState.reading (s : LiveState bucketOf) : ReadState bucketOf :=
  ⟨s.clients, Reader.start true max⟩

/-- The map and the reader after the walk of a tick. -/
def LiveState.walked (s : LiveState bucketOf) (walk : List MapEvent) : ReadState bucketOf :=
  Machine.run (readStep max) (s.reading max) walk

/-- What a tick works with. -/
def LiveState.input (s : LiveState bucketOf) (nowMs : UInt64) (walk : List MapEvent)
    (arp : List ArpEntry) : CollectInput :=
  { nowMs, read := (s.walked max walk).reader.outcome, ifIndexToName, arp }

/-- One event. -/
def liveStep (s : LiveState bucketOf) : LiveEvent → LiveState bucketOf
  | .map e =>
    { s with
      clients := (readStep max ⟨s.clients, {}⟩ e).clients
      passed := s.passed ++ [e] }
  | .tick nowMs walk arp =>
    let inp := s.input max ifIndexToName nowMs walk arp
    { clients := (s.walked max walk).clients
      st := bpfCollectSamples cfg inp s.st
      passed := s.passed ++ walk
      walks := match inp.read with
        | none => s.walks
        | some raws =>
          { read := ⟨nowMs, bpfFold (inp.foldEnv cfg) [] raws⟩
            raws
            begun := s.passed
            ended := s.passed ++ walk } :: s.walks }
  | .reset => { s with st := bpfRuntimeResetRateState s.st, walks := [] }

/-- A sound tick. During its walk the entry at the cursor is not evicted, and lookups fail only for
missing entries; if it succeeds, the walk copies fewer entries than there is room for and finds no
more clients than the table takes; the clock value is positive and later than those of the walks
before. -/
structure SoundTick (s : LiveState bucketOf) (nowMs : UInt64) (walk : List MapEvent)
    (arp : List ArpEntry) : Prop where
  stays : Machine.Along (readStep max) CursorStays (s.reading max) walk
  works : Machine.Along (readStep max) LookupsWork (s.reading max) walk
  room : ∀ raws, (s.walked max walk).reader.outcome = some raws → raws.length < max
  fit : ∀ raws, (s.walked max walk).reader.outcome = some raws →
    IdentitiesFit ((s.input max ifIndexToName nowMs walk arp).foldEnv cfg) raws
  pos : 0 < nowMs
  later : ∀ w ∈ s.walks, w.read.atMs < nowMs

instance (s : LiveState bucketOf) (nowMs : UInt64) (walk : List MapEvent) (arp : List ArpEntry) :
    Decidable (SoundTick cfg max ifIndexToName s nowMs walk arp) :=
  decidable_of_iff
    (Machine.Along (readStep max) CursorStays (s.reading max) walk ∧
      Machine.Along (readStep max) LookupsWork (s.reading max) walk ∧
      (∀ raws ∈ (s.walked max walk).reader.outcome, raws.length < max) ∧
      (∀ raws ∈ (s.walked max walk).reader.outcome,
        IdentitiesFit ((s.input max ifIndexToName nowMs walk arp).foldEnv cfg) raws) ∧
      0 < nowMs ∧ ∀ w ∈ s.walks, w.read.atMs < nowMs)
    ⟨fun ⟨h₁, h₂, h₃, h₄, h₅, h₆⟩ => ⟨h₁, h₂, h₃, h₄, h₅, h₆⟩,
      fun h => ⟨h.stays, h.works, h.room, h.fit, h.pos, h.later⟩⟩

/-- Every tick is sound. -/
def TicksSound (s : LiveState bucketOf) : LiveEvent → Prop
  | .tick nowMs walk arp => SoundTick cfg max ifIndexToName s nowMs walk arp
  | _ => True

instance (s : LiveState bucketOf) (e : LiveEvent) :
    Decidable (TicksSound cfg max ifIndexToName s e) :=
  match e with
  | .tick nowMs walk arp =>
    inferInstanceAs (Decidable (SoundTick cfg max ifIndexToName s nowMs walk arp))
  | .map _ => .isTrue trivial
  | .reset => .isTrue trivial

end Run

/-- The bytes that copied entries show for a key. -/
def bytesShown (raws : List LanspeedBpfSample) (k : LanspeedKey) : ℕ :=
  ((Keyed.lookup LanspeedBpfSample.key k raws).map fun raw => raw.bytes.toNat).getD 0

/-- A walk as a reading of the byte counters. -/
def Walk.reading (w : Walk) : SampledCounters.Reading LanspeedKey :=
  { shown := bytesShown w.raws
    begun := fun k => accounted (only k) w.begun
    ended := fun k => accounted (only k) w.ended }

/-- What happened to the map from the beginning of the walk `before` to the end of the
walk `last`. -/
def Walk.span (before last : Walk) : List MapEvent := last.ended.drop before.begun.length

/-- What happened to the map between the walks `before` and `last`. -/
def Walk.between (before last : Walk) : List MapEvent := last.begun.drop before.ended.length

/-- A walk with an outcome ended well, and has written it. -/
theorem eq_some_of_outcome {r : Reader} {raws : List LanspeedBpfSample}
    (h : r.outcome = some raws) :
    r.result = some (.ok ()) ∧ r.written = raws := by
  unfold Reader.outcome at h
  split at h
  · rename_i hres
    exact ⟨hres, Option.some.inj h⟩
  · exact absurd h (by simp)

section Walks

variable {cfg : CollectorConfig} {max : ℕ} {ifIndexToName : UInt32 → Option CStr}
    {s : LiveState bucketOf}

/-- The walk of a tick shows the byte counter of every key at some moment of the walk. -/
theorem SoundTick.bytesShown_eq {nowMs : UInt64} {walk : List MapEvent} {arp : List ArpEntry}
    (h : SoundTick cfg max ifIndexToName s nowMs walk arp) {raws : List LanspeedBpfSample}
    (hread : (s.walked max walk).reader.outcome = some raws) (k : LanspeedKey) :
    ∃ pre post, walk = pre ++ post ∧
      bytesShown raws k = counterAt (Machine.run (readStep max) (s.reading max) pre).clients k := by
  obtain ⟨hres, hraws⟩ := eq_some_of_outcome hread
  have hend : (s.walked max walk).reader.CameToEnd max := ⟨hres, hraws ▸ h.room raws hread⟩
  obtain ⟨pre, post, hwalk, hsample⟩ := read_at_moments s.clients true max h.works hend k
  refine ⟨pre, post, hwalk, ?_⟩
  have hsample' : Keyed.lookup LanspeedBpfSample.key k raws =
      mapSample (Machine.run (readStep max) (s.reading max) pre).clients k := hraws ▸ hsample
  rw [bytesShown, hsample', mapSample, Option.map_map, counterAt]
  rfl

/-- A sound tick that reads the map reads every key once. -/
theorem SoundTick.nodup {nowMs : UInt64} {walk : List MapEvent} {arp : List ArpEntry}
    (h : SoundTick cfg max ifIndexToName s nowMs walk arp) {raws : List LanspeedBpfSample}
    (hread : (s.walked max walk).reader.outcome = some raws) :
    (raws.map LanspeedBpfSample.key).Nodup := by
  rw [← (eq_some_of_outcome hread).2]
  exact read_samples_distinct s.clients true max h.stays

/-- What a history of walks keeps: the daemon has the last two of them, each shows distinct keys,
one comes after the other, and their byte counts are of counters that only grow by what is
accounted. -/
structure History (ifIndexToName : UInt32 → Option CStr) (s : LiveState bucketOf) : Prop where
  snapshots : SnapshotsOf (s.walks.map Walk.read) s.st
  folded : ∀ w ∈ s.walks, ∃ env : FoldEnv, env.ifIndexToName = ifIndexToName ∧
    w.read.samples = bpfFold env [] w.raws ∧ IdentitiesFit env w.raws
  nodup : ∀ w ∈ s.walks, (w.raws.map LanspeedBpfSample.key).Nodup
  counted : ∀ k, counterAt s.clients k ≤ accounted (only k) s.passed
  shown_le : ∀ w ∈ s.walks, ∀ k, bytesShown w.raws k ≤ accounted (only k) w.ended
  begun_ended : ∀ w ∈ s.walks, w.begun <+: w.ended
  ended_passed : ∀ w ∈ s.walks, w.ended <+: s.passed
  apart : s.walks.Pairwise fun w prev => prev.ended <+: w.begun
  sound : ∃ taken, SampledCounters.Sound (s.walks.map Walk.reading) taken ∧
    ∀ w ∈ s.walks.head?, ∀ k, counterAt s.clients k + taken k ≤
      bytesShown w.raws k + accounted (only k) s.passed

/-- The daemon starts with an empty history. -/
theorem history_start (enabled : Bool) :
    History ifIndexToName (LiveState.start enabled : LiveState bucketOf) :=
  { snapshots := snapshotsOf_init enabled
    folded := by simp [LiveState.start]
    nodup := by simp [LiveState.start]
    counted := fun k => Nat.zero_le _
    shown_le := by simp [LiveState.start]
    begun_ended := by simp [LiveState.start]
    ended_passed := by simp [LiveState.start]
    apart := List.Pairwise.nil
    sound := ⟨fun _ => 0, .nil _, by simp [LiveState.start]⟩ }

/-- Events of the map alone keep the history. -/
theorem History.passed (h : History ifIndexToName s) {m : ClientsMap bucketOf} {evs : List MapEvent}
    (hgrown : ∀ k, counterAt m k ≤ counterAt s.clients k + accounted (only k) evs) :
    History ifIndexToName { s with clients := m, passed := s.passed ++ evs } :=
  { h with
    counted := fun k => by
      rw [accounted_append]
      exact (hgrown k).trans (Nat.add_le_add_right (h.counted k) _)
    ended_passed := fun w hw => (h.ended_passed w hw).trans (List.prefix_append _ _)
    sound := by
      obtain ⟨taken, hsound, hlag⟩ := h.sound
      refine ⟨taken, hsound, fun w hw k => ?_⟩
      have hgrown := hgrown k
      have hlag := hlag w hw k
      simp only [accounted_append]
      omega }

/-- A successful walk is put in front of the history. -/
theorem History.walked (h : History ifIndexToName s) {nowMs : UInt64}
    {walk : List MapEvent} {arp : List ArpEntry}
    (htick : SoundTick cfg max ifIndexToName s nowMs walk arp) {raws : List LanspeedBpfSample}
    (hread : (s.walked max walk).reader.outcome = some raws) :
    History ifIndexToName (liveStep cfg max ifIndexToName s (.tick nowMs walk arp)) := by
  have hinput : (s.input max ifIndexToName nowMs walk arp).read = some raws := hread
  have hsnap : SnapshotsOf (readsStep cfg (s.walks.map Walk.read)
        (.collect (s.input max ifIndexToName nowMs walk arp)))
      (rateStep cfg s.st (.collect (s.input max ifIndexToName nowMs walk arp))) :=
    h.snapshots.step _ ⟨htick.pos, List.forall_mem_map.mpr htick.later⟩
  simp only [readsStep, rateStep, hinput] at hsnap
  simp only [liveStep, hinput]
  choose pre post hwalk hshown using htick.bytesShown_eq hread
  obtain ⟨taken, hsound, hlag⟩ := h.sound
  -- The walk took the counter of a key after `pre k`; before it and after it the counter only grew.
  have hbefore : ∀ k, bytesShown raws k ≤ counterAt s.clients k + accounted (only k) (pre k) := by
    intro k
    rw [hshown]
    exact counterAt_run_le max (s.reading max) (pre k) k
  have hafter : ∀ k, counterAt (s.walked max walk).clients k ≤
      bytesShown raws k + accounted (only k) (post k) := by
    intro k
    have hrun : s.walked max walk =
        Machine.run (readStep max) (Machine.run (readStep max) (s.reading max) (pre k))
        (post k) := by
      rw [LiveState.walked, Machine.run, Machine.run, Machine.run, ← List.foldl_append, ← hwalk]
    rw [hrun, hshown]
    exact counterAt_run_le max _ (post k) k
  have hparts :
      ∀ k, accounted (only k) walk = accounted (only k) (pre k) + accounted (only k) (post k) := by
    intro k
    rw [← accounted_append, ← hwalk]
  refine ⟨hsnap, ?_, ?_, ?_, ?_, ?_, ?_, ?_, ?_⟩
  · exact List.forall_mem_cons.mpr ⟨⟨_, rfl, rfl, htick.fit raws hread⟩, h.folded⟩
  · exact List.forall_mem_cons.mpr ⟨htick.nodup hread, h.nodup⟩
  · intro k
    have hcounted := h.counted k
    have hbefore := hbefore k
    have hafter := hafter k
    have hparts := hparts k
    simp only [accounted_append]
    omega
  · refine List.forall_mem_cons.mpr ⟨fun k => ?_, h.shown_le⟩
    have hcounted := h.counted k
    have hbefore := hbefore k
    have hparts := hparts k
    simp only [accounted_append]
    omega
  · exact List.forall_mem_cons.mpr ⟨List.prefix_append _ _, h.begun_ended⟩
  · refine List.forall_mem_cons.mpr ⟨List.prefix_rfl, fun w hw => ?_⟩
    exact (h.ended_passed w hw).trans (List.prefix_append _ _)
  · exact List.pairwise_cons.mpr ⟨h.ended_passed, h.apart⟩
  · refine ⟨fun k => accounted (only k) (s.passed ++ pre k), .cons (fun k => ?_) hsound ?_, ?_⟩
    · have hparts := hparts k
      simp only [Walk.reading, accounted_append]
      omega
    · intro prev hprev k
      obtain ⟨w, hw, rfl⟩ : ∃ w ∈ s.walks.head?, w.reading = prev := by
        rw [List.head?_map] at hprev
        simpa using hprev
      have hlag := hlag w hw k
      have hbefore := hbefore k
      simp only [Walk.reading, accounted_append]
      omega
    · intro w hw k
      obtain rfl : _ = w := Option.some.inj hw
      have hafter := hafter k
      have hparts := hparts k
      simp only [accounted_append]
      omega

/-- A step with sound ticks keeps the history true. -/
theorem History.step (h : History ifIndexToName s) {e : LiveEvent}
    (he : TicksSound cfg max ifIndexToName s e) :
    History ifIndexToName (liveStep cfg max ifIndexToName s e) := by
  cases e with
  | map e => exact h.passed (fun k => counterAt_run_le max ⟨s.clients, {}⟩ [e] k)
  | reset =>
    have hsnap : SnapshotsOf [] (rateStep cfg s.st .reset) := h.snapshots.step .reset trivial
    exact
      { snapshots := hsnap
        folded := by simp [liveStep]
        nodup := by simp [liveStep]
        counted := h.counted
        shown_le := by simp [liveStep]
        begun_ended := by simp [liveStep]
        ended_passed := by simp [liveStep]
        apart := List.Pairwise.nil
        sound := ⟨fun _ => 0, .nil _, by simp [liveStep]⟩ }
  | tick nowMs walk arp =>
    cases hread : (s.walked max walk).reader.outcome with
    | some raws => exact h.walked he hread
    | none =>
      have hinput : (s.input max ifIndexToName nowMs walk arp).read = none := hread
      simp only [liveStep, bpfCollectSamples, hinput]
      exact h.passed (fun k => counterAt_run_le max (s.reading max) walk k)

end Walks

/-! ## Without evictions -/

/-- The events of the map that a step of a run brings. -/
def LiveEvent.mapEvents : LiveEvent → List MapEvent
  | .map e => [e]
  | .tick _ walk _ => walk
  | .reset => []

/-- No entry whose key satisfies `p` is evicted. -/
def KeepsEntries (p : LanspeedKey → Bool) (e : LiveEvent) : Prop :=
  ∀ k, p k = true → .evict k ∉ e.mapEvents

/-- The walks miss nothing of the counters under the keys that satisfy `p`: between two walks, and
since the last one, the counters grew by at least what was accounted from the end of a walk on. -/
structure MissesNothing (p : LanspeedKey → Bool) (s : LiveState bucketOf) : Prop where
  since : ∀ w ∈ s.walks.head?, ∀ k, p k = true →
    bytesShown w.raws k + accounted (only k) s.passed ≤
      counterAt s.clients k + accounted (only k) w.ended
  between : s.walks.IsChain fun w prev => ∀ k, p k = true →
    bytesShown prev.raws k + accounted (only k) w.begun ≤
      bytesShown w.raws k + accounted (only k) prev.ended

section Kept

variable {cfg : CollectorConfig} {max : ℕ} {ifIndexToName : UInt32 → Option CStr}
    {s : LiveState bucketOf}
  {p : LanspeedKey → Bool}

/-- While all that was ever accounted fits in a counter, the counter of a key that is not evicted
takes all that is accounted under it. -/
theorem History.counterAt_run (h : History ifIndexToName s) (max : ℕ)
    {evs : List MapEvent} {k : LanspeedKey} (hkept : .evict k ∉ evs)
    (hbytes : accounted (fun _ => true) (s.passed ++ evs) < 2 ^ 64) (r : Reader) :
    counterAt (Machine.run (readStep max) ⟨s.clients, r⟩ evs).clients k
      = counterAt s.clients k + accounted (only k) evs := by
  apply counterAt_run_eq max hkept
  have hcounted := h.counted k
  have hmono := accounted_mono (p := only k) (fun _ _ => rfl) (s.passed ++ evs)
  rw [accounted_append] at hmono
  change counterAt s.clients k + _ < _
  omega

/-- Events that only add to the counters miss nothing. -/
theorem MissesNothing.passed (hp : MissesNothing p s) {m : ClientsMap bucketOf}
    {evs : List MapEvent}
    (hgrown : ∀ k, p k = true → counterAt m k = counterAt s.clients k + accounted (only k) evs) :
    MissesNothing p { s with clients := m, passed := s.passed ++ evs } := by
  refine ⟨fun w hw k hk => ?_, hp.between⟩
  have hsince := hp.since w hw k hk
  have hgrown := hgrown k hk
  simp only [accounted_append]
  omega

/-- A walk that evicts no entry of a key shows what was accounted under it until some moment of the
walk. -/
theorem History.exists_taken (h : History ifIndexToName s) {nowMs : UInt64} {walk : List MapEvent}
    {arp : List ArpEntry} (htick : SoundTick cfg max ifIndexToName s nowMs walk arp)
    (hbytes : accounted (fun _ => true) (s.passed ++ walk) < 2 ^ 64) {raws : List LanspeedBpfSample}
    (hread : (s.walked max walk).reader.outcome = some raws) {k : LanspeedKey}
    (hkept : .evict k ∉ walk) :
    ∃ pre post, walk = pre ++ post ∧ bytesShown raws k = counterAt s.clients k + accounted
      (only k) pre := by
  obtain ⟨pre, post, hwalk, hshown⟩ := htick.bytesShown_eq hread k
  refine ⟨pre, post, hwalk, ?_⟩
  rw [hshown]
  refine h.counterAt_run max (fun hmem => hkept ?_) ?_ _
  · rw [hwalk]
    exact List.mem_append_left _ hmem
  · refine (accounted_le_of_earlier _ ?_).trans_lt hbytes
    rw [hwalk, ← List.append_assoc]
    exact List.prefix_append _ _

/-- A tick whose walk keeps the entries misses nothing. -/
theorem MissesNothing.walked (hp : MissesNothing p s) (h : History ifIndexToName s) {nowMs : UInt64}
    {walk : List MapEvent} {arp : List ArpEntry}
    (htick : SoundTick cfg max ifIndexToName s nowMs walk arp)
    (hkept : ∀ k, p k = true → .evict k ∉ walk)
    (hbytes : accounted (fun _ => true) (s.passed ++ walk) < 2 ^ 64)
    {raws : List LanspeedBpfSample} (hread : (s.walked max walk).reader.outcome = some raws) :
    MissesNothing p (liveStep cfg max ifIndexToName s (.tick nowMs walk arp)) := by
  have hinput : (s.input max ifIndexToName nowMs walk arp).read = some raws := hread
  simp only [liveStep, hinput]
  constructor
  · intro w hw k hk
    obtain rfl : _ = w := Option.some.inj hw
    obtain ⟨pre, post, hwalk, htaken⟩ := h.exists_taken htick hbytes hread (hkept k hk)
    have hend := h.counterAt_run max (hkept k hk) hbytes (Reader.start true max)
    have hparts : accounted (only k) walk = accounted (only k) pre + accounted (only k) post := by
      rw [← accounted_append, ← hwalk]
    simp only [LiveState.walked, LiveState.reading, accounted_append] at hend ⊢
    omega
  · refine List.isChain_cons.mpr ⟨fun w hw k hk => ?_, hp.between⟩
    obtain ⟨pre, post, -, htaken⟩ := h.exists_taken htick hbytes hread (hkept k hk)
    have hsince := hp.since w hw k hk
    change bytesShown w.raws k + accounted (only k) s.passed ≤
      bytesShown raws k + accounted (only k) w.ended
    omega

/-- A step that keeps the entries misses nothing. -/
theorem MissesNothing.step (hp : MissesNothing p s) (h : History ifIndexToName s) {e : LiveEvent}
    (he : TicksSound cfg max ifIndexToName s e) (hkept : KeepsEntries p e)
    (hbytes : accounted (fun _ => true) (liveStep cfg max ifIndexToName s e).passed < 2 ^ 64) :
    MissesNothing p (liveStep cfg max ifIndexToName s e) := by
  cases e with
  | map e => exact hp.passed fun k hk => h.counterAt_run max (hkept k hk) hbytes {}
  | reset => exact ⟨by simp [liveStep], List.isChain_nil⟩
  | tick nowMs walk arp =>
    cases hread : (s.walked max walk).reader.outcome with
    | some raws => exact hp.walked h he hkept hbytes hread
    | none =>
      have hinput : (s.input max ifIndexToName nowMs walk arp).read = none := hread
      simp only [liveStep, bpfCollectSamples, hinput]
      exact hp.passed fun k hk => h.counterAt_run max (hkept k hk) hbytes (Reader.start true max)

/-- A step adds to the events that have passed. -/
theorem prefix_passed_liveStep (s : LiveState bucketOf) (e : LiveEvent) :
    s.passed <+: (liveStep cfg max ifIndexToName s e).passed := by
  cases e with
  | map e => exact List.prefix_append _ _
  | reset => exact List.prefix_rfl
  | tick nowMs walk arp => exact List.prefix_append _ _

end Kept

/-! ## Whole runs -/

/-- A run of the collector on an empty map, with sound ticks. -/
structure LiveRun (bucketOf : LanspeedKey → ℕ) (cfg : CollectorConfig) (max : ℕ)
    (ifIndexToName : UInt32 → Option CStr) where
  enabled : Bool
  events : List LiveEvent
  sound : Machine.Along (liveStep cfg max ifIndexToName) (TicksSound cfg max ifIndexToName)
    (LiveState.start enabled : LiveState bucketOf) events

namespace LiveRun

variable {cfg : CollectorConfig} {max : ℕ} {ifIndexToName : UInt32 → Option CStr}
  (run : LiveRun bucketOf cfg max ifIndexToName)

/-- The state after the run. -/
def state : LiveState bucketOf :=
  Machine.run (liveStep cfg max ifIndexToName) (.start run.enabled) run.events

theorem history : History ifIndexToName run.state :=
  Machine.run_invariant_along _ (fun _ _ h he => h.step he) (history_start run.enabled) run.sound

/-- In a run without evictions under `p`, in which all that is accounted fits in a counter, the
walks miss nothing. -/
theorem missesNothing {p : LanspeedKey → Bool} (hkept : ∀ e ∈ run.events, KeepsEntries p e)
    (hbytes : accounted (fun _ => true) run.state.passed < 2 ^ 64) : MissesNothing p run.state := by
  -- What is accounted only grows, so what fits at the end fitted after every step.
  refine (Machine.run_invariant_along (liveStep cfg max ifIndexToName)
    (I := fun s => History ifIndexToName s ∧
      (accounted (fun _ => true) s.passed < 2 ^ 64 → MissesNothing p s))
    (P := fun s e => TicksSound cfg max ifIndexToName s e ∧ KeepsEntries p e) ?_ ?_ ?_).2 hbytes
  · rintro s e ⟨h, hp⟩ ⟨he, hkept⟩
    refine ⟨h.step he, fun hbytes => ?_⟩
    have hold :=
      (accounted_le_of_earlier (fun _ => true) (prefix_passed_liveStep s e)).trans_lt hbytes
    exact (hp hold).step h he hkept hbytes
  · exact ⟨history_start run.enabled, fun _ => ⟨by simp [LiveState.start], List.isChain_nil⟩⟩
  · exact Machine.along_and _ run.sound (Machine.along_of_forall_mem _ hkept _)

end LiveRun

/-- Two ticks of a client that sends; in the walk of the second one, a frame comes before the
client's entry is copied, and one after it. -/
def twoWalks : LiveRun lastByte bpfConfig 4096
    (fun ifindex => if ifindex = 4 then some "br-lan".toList else none) where
  enabled := true
  events :=
    [.map (.frame (txKey 1) 1000 1), .tick 1000 [.call none, .call none, .call none] [],
      .map (.frame (txKey 1) 500 2),
      .tick 2000 [.frame (txKey 1) 70 3, .call none, .call none,
        .frame (txKey 1) 30 4, .call none] []]
  sound := by decide +kernel

end Lanspeed
