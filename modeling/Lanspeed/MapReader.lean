import Lanspeed.Datapath
import Lanspeed.Lib.BucketMap
import Lanspeed.Lib.Machine

/-!
# Reading the map of clients

`lanspeed_bpf_read_samples` walks the map of clients with a cursor, one system call at a time, while
frames insert keys and the kernel evicts them. Its state between two system calls is `Reader`; a run
interleaves its calls with what happens to the map. A sample is copied at most once as long as the
key the walk stands on is not evicted: `read_samples_distinct`.
-/

namespace Lanspeed

/-- `struct lanspeed_bpf_sample`. -/
structure LanspeedBpfSample where
  ifindex : UInt32
  vlan : UInt16
  direction : UInt8
  mac : Mac
  bytes : UInt64
  packets : UInt64
  lastSeenNs : UInt64
  tcpConns : UInt32
  udpConns : UInt32
deriving DecidableEq, Repr

/-- `LANSPEED_BPF_DIR_TX`. -/
def lanspeedBpfDirTx : UInt8 := 1

/-- `LANSPEED_BPF_DIR_RX`. -/
def lanspeedBpfDirRx : UInt8 := 2

/-- `struct lanspeed_bpf_sample` of a map entry, as the reader fills it. -/
def sampleOfEntry (e : LanspeedKey × LanspeedCounters) : LanspeedBpfSample :=
  { ifindex := e.1.ifindex
    vlan := e.1.vlanOrZone
    direction := e.1.direction
    mac := e.1.mac
    bytes := e.2.bytes
    packets := e.2.packets
    lastSeenNs := e.2.lastSeen
    tcpConns := e.2.tcpConns
    udpConns := e.2.udpConns }

/-- The map of clients, with the kernel's hash. -/
abbrev ClientsMap (bucketOf : LanspeedKey → ℕ) := BucketMap bucketOf LanspeedCounters

/-- Why `lanspeed_bpf_read_samples` fails. -/
inductive ReadError where
  | objectNotLoaded
  | invalidBuffer
  | getNextKeyFailed (err : ℤ)
deriving DecidableEq, Repr

/-- The text of the status error. -/
def ReadError.text : ReadError → CStr
  | .objectNotLoaded => "bpf_object_not_loaded".toList
  | .invalidBuffer => "bpf_read_invalid_buffer".toList
  | .getNextKeyFailed err =>
    "bpf_map_get_next_key_failed:".toList ++
      (if err < 0 then '-' :: decimal err.natAbs else decimal err.natAbs)

/-- The local variables of `lanspeed_bpf_read_samples` between two system calls: `curKey` is
`cur_key` when `have_cur` is set, `nextKey` is `next_key` until it has been looked up. -/
structure Reader where
  curKey : Option LanspeedKey := none
  nextKey : Option LanspeedKey := none
  written : List LanspeedBpfSample := []
  result : Option (Except ReadError Unit) := none
deriving Repr

/-- The function up to its loop. -/
def Reader.start (objectLoaded : Bool) (max : ℕ) : Reader :=
  if !objectLoaded then { result := some (.error .objectNotLoaded) }
  else if max = 0 then { result := some (.error .invalidBuffer) }
  else {}

/-- The next system call of the loop, and the code up to the one after it. A fault makes the call
fail; `bpf_map_get_next_key` then returns an error other than `-ENOENT`. -/
def Reader.call {bucketOf : LanspeedKey → ℕ} (max : ℕ) (m : ClientsMap bucketOf) (fault : Option ℤ)
    (r : Reader) : Reader :=
  match r.result with
  | some _ => r
  | none =>
    match r.nextKey with
    | none =>
      match fault with
      | some err => { r with result := some (.error (.getNextKeyFailed err)) }
      | none =>
        -- A cursor that is no longer in the map makes this the first key again.
        match m.nextKey r.curKey with
        | none => { r with result := some (.ok ()) }
        | some key => { r with nextKey := some key }
    | some key =>
      -- An entry that is gone, or cannot be read, is skipped.
      let found := match fault with
        | some _ => none
        | none => m.get? key
      let written := match found with
        | some counters =>
          if r.written.length < max then r.written ++ [sampleOfEntry (key, counters)] else r.written
        | none => r.written
      { curKey := some key
        nextKey := none
        written
        result := if written.length ≥ max then some (.ok ()) else none }

/-- What happens between and at the system calls of the reader. -/
inductive MapEvent where
  | call (fault : Option ℤ)
  | frame (key : LanspeedKey) (len : UInt32) (ktimeNs : UInt64)
  | connection (key : LanspeedKey) (proto : UInt8)
  | evict (key : LanspeedKey)
deriving DecidableEq, Repr

/-- The map and its reader. -/
structure ReadState (bucketOf : LanspeedKey → ℕ) where
  clients : ClientsMap bucketOf
  reader : Reader

/-- One event: a system call of the reader, a program that adds a frame (with `BPF_NOEXIST` when it
creates the entry) or a connection, or an eviction. -/
def readStep {bucketOf : LanspeedKey → ℕ} (max : ℕ) (s : ReadState bucketOf) :
    MapEvent → ReadState bucketOf
  | .call fault => { s with reader := s.reader.call max s.clients fault }
  | .frame key len ktimeNs =>
    { s with
      clients :=
        if key ∈ s.clients.keys then s.clients.modify key (.addFrame len ktimeNs)
        else s.clients.insertNew key (.initial len ktimeNs) }
  | .connection key proto =>
    { s with clients := s.clients.modify key (.addConnection proto) }
  | .evict key => { s with clients := s.clients.erase key }

/-- The key that a sample was read from. -/
def LanspeedBpfSample.key (s : LanspeedBpfSample) : LanspeedKey :=
  ⟨s.ifindex, s.vlan, s.direction, s.mac⟩

/-- The keys of the samples that have been copied. -/
def Reader.copied (r : Reader) : List LanspeedKey := r.written.map LanspeedBpfSample.key

/-- The key that `bpf_map_get_next_key` returned last. -/
def Reader.lastKey (r : Reader) : Option LanspeedKey := r.nextKey.or r.curKey

/-! ## One call of the reader -/

section Call

variable {bucketOf : LanspeedKey → ℕ} {m : ClientsMap bucketOf} {r : Reader}

/-- What a call of `bpf_map_get_next_key` does: it ends the walk, or finds the next key. -/
theorem Reader.call_getNextKey (max : ℕ) (hres : r.result = none) (hnext : r.nextKey = none)
    (fault : Option ℤ) :
    (∃ res, r.call max m fault = { r with result := some res }) ∨
      ∃ key, m.nextKey r.curKey = some key ∧
        r.call max m fault = { r with nextKey := some key } := by
  simp only [Reader.call, hres, hnext]
  cases fault with
  | some err => exact .inl ⟨_, rfl⟩
  | none =>
    cases m.nextKey r.curKey with
    | none => exact .inl ⟨_, rfl⟩
    | some key => exact .inr ⟨key, rfl, rfl⟩

/-- What a call of `bpf_map_lookup_elem` does: it copies the entry or skips it, and the walk goes on
from its key. -/
theorem Reader.call_lookup (max : ℕ) (hres : r.result = none) {key : LanspeedKey}
    (hnext : r.nextKey = some key) (fault : Option ℤ) :
    (r.call max m fault).curKey = some key ∧ (r.call max m fault).nextKey = none ∧
      ((r.call max m fault).written = r.written ∨ ∃ counters, m.get? key = some counters ∧
        (r.call max m fault).written = r.written ++ [sampleOfEntry (key, counters)]) := by
  simp only [Reader.call, hres, hnext, true_and]
  cases fault with
  | some err => exact .inl rfl
  | none =>
    cases hget : m.get? key with
    | none => exact .inl rfl
    | some counters =>
      by_cases hroom : r.written.length < max
      · exact .inr ⟨counters, rfl, if_pos hroom⟩
      · exact .inl (if_neg hroom)

end Call

/-! ## The walk -/

/-- An eviction does not hit the key on which a walk stands that has copied something. -/
def CursorStays {bucketOf : LanspeedKey → ℕ} (s : ReadState bucketOf) : MapEvent → Prop
  | .evict key => s.reader.result = none → s.reader.written ≠ [] → s.reader.lastKey ≠ some key
  | _ => True

instance {bucketOf : LanspeedKey → ℕ} (s : ReadState bucketOf) (e : MapEvent) :
    Decidable (CursorStays s e) :=
  match e with
  | .evict key =>
    inferInstanceAs (Decidable (s.reader.result = none → s.reader.written ≠ [] →
      s.reader.lastKey ≠ some key))
  | .call _ => .isTrue trivial
  | .frame .. => .isTrue trivial
  | .connection .. => .isTrue trivial

/-- Where a walk stands at the key `c`: `c` is in the map, what has been copied is behind the walk,
and `c` has not been copied while its lookup is pending. -/
structure StandsAt {bucketOf : LanspeedKey → ℕ} (s : ReadState bucketOf)
    (c : LanspeedKey) : Prop where
  lastKey : s.reader.lastKey = some c
  present : c ∈ s.clients.keys
  behind : ∀ k ∈ s.reader.copied, k ∉ s.clients.keysAfter c
  bucket : ∀ k ∈ s.reader.copied, bucketOf k ≤ bucketOf c
  pending : s.reader.nextKey = some c → c ∉ s.reader.copied

/-- The copied keys are distinct, and a walk that goes on has them behind it. -/
structure WalkOrder {bucketOf : LanspeedKey → ℕ} (s : ReadState bucketOf) : Prop where
  nodup : s.reader.copied.Nodup
  stands : s.reader.result = none → s.reader.written ≠ [] → ∃ c, StandsAt s c

section Step

variable {bucketOf : LanspeedKey → ℕ} {s : ReadState bucketOf}

@[simp] theorem copied_eq_nil_iff {r : Reader} : r.copied = [] ↔ r.written = [] :=
  List.map_eq_nil_iff

theorem key_sampleOfEntry (e : LanspeedKey × LanspeedCounters) : (sampleOfEntry e).key = e.1 := rfl

/-- A change of the map that keeps the key the walk stands on, and lets it visit only new keys of
later buckets, keeps the copied keys behind the walk. -/
theorem StandsAt.changeMap {c : LanspeedKey} (h : StandsAt s c) {m : ClientsMap bucketOf}
    (hc : c ∈ m.keys)
    (hafter : ∀ k ∈ m.keysAfter c, k ∈ s.clients.keysAfter c ∨ bucketOf c < bucketOf k) :
    StandsAt { s with clients := m } c := by
  refine ⟨h.lastKey, hc, fun k hk hka => ?_, h.bucket, h.pending⟩
  rcases hafter k hka with hka | hlt
  · exact h.behind k hk hka
  · exact absurd (h.bucket k hk) (Nat.not_le.mpr hlt)

/-- The order of a walk survives a change of the map that keeps the cursor and puts what is new
ahead of it into later buckets. -/
theorem WalkOrder.changeMap (h : WalkOrder s) {m : ClientsMap bucketOf}
    (hm : ∀ c, StandsAt s c → s.reader.result = none → s.reader.written ≠ [] → c ∈ m.keys ∧
      ∀ k ∈ m.keysAfter c, k ∈ s.clients.keysAfter c ∨ bucketOf c < bucketOf k) :
    WalkOrder { s with clients := m } := by
  refine ⟨h.nodup, fun hres hw => ?_⟩
  obtain ⟨c, hc⟩ := h.stands hres hw
  obtain ⟨hmem, hafter⟩ := hm c hc hres hw
  exact ⟨c, hc.changeMap hmem hafter⟩

/-- The order of a walk survives the change of a value. -/
theorem WalkOrder.modify (h : WalkOrder s) (key : LanspeedKey)
    (f : LanspeedCounters → LanspeedCounters) :
    WalkOrder { s with clients := s.clients.modify key f } := by
  apply h.changeMap
  intro c hc _ _
  rw [BucketMap.keysAfter, BucketMap.keys_modify]
  exact ⟨hc.present, fun k hk => .inl hk⟩

/-- The order of a walk survives the insertion of a key. -/
theorem WalkOrder.insertNew (h : WalkOrder s) {key : LanspeedKey} (hkey : key ∉ s.clients.keys)
    (v : LanspeedCounters) : WalkOrder { s with clients := s.clients.insertNew key v } := by
  refine h.changeMap fun c hc _ _ => ⟨BucketMap.mem_keys_insertNew.mpr (.inr hc.present), ?_⟩
  intro k hk
  rw [BucketMap.keysAfter, BucketMap.keys_insertNew hkey] at hk
  -- A new key that the walk will meet is in a later bucket, where nothing has been copied.
  have hne : c ≠ key := fun heq => hkey (heq ▸ hc.present)
  rcases BucketMap.mem_after_orderedInsert hne hc.present hk with hk | ⟨rfl, hlt⟩
  · exact .inl hk
  · exact .inr hlt

/-- The order of a walk survives an eviction that leaves the cursor. -/
theorem WalkOrder.erase (h : WalkOrder s) {key : LanspeedKey} (he : CursorStays s (.evict key)) :
    WalkOrder { s with clients := s.clients.erase key } := by
  apply h.changeMap
  intro c hc hres hw
  have hne : c ≠ key := fun heq => he hres hw (heq ▸ hc.lastKey)
  refine ⟨BucketMap.mem_keys_erase.mpr ⟨hc.present, hne⟩, fun k hk => ?_⟩
  rw [BucketMap.keysAfter, BucketMap.keys_erase, BucketMap.after_filter hne] at hk
  exact .inl (List.mem_filter.mp hk).1

/-- The next key of a walk with all copied keys behind it has not been copied. -/
theorem StandsAt.advance {c d : LanspeedKey} (h : StandsAt s c) (hnext : s.reader.nextKey = none)
    (hd : s.clients.nextKey s.reader.curKey = some d) :
    StandsAt { s with reader := { s.reader with nextKey := some d } } d := by
  have hcur : s.reader.curKey = some c := by
    have := h.lastKey
    rwa [Reader.lastKey, hnext, Option.none_or] at this
  rw [hcur, BucketMap.nextKey, if_pos h.present] at hd
  -- As `c` is in the map, the next key is the first of those after it.
  obtain ⟨ds, hds⟩ : ∃ ds, s.clients.keysAfter c = d :: ds := by
    cases hka : s.clients.keysAfter c with
    | nil => rw [hka] at hd; exact absurd hd (by simp)
    | cons d' ds => rw [hka] at hd; exact ⟨ds, by rw [Option.some.inj hd]⟩
  have hmem : d ∈ s.clients.keysAfter c := hds ▸ List.mem_cons_self
  refine ⟨rfl, BucketMap.mem_of_mem_after hmem, ?_, ?_, fun _ hcopied => h.behind d hcopied hmem⟩
  · intro k hk hka
    rw [BucketMap.keysAfter, BucketMap.after_head s.clients.keys_nodup hds] at hka
    exact h.behind k hk (hds ▸ List.mem_cons_of_mem d hka)
  · exact fun k hk =>
      (h.bucket k hk).trans (BucketMap.bucket_le_of_mem_after s.clients.sorted hmem)

/-- A walk that is about to look up a key stands at this key. -/
theorem StandsAt.eq_of_pending {c key : LanspeedKey} (h : StandsAt s c)
    (hnext : s.reader.nextKey = some key) : key = c := by
  have hlast := h.lastKey
  rw [Reader.lastKey, hnext, Option.some_or] at hlast
  exact Option.some.inj hlast

/-- The order of a walk survives the call that asks for the next key. -/
theorem WalkOrder.callGetNextKey (h : WalkOrder s) (max : ℕ) (fault : Option ℤ)
    (hres : s.reader.result = none) (hnext : s.reader.nextKey = none) :
    WalkOrder { s with reader := s.reader.call max s.clients fault } := by
  rcases Reader.call_getNextKey max hres hnext fault with ⟨res, hcall⟩ | ⟨key, hkey, hcall⟩
  · rw [hcall]
    exact ⟨h.nodup, fun hres' => absurd hres' (by simp)⟩
  · rw [hcall]
    refine ⟨h.nodup, fun _ hw => ?_⟩
    obtain ⟨c, hc⟩ := h.stands hres hw
    exact ⟨key, hc.advance hnext hkey⟩

/-- While the lookup of `key` is pending, `key` has not been copied, and what has been copied is
behind the walk that goes on from `key`. -/
theorem WalkOrder.of_pending (h : WalkOrder s) (hres : s.reader.result = none) {key : LanspeedKey}
    (hnext : s.reader.nextKey = some key) :
    key ∉ s.reader.copied ∧
      ∀ k ∈ s.reader.copied, k ∉ s.clients.keysAfter key ∧ bucketOf k ≤ bucketOf key := by
  by_cases hempty : s.reader.written = []
  · rw [copied_eq_nil_iff.mpr hempty]
    exact ⟨List.not_mem_nil, fun k hk => absurd hk List.not_mem_nil⟩
  · obtain ⟨c, hc⟩ := h.stands hres hempty
    obtain rfl := hc.eq_of_pending hnext
    exact ⟨hc.pending hnext, fun k hk => ⟨hc.behind k hk, hc.bucket k hk⟩⟩

/-- The order of a walk survives the call that looks a key up. -/
theorem WalkOrder.callLookup (h : WalkOrder s) (max : ℕ) (fault : Option ℤ)
    (hres : s.reader.result = none) {key : LanspeedKey} (hnext : s.reader.nextKey = some key) :
    WalkOrder { s with reader := s.reader.call max s.clients fault } := by
  obtain ⟨hcur, hnone, hw⟩ := Reader.call_lookup (m := s.clients) max hres hnext fault
  obtain ⟨hfresh, hold⟩ := h.of_pending hres hnext
  have hlast : (s.reader.call max s.clients fault).lastKey = some key := by
    rw [Reader.lastKey, hnone, hcur, Option.none_or]
  have hpending : (s.reader.call max s.clients fault).nextKey = some key →
      key ∉ (s.reader.call max s.clients fault).copied := by
    rw [hnone]
    exact fun h => absurd h (by simp)
  rcases hw with hw | ⟨counters, hget, hw⟩
  · -- Nothing is copied: the walk stands where it stood.
    have hcopied : (s.reader.call max s.clients fault).copied = s.reader.copied := by
      rw [Reader.copied, hw, Reader.copied]
    refine ⟨hcopied ▸ h.nodup, fun _ hne => ?_⟩
    obtain ⟨c, hc⟩ := h.stands hres (hw ▸ hne)
    obtain rfl := hc.eq_of_pending hnext
    exact ⟨key, hlast, hc.present, hcopied ▸ hc.behind, hcopied ▸ hc.bucket, hpending⟩
  -- The entry is copied: its key was not, and is now the one that the walk stands on.
  · have hcopied : (s.reader.call max s.clients fault).copied = s.reader.copied ++ [key] := by
      rw [Reader.copied, hw, List.map_append, List.map_singleton, key_sampleOfEntry, Reader.copied]
    have hpresent : key ∈ s.clients.keys := BucketMap.get?_isSome_iff.mp (by rw [hget]; rfl)
    refine ⟨?_, fun _ _ => ⟨key, hlast, hpresent, ?_, ?_, hpending⟩⟩
    · rw [hcopied]
      exact List.nodup_append.mpr ⟨h.nodup, List.nodup_singleton key, fun a ha b hb hab =>
        hfresh (List.mem_singleton.mp hb ▸ hab ▸ ha)⟩
    · rw [hcopied]
      refine List.forall_mem_append.mpr ⟨fun k hk => (hold k hk).1, ?_⟩
      exact List.forall_mem_singleton.mpr (BucketMap.not_mem_after_self s.clients.keys_nodup)
    · rw [hcopied]
      refine List.forall_mem_append.mpr ⟨fun k hk => (hold k hk).2, ?_⟩
      exact List.forall_mem_singleton.mpr (Nat.le_refl _)

/-- The order of a walk survives the next call of the reader. -/
theorem WalkOrder.call (h : WalkOrder s) (max : ℕ) (fault : Option ℤ) :
    WalkOrder { s with reader := s.reader.call max s.clients fault } := by
  cases hres : s.reader.result with
  | some res =>
    have hsame : s.reader.call max s.clients fault = s.reader := by simp only [Reader.call, hres]
    rw [hsame]
    exact h
  | none =>
    cases hnext : s.reader.nextKey with
    | none => exact h.callGetNextKey max fault hres hnext
    | some key => exact h.callLookup max fault hres hnext

/-- Every event that does not evict the key the walk stands on keeps the walk in order. -/
theorem WalkOrder.step (h : WalkOrder s) (max : ℕ) {e : MapEvent} (he : CursorStays s e) :
    WalkOrder (readStep max s e) := by
  cases e with
  | call fault => exact h.call max fault
  | frame key len ktimeNs =>
    by_cases hkey : key ∈ s.clients.keys
    · rw [readStep, if_pos hkey]
      exact h.modify key _
    · rw [readStep, if_neg hkey]
      exact h.insertNew hkey _
  | connection key proto => exact h.modify key _
  | evict key => exact h.erase he

end Step

/-- A walk that begins is in order. -/
theorem walkOrder_start {bucketOf : LanspeedKey → ℕ} (m : ClientsMap bucketOf) (objectLoaded : Bool)
    (max : ℕ) : WalkOrder ⟨m, Reader.start objectLoaded max⟩ := by
  have hw : (Reader.start objectLoaded max).written = [] := by
    rw [Reader.start]
    split_ifs <;> rfl
  refine ⟨?_, fun _ hne => absurd hw hne⟩
  rw [copied_eq_nil_iff.mpr hw]
  exact List.nodup_nil

/-- In every run in which no eviction hits the key on which the walk stands, the samples that have
been copied are of distinct keys. -/
theorem read_samples_distinct {bucketOf : LanspeedKey → ℕ} (m : ClientsMap bucketOf)
    (objectLoaded : Bool) (max : ℕ) {evs : List MapEvent}
    (hstays : Machine.Along (readStep max) CursorStays ⟨m, Reader.start objectLoaded max⟩ evs) :
    (Machine.run (readStep max) ⟨m, Reader.start objectLoaded max⟩ evs).reader.copied.Nodup :=
  (Machine.run_invariant_along (readStep max) (fun _ _ h he => h.step max he)
    (walkOrder_start m objectLoaded max) hstays).nodup

/-- The tx key of a client on one interface; its bucket is the last byte of the address. -/
def txKey (b : UInt8) : LanspeedKey := ⟨4, 0, lanspeedDirTx, ⟨2, 0, 0, 0, 0, b⟩⟩

/-- The bucket of a key in the runs below. -/
def lastByte (k : LanspeedKey) : ℕ := k.mac.b5.toNat

/-- A walk over two entries, with an eviction after both have been copied. -/
def walkWithEviction (evicted : LanspeedKey) : List MapEvent :=
  [.frame (txKey 1) 100 1, .frame (txKey 2) 100 2, .call none, .call none, .call none, .call none,
    .evict evicted, .call none, .call none, .call none]

/-- A walk during which another key is evicted. -/
theorem read_samples_distinct_evict_other :
    (Machine.run (readStep 4096) ⟨.empty, Reader.start true 4096⟩
      (walkWithEviction (txKey 1)) : ReadState lastByte).reader.copied.Nodup :=
  read_samples_distinct .empty true 4096 (by decide +kernel)

/-- The entry on which the walk stands is evicted, so that the walk starts again and copies the
first entry twice. -/
theorem read_samples_not_distinct_evict_cursor :
    (Machine.run (readStep 4096) ⟨.empty, Reader.start true 4096⟩
        (walkWithEviction (txKey 2)) : ReadState lastByte).reader.result = some (.ok ()) ∧
      ¬ (Machine.run (readStep 4096) ⟨.empty, Reader.start true 4096⟩
        (walkWithEviction (txKey 2)) : ReadState lastByte).reader.copied.Nodup :=
  ⟨rfl, by decide +kernel⟩

end Lanspeed
