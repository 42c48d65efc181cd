import Lanspeed.LiveMap

/-!
# The rates of a live map

In a run whose ticks are sound (`SoundTick`), the rates that `collect_bpf_clients` publishes never
stand for more bytes than were accounted between the beginning of the older and the end of the newer
of the last two walks (`published_bits_le`), and without evictions for no fewer than between the end
of the older and the beginning of the newer one (`published_bits_ge`). Over all walks since the last
reset they add up to no more than was accounted (`published_bits_sum_le`).
-/

namespace Lanspeed

variable {bucketOf : LanspeedKey → ℕ}

/-! ## The totals of an identity -/

/-- The map keys whose entries count for an identity in one direction, with the interface names of a
run. -/
def countsFor (ifIndexToName : UInt32 → Option CStr) (dir : Direction) (key : CStr) :
    LanspeedKey → Bool :=
  foldsInto { nowMs := 0, maxFolded := 0, ifIndexToName, arp := [] } dir key

/-- The identity of an entry depends on the names of the interfaces only. -/
theorem rawKey_eq {env : FoldEnv} {ifIndexToName : UInt32 → Option CStr}
    (henv : env.ifIndexToName = ifIndexToName) (raw : LanspeedBpfSample) :
    rawKey env raw = rawKey { nowMs := 0, maxFolded := 0, ifIndexToName, arp := [] }
      (sampleOfEntry (raw.key, {})) := by
  rw [rawKey, henv]
  exact congrArg (Option.map RawIdentity.key) (rawIdentity_congr rfl rfl)

/-- An entry adds its bytes to the clients that its key counts for. -/
theorem rawBytes_eq {env : FoldEnv} {ifIndexToName : UInt32 → Option CStr}
    (henv : env.ifIndexToName = ifIndexToName) (dir : Direction)
    (key : CStr) (raw : LanspeedBpfSample) :
    rawBytes env dir key raw = if countsFor ifIndexToName dir key raw.key then raw.bytes
      else 0 := by
  simp only [rawBytes, countsFor, foldsInto, rawKey_eq henv, decide_eq_true_eq]
  rfl

/-- What copied entries of distinct keys show for the keys that satisfy `p`. -/
theorem sum_bytesShown {p : LanspeedKey → Bool} {raws : List LanspeedBpfSample}
    (hnodup : (raws.map LanspeedBpfSample.key).Nodup) {S : Finset LanspeedKey}
    (hS : ∀ k ∈ S, p k = true) (hcover : ∀ raw ∈ raws, p raw.key = true → raw.key ∈ S) :
    ∑ k ∈ S, bytesShown raws k =
      (raws.map fun raw => if p raw.key then raw.bytes.toNat else 0).sum :=
  Keyed.Distinct.sum_lookup hnodup (fun raw => raw.bytes.toNat) hS hcover

/-- The keys of an identity that copied entries or the frames of some events have. -/
def identityKeys (p : LanspeedKey → Bool) (walks : List Walk) (evs : List MapEvent) :
    Finset LanspeedKey :=
  (((walks.flatMap fun w => w.raws.map LanspeedBpfSample.key) ++
    evs.filterMap (MapEvent.frameKey? p)).filter
    fun k => p k).toFinset

/-- The keys of an identity count for it. -/
theorem of_mem_identityKeys {p : LanspeedKey → Bool} {walks : List Walk}
    {evs : List MapEvent} {k : LanspeedKey} (h : k ∈ identityKeys p walks evs) : p k = true := by
  simp only [identityKeys, List.mem_toFinset, List.mem_filter] at h
  exact h.2

/-- A key that a walk has read and that counts is among the keys of the identity. -/
theorem key_mem_identityKeys {p : LanspeedKey → Bool} {walks : List Walk}
    {evs : List MapEvent} {w : Walk}
    (hw : w ∈ walks) {raw : LanspeedBpfSample} (hraw : raw ∈ w.raws) (hp : p raw.key = true) :
    raw.key ∈ identityKeys p walks evs := by
  simp only [identityKeys, List.mem_toFinset, List.mem_filter]
  exact ⟨List.mem_append_left _ (List.mem_flatMap.mpr ⟨w, hw, List.mem_map_of_mem hraw⟩), hp⟩

/-- A key that a frame was accounted to and that counts is among the keys of the identity. -/
theorem frameKey_mem_identityKeys {p : LanspeedKey → Bool} {walks : List Walk}
    {evs : List MapEvent} {e : MapEvent}
    (he : e ∈ evs) {k : LanspeedKey} (hk : e.frameKey? p = some k) :
    k ∈ identityKeys p walks evs := by
  have hp : p k = true := by
    cases e with
    | frame key len ktimeNs =>
      rw [MapEvent.frameKey?] at hk
      split_ifs at hk with hp
      exact Option.some.inj hk ▸ hp
    | call _ => exact absurd hk (by simp [MapEvent.frameKey?])
    | connection _ _ => exact absurd hk (by simp [MapEvent.frameKey?])
    | evict _ => exact absurd hk (by simp [MapEvent.frameKey?])
  simp only [identityKeys, List.mem_toFinset, List.mem_filter]
  exact ⟨List.mem_append_right _ (List.mem_filterMap.mpr ⟨e, he, hk⟩), hp⟩

/-- The total that a walk shows for an identity. -/
def Walk.total (w : Walk) (dir : Direction) (key : CStr) : ℕ :=
  (clientTotal dir key w.read.samples).toNat

section Totals

variable {ifIndexToName : UInt32 → Option CStr} {s : LiveState bucketOf}
    {dir : Direction} {key : CStr}

/-- What a walk shows was accounted. -/
theorem History.sum_bytesShown_le (h : History ifIndexToName s) {w : Walk} (hw : w ∈ s.walks)
    {S : Finset LanspeedKey} {p : LanspeedKey → Bool} (hS : ∀ k ∈ S, p k = true) :
    ∑ k ∈ S, bytesShown w.raws k ≤ accounted (fun _ => true) s.passed := by
  calc ∑ k ∈ S, bytesShown w.raws k
    _ ≤ ∑ k ∈ S, accounted (only k) w.ended := Finset.sum_le_sum fun k _ => h.shown_le w hw k
    _ ≤ accounted p w.ended := sum_accounted_only_le hS w.ended
    _ ≤ accounted (fun _ => true) w.ended := accounted_mono (fun _ _ => rfl) w.ended
    _ ≤ accounted (fun _ => true) s.passed := accounted_le_of_earlier _ (h.ended_passed w hw)

/-- Where the counters do not overflow, the total that a walk shows for an identity is what its
entries show. -/
theorem History.total_eq (h : History ifIndexToName s)
    (hbytes : accounted (fun _ => true) s.passed < 2 ^ 64)
    {w : Walk} (hw : w ∈ s.walks) {S : Finset LanspeedKey}
    (hS : ∀ k ∈ S, countsFor ifIndexToName dir key k = true)
    (hcover : ∀ raw ∈ w.raws, countsFor ifIndexToName dir key raw.key = true → raw.key ∈ S) :
    w.total dir key = ∑ k ∈ S, bytesShown w.raws k := by
  obtain ⟨env, henv, hsamples, hfit⟩ := h.folded w hw
  have hsum : clientTotal dir key w.read.samples =
      UInt64.ofNat (∑ k ∈ S, bytesShown w.raws k) := by
    rw [hsamples, clientTotal_bpfFold dir key hfit, sum_bytesShown (h.nodup w hw) hS hcover,
      ← Word.sum_map_ofNat]
    congr 1
    refine List.map_congr_left fun raw _ => ?_
    rw [rawBytes_eq henv]
    split_ifs
    · exact UInt64.ofNat_toNat.symm
    · rfl
  rw [Walk.total, hsum, UInt64.toNat_ofNat_of_lt' ((h.sum_bytesShown_le hw hS).trans_lt hbytes)]

/-- Keys that take in all that the walks show for an identity, and the frames of some events. -/
theorem History.exists_keys (h : History ifIndexToName s)
    (hbytes : accounted (fun _ => true) s.passed < 2 ^ 64)
    (dir : Direction) (key : CStr) (evs : List MapEvent) :
    ∃ S : Finset LanspeedKey, (∀ k ∈ S, countsFor ifIndexToName dir key k = true) ∧
      (∀ w ∈ s.walks, w.total dir key = ∑ k ∈ S, bytesShown w.raws k) ∧
      ∀ e ∈ evs, ∀ k, e.frameKey? (countsFor ifIndexToName dir key) = some k → k ∈ S := by
  refine ⟨identityKeys (countsFor ifIndexToName dir key) s.walks evs,
    fun _ => of_mem_identityKeys, ?_, ?_⟩
  · exact fun w hw => h.total_eq hbytes hw (fun _ => of_mem_identityKeys)
      fun _ => key_mem_identityKeys hw
  · exact fun e he k hk => frameKey_mem_identityKeys he hk

/-- From the beginning of one walk to the end of a later one. -/
theorem eq_append_span {before last : Walk} (h : before.begun <+: last.ended) :
    last.ended = before.begun ++ before.span last := by
  obtain ⟨rest, hrest⟩ := h
  rw [Walk.span, ← hrest, List.drop_left]

/-- Where the walks miss nothing, the total of an identity grew from one walk to the next by at
least what was accounted for it between them. -/
theorem MissesNothing.total_add_le (hp : MissesNothing (countsFor ifIndexToName dir key) s)
    (h : History ifIndexToName s)
    (hbytes : accounted (fun _ => true) s.passed < 2 ^ 64) {last before : Walk} {older : List Walk}
    (hwalks : s.walks = last :: before :: older) :
    before.total dir key + accounted (countsFor ifIndexToName dir key) (before.between last) ≤
      last.total dir key := by
  obtain ⟨S, hS, htotal, hframes⟩ := h.exists_keys hbytes dir key (before.between last)
  have hbetween := hp.between
  have hapart := h.apart
  rw [hwalks] at htotal hbetween hapart
  have hshown := (List.isChain_cons_cons.mp hbetween).1
  have hprefix := (List.pairwise_cons.mp hapart).1 before List.mem_cons_self
  have hbegun : ∀ k, accounted (only k) last.begun =
      accounted (only k) before.ended + accounted (only k) (before.between last) := by
    obtain ⟨rest, hrest⟩ := hprefix
    intro k
    rw [Walk.between, ← hrest, List.drop_left, accounted_append]
  rw [htotal last List.mem_cons_self, htotal before (List.mem_cons_of_mem _ List.mem_cons_self)]
  calc ∑ k ∈ S, bytesShown before.raws k + accounted (countsFor ifIndexToName dir key)
        (before.between last)
    _ ≤ ∑ k ∈ S, bytesShown before.raws k + ∑ k ∈ S, accounted (only k) (before.between last) :=
      Nat.add_le_add_left (accounted_le_sum_only hframes) _
    _ = ∑ k ∈ S, (bytesShown before.raws k + accounted (only k) (before.between last)) :=
      Finset.sum_add_distrib.symm
    _ ≤ ∑ k ∈ S, bytesShown last.raws k := by
      refine Finset.sum_le_sum fun k hk => ?_
      have hshown := hshown k (hS k hk)
      have hbegun := hbegun k
      omega

/-- A walk shows no more bytes of a client than were ever accounted. -/
theorem History.total_le (h : History ifIndexToName s)
    (hbytes : accounted (fun _ => true) s.passed < 2 ^ 64) {w : Walk}
    (hw : w ∈ s.walks) (dir : Direction)
    (key : CStr) : w.total dir key ≤ accounted (fun _ => true) s.passed := by
  obtain ⟨S, hS, htotal, -⟩ := h.exists_keys hbytes dir key []
  rw [htotal w hw]
  exact h.sum_bytesShown_le hw hS

end Totals

/-! ## The published rates -/

/-- No word is published above its value. -/
theorem jsonInt64_le (x : UInt64) : jsonInt64 x ≤ x.toNat := by
  rw [jsonInt64]
  by_cases hx : x.toNat < 2 ^ 63
  · rw [Word.toInt_toInt64_of_lt hx]
  · rw [Word.toInt_toInt64_of_ge (Nat.not_lt.mp hx)]
    omega

section Rate

variable (hostnameLookup : CStr → List CStr → Option CStr) (snapshotMs deltaMs : UInt64)
  (previous : List BpfClientSample) (cur : BpfClientSample) (dir : Direction)

/-- A published rate is that of the client's total against the total of its previous sample. -/
theorem bps_bpfClientJson :
    (bpfClientJson hostnameLookup snapshotMs deltaMs previous cur).bps dir =
      match Keyed.lookup BpfClientSample.identityKey cur.identityKey previous with
      | none => 0
      | some prev => jsonInt64 (deltaBps (cur.bytes dir) (prev.bytes dir) deltaMs).1 := by
  rw [bpfClientJson]
  cases Keyed.lookup BpfClientSample.identityKey cur.identityKey previous with
  | none => cases dir <;> rfl
  | some prev => cases dir <;> rfl

/-- A published rate stands for no more bits than the growth of the total. -/
theorem bps_mul_le :
    (bpfClientJson hostnameLookup snapshotMs deltaMs previous cur).bps dir * deltaMs.toNat ≤
      (bpsScale * ((cur.bytes dir).toNat -
        (clientTotal dir cur.identityKey previous).toNat) : ℕ) := by
  rw [bps_bpfClientJson, clientTotal]
  cases Keyed.lookup BpfClientSample.identityKey cur.identityKey previous with
  | none =>
    dsimp only
    rw [Int.zero_mul]
    exact Int.natCast_nonneg _
  | some prev =>
    have hword : wordBps (cur.bytes dir) (prev.bytes dir) deltaMs * deltaMs.toNat ≤
        bpsScale * ((cur.bytes dir).toNat - (prev.bytes dir).toNat) := by
      rw [wordBps]
      split_ifs
      · exact (Nat.div_mul_le_self _ _).trans (Nat.mod_le _ _)
      · rw [Nat.zero_mul]
        exact Nat.zero_le _
    have hjson := jsonInt64_le (deltaBps (cur.bytes dir) (prev.bytes dir) deltaMs).1
    rw [toNat_deltaBps_mod] at hjson
    calc jsonInt64 (deltaBps (cur.bytes dir) (prev.bytes dir) deltaMs).1 * deltaMs.toNat
      _ ≤ (wordBps (cur.bytes dir) (prev.bytes dir) deltaMs : ℤ) * deltaMs.toNat :=
        Int.mul_le_mul_of_nonneg_right hjson (Int.natCast_nonneg _)
      _ ≤ _ := by exact_mod_cast hword

/-- A published rate, rounded up, stands for more bits than the growth of a total that did not fall,
when they are fewer than `2 ^ 63`. -/
theorem lt_bps_mul {prev : BpfClientSample}
    (hprev : Keyed.lookup BpfClientSample.identityKey cur.identityKey previous = some prev)
    (hle : prev.bytes dir ≤ cur.bytes dir) (hdelta : 0 < deltaMs)
    (hbits : bpsScale * ((cur.bytes dir).toNat - (prev.bytes dir).toNat) < 2 ^ 63) :
    ((bpsScale * ((cur.bytes dir).toNat - (prev.bytes dir).toNat) : ℕ) : ℤ) <
      ((bpfClientJson hostnameLookup snapshotMs deltaMs previous cur).bps dir + 1) *
        deltaMs.toNat := by
  have hpos : 0 < deltaMs.toNat := UInt64.lt_iff_toNat_lt.mp hdelta
  have hword : (deltaBps (cur.bytes dir) (prev.bytes dir) deltaMs).1.toNat =
      bpsScale * ((cur.bytes dir).toNat - (prev.bytes dir).toNat) / deltaMs.toNat := by
    rw [toNat_deltaBps_mod, wordBps, if_pos hle, scaledGrowth,
      Nat.mod_eq_of_lt (hbits.trans (by decide))]
  have hjson : jsonInt64 (deltaBps (cur.bytes dir) (prev.bytes dir) deltaMs).1 =
      (bpsScale * ((cur.bytes dir).toNat - (prev.bytes dir).toNat) / deltaMs.toNat : ℕ) :=
    (jsonInt64_eq_iff hword).mpr ((Nat.div_le_self _ _).trans_lt hbits)
  rw [bps_bpfClientJson, hprev]
  dsimp only
  rw [hjson]
  exact_mod_cast (Nat.lt_mul_div_succ _ hpos).trans_eq (Nat.mul_comm _ _)

end Rate

/-- What the collector publishes for an identity with the last two reads, in bits: the rate times
the time. -/
def publishedBits (hostnameLookup : CStr → List CStr → Option CStr) (dir : Direction) (key : CStr)
    (last before : BpfRead) : ℤ :=
  match Keyed.lookup ClientJson.identityKey key (last.samples.map
      (bpfClientJson hostnameLookup last.atMs (last.atMs - before.atMs) before.samples)) with
  | none => 0
  | some client => client.bps dir * ((last.atMs.toNat - before.atMs.toNat : ℕ) : ℤ)

/-- What the collector publishes for an identity over consecutive reads, newest first. -/
def publishedBitsOver (hostnameLookup : CStr → List CStr → Option CStr)
    (dir : Direction) (key : CStr) :
    List BpfRead → ℤ
  | last :: before :: older =>
    publishedBits hostnameLookup dir key last before +
      publishedBitsOver hostnameLookup dir key (before :: older)
  | _ => 0

/-- The client of a reply is made from the sample of its identity. -/
theorem lookup_map_bpfClientJson (hostnameLookup : CStr → List CStr → Option CStr)
    (snapshotMs deltaMs : UInt64) (previous samples : List BpfClientSample) (key : CStr) :
    Keyed.lookup ClientJson.identityKey key
        (samples.map (bpfClientJson hostnameLookup snapshotMs deltaMs previous)) =
      (Keyed.lookup BpfClientSample.identityKey key samples).map
        (bpfClientJson hostnameLookup snapshotMs deltaMs previous) := by
  rw [Keyed.lookup, List.find?_map]
  rfl

section Published

variable {ifIndexToName : UInt32 → Option CStr} {s : LiveState bucketOf}

/-- The bits published for a pair of walks are at most those that the total grew by. -/
theorem publishedBits_le (hostnameLookup : CStr → List CStr → Option CStr)
    (dir : Direction) (key : CStr) {last before : BpfRead} (htime : before.atMs < last.atMs) :
    publishedBits hostnameLookup dir key last before ≤
      (bpsScale * ((clientTotal dir key last.samples).toNat -
        (clientTotal dir key before.samples).toNat) : ℕ) := by
  rw [publishedBits, lookup_map_bpfClientJson]
  cases hcur : Keyed.lookup BpfClientSample.identityKey key last.samples with
  | none => exact Int.natCast_nonneg _
  | some cur =>
    have hdt : (last.atMs - before.atMs).toNat = last.atMs.toNat - before.atMs.toNat :=
      UInt64.toNat_sub_of_le _ _ (UInt64.le_of_lt htime)
    have hkey := Keyed.key_of_lookup hcur
    have hle := bps_mul_le hostnameLookup last.atMs (last.atMs - before.atMs) before.samples cur dir
    rw [hdt, hkey] at hle
    rw [clientTotal, hcur]
    exact hle

/-- Over consecutive walks, what is published for an identity is at most the growth of what the
walks show. -/
theorem publishedBitsOver_le (hostnameLookup : CStr → List CStr → Option CStr)
    (dir : Direction) (key : CStr) {S : Finset LanspeedKey} {walks : List Walk}
    (htotal : ∀ w ∈ walks, w.total dir key = ∑ k ∈ S, bytesShown w.raws k)
    (htimes : (walks.map Walk.read).Pairwise fun r r' => r'.atMs < r.atMs) :
    publishedBitsOver hostnameLookup dir key (walks.map Walk.read) ≤
      (bpsScale * SampledCounters.growths S (walks.map Walk.reading) : ℕ) := by
  induction walks with
  | nil => exact le_rfl
  | cons last walks ih =>
    cases walks with
    | nil => exact le_rfl
    | cons before older =>
      obtain ⟨hlast, hrest⟩ := List.forall_mem_cons.mp htotal
      obtain ⟨hlater, htimes⟩ := List.pairwise_cons.mp htimes
      have hpair := publishedBits_le hostnameLookup dir key (hlater before.read List.mem_cons_self)
      have hsum := ih hrest htimes
      have htotals :
          (clientTotal dir key last.read.samples).toNat -
              (clientTotal dir key before.read.samples).toNat =
            ∑ k ∈ S, bytesShown last.raws k - ∑ k ∈ S, bytesShown before.raws k :=
        congrArg₂ (· - ·) hlast (hrest before List.mem_cons_self)
      rw [htotals] at hpair
      have hgrowths : SampledCounters.growths S ((last :: before :: older).map Walk.reading) =
          (∑ k ∈ S, bytesShown last.raws k - ∑ k ∈ S, bytesShown before.raws k) +
            SampledCounters.growths S ((before :: older).map Walk.reading) := rfl
      rw [hgrowths, Nat.mul_add, Nat.cast_add]
      exact add_le_add hpair hsum

/-- The growths over consecutive walks add up to at most what was accounted from the beginning of
the oldest to the end of the newest. -/
theorem growths_le_accounted {walks : List Walk} {taken : LanspeedKey → ℕ}
    (hsound : SampledCounters.Sound (walks.map Walk.reading) taken)
    (hbegun : ∀ w ∈ walks, w.begun <+: w.ended)
    (hapart : walks.Pairwise fun w prev => prev.ended <+: w.begun)
    {last oldest : Walk} (hlast : walks.head? = some last) (holdest : walks.getLast? = some oldest)
    {S : Finset LanspeedKey} {p : LanspeedKey → Bool} (hS : ∀ k ∈ S, p k = true) :
    SampledCounters.growths S (walks.map Walk.reading) ≤ accounted p (oldest.span last) := by
  have horder : SampledCounters.OneAfterAnother (walks.map Walk.reading) := by
    refine List.Pairwise.isChain (List.pairwise_map.mpr (hapart.imp fun h k => ?_))
    exact accounted_le_of_earlier _ h
  have hnewest : (walks.map Walk.reading).head? = some last.reading := by
    rw [List.head?_map, hlast]
    rfl
  have holdest' : (walks.map Walk.reading).getLast? = some oldest.reading := by
    rw [List.getLast?_map, holdest]
    rfl
  have hgrowths := hsound.growths_le S horder hnewest holdest'
  have hprefix : oldest.begun <+: last.ended := by
    obtain ⟨rest, rfl⟩ := List.head?_eq_some_iff.mp hlast
    have hmem := List.mem_of_getLast? holdest
    have hlast := hbegun last List.mem_cons_self
    rcases List.mem_cons.mp hmem with rfl | hrest
    · exact hlast
    · exact (hbegun oldest hmem).trans (((List.pairwise_cons.mp hapart).1 oldest hrest).trans hlast)
  have hended : ∑ k ∈ S, last.reading.ended k =
      ∑ k ∈ S, oldest.reading.begun k + ∑ k ∈ S, accounted (only k) (oldest.span last) := by
    rw [← Finset.sum_add_distrib]
    refine Finset.sum_congr rfl fun k _ => ?_
    change accounted (only k) last.ended = accounted (only k) oldest.begun + _
    rw [← accounted_append, ← eq_append_span hprefix]
  have hspan := sum_accounted_only_le hS (oldest.span last)
  omega

/-- What the collector publishes, in terms of the walks. -/
theorem History.exists_walks_of_published (h : History ifIndexToName s)
    {cfg : CollectorConfig} {env : BpfPublishEnv}
    {clients : List ClientJson} (hpub : collectBpfClients cfg env s.st = some clients) :
    ∃ last before older, s.walks = last :: before :: older ∧ before.read.atMs < last.read.atMs ∧
      DistinctIdentities last.read.samples ∧
      clients = last.read.samples.map (bpfClientJson env.hostnameLookup last.read.atMs
        (last.read.atMs - before.read.atMs) before.read.samples) := by
  obtain ⟨-, last, before, older, hreads, -, hclients⟩ :=
    (collectBpfClients_eq_some_iff cfg env h.snapshots clients).mp
    hpub
  have htimes := h.snapshots.times_decreasing
  have hdistinct := h.snapshots.distinct last (hreads ▸ List.mem_cons_self)
  rw [hreads] at htimes
  obtain ⟨wl, rest, hwalks, rfl, hrest⟩ := List.map_eq_cons_iff.mp hreads
  obtain ⟨wb, older, rfl, rfl, -⟩ := List.map_eq_cons_iff.mp hrest
  exact ⟨wl, wb, older, hwalks, (List.pairwise_cons.mp htimes).1 _ List.mem_cons_self,
    hdistinct, hclients⟩

end Published

/-- The first walk of `twoWalks`. -/
def firstWalk : Walk :=
  { read := ⟨1000, [oneClientSample 0 1000]⟩
    raws := [{ oneClientRaw 1000 with lastSeenNs := 1 }]
    begun := [.frame (txKey 1) 1000 1]
    ended := [.frame (txKey 1) 1000 1, .call none, .call none, .call none] }

/-- The second walk of `twoWalks`. -/
def secondWalk : Walk :=
  { read := ⟨2000, [oneClientSample 0 1570]⟩
    raws := [{ oneClientRaw 1570 with packets := 3, lastSeenNs := 3 }]
    begun := firstWalk.ended ++ [.frame (txKey 1) 500 2]
    ended :=
      firstWalk.ended ++ [.frame (txKey 1) 500 2, .frame (txKey 1) 70 3, .call none, .call none,
        .frame (txKey 1) 30 4, .call none] }

/-- The client that is published after `twoWalks`. -/
def twoWalksClient : ClientJson :=
  { mac := "02:00:00:00:00:01".toList, identityKey := "02:00:00:00:00:01@lan".toList
    zone := "lan".toList, interface := "br-lan".toList, ips := [], hostname := none, rxBps := 0
    txBps := 4560, rxBytes := 0, txBytes := 1570, tcpConns := 0, udpConns := 0, sampleMs := 2000
    lastSeen := 0, collectorMode := "bpf".toList, confidence := "high".toList, warnings := [] }

section Runs

variable {cfg : CollectorConfig} {max : ℕ} {ifIndexToName : UInt32 → Option CStr}
  (run : LiveRun bucketOf cfg max ifIndexToName)

/-- In a run of sound ticks that accounts fewer than `2 ^ 64` bytes, over all walks since the last
reset, what is published for an identity is at most what was accounted for it from the beginning of
the oldest to the end of the newest walk. -/
theorem published_bits_sum_le (hbytes : accounted (fun _ => true) run.state.passed < 2 ^ 64)
    (hostnameLookup : CStr → List CStr → Option CStr) (dir : Direction)
    (key : CStr) {last oldest : Walk}
    (hlast : run.state.walks.head? = some last) (holdest : run.state.walks.getLast? = some oldest) :
    publishedBitsOver hostnameLookup dir key (run.state.walks.map Walk.read) ≤
      (bpsScale * accounted (countsFor ifIndexToName dir key) (oldest.span last) : ℕ) := by
  have h := run.history
  obtain ⟨taken, hsound, -⟩ := h.sound
  obtain ⟨S, hS, htotal, -⟩ := h.exists_keys hbytes dir key []
  have hpublished := publishedBitsOver_le hostnameLookup dir key htotal h.snapshots.times_decreasing
  have hgrowths := growths_le_accounted hsound h.begun_ended h.apart hlast holdest hS
  exact hpublished.trans (by exact_mod_cast Nat.mul_le_mul_left bpsScale hgrowths)

/-- The bound on the sum for a run with two walks. -/
theorem published_bits_sum_le_twoWalks :
    publishedBitsOver (fun _ _ => none) .tx "02:00:00:00:00:01@lan".toList
      (twoWalks.state.walks.map Walk.read) ≤
      (bpsScale * accounted
        (countsFor (fun ifindex => if ifindex = 4 then some "br-lan".toList else none) .tx
          "02:00:00:00:00:01@lan".toList) (firstWalk.span secondWalk) : ℕ) :=
  published_bits_sum_le twoWalks (by decide +kernel) (fun _ _ => none) .tx
    "02:00:00:00:00:01@lan".toList (by decide +kernel) (by decide +kernel)

/-- In a run of sound ticks that accounts fewer than `2 ^ 64` bytes, a published rate stands for no
more bytes than were accounted for the client from the beginning of the older to the end of the
newer of the last two walks. -/
theorem published_bits_le (hbytes : accounted (fun _ => true) run.state.passed < 2 ^ 64)
    (env : BpfPublishEnv)
    {clients : List ClientJson} (hpub : collectBpfClients cfg env run.state.st = some clients)
    {client : ClientJson} (hclient : client ∈ clients) (dir : Direction) :
    ∃ last before older, run.state.walks = last :: before :: older ∧
      client.bps dir * ((last.read.atMs.toNat - before.read.atMs.toNat : ℕ) : ℤ) ≤
        (bpsScale * accounted (countsFor ifIndexToName dir client.identityKey)
          (before.span last) : ℕ) := by
  have h := run.history
  obtain ⟨last, before, older, hwalks, htime, hdistinct, rfl⟩ := h.exists_walks_of_published hpub
  refine ⟨last, before, older, hwalks, ?_⟩
  obtain ⟨cur, hcur, rfl⟩ := List.mem_map.mp hclient
  obtain ⟨S, hS, htotal, -⟩ := h.exists_keys hbytes dir cur.identityKey []
  -- The two walks alone are sound readings.
  obtain ⟨taken, hsound, -⟩ := h.sound
  have hapart := h.apart
  have hbegun := h.begun_ended
  rw [hwalks] at hsound htotal hapart hbegun
  have htwo : SampledCounters.Sound ([last, before].map Walk.reading) taken := hsound.take 2
  have hsub : [last, before].Sublist (last :: before :: older) :=
    List.take_sublist 2 (last :: before :: older)
  have hgrowths := growths_le_accounted htwo (fun w hw => hbegun w (hsub.subset hw))
    (hapart.sublist hsub) rfl rfl hS
  have hgrowth : SampledCounters.growths S ([last, before].map Walk.reading) =
      last.total dir cur.identityKey - before.total dir cur.identityKey := by
    rw [htotal last List.mem_cons_self, htotal before (List.mem_cons_of_mem _ List.mem_cons_self)]
    rfl
  have hpair := publishedBits_le env.hostnameLookup dir cur.identityKey htime
  rw [publishedBits, lookup_map_bpfClientJson, hdistinct.lookup_of_mem hcur] at hpair
  rw [hgrowth] at hgrowths
  exact hpair.trans (by exact_mod_cast Nat.mul_le_mul_left bpsScale hgrowths)

/-- The bound on one rate for a run with two walks. -/
theorem published_bits_le_twoWalks :
    ∃ last before older, twoWalks.state.walks = last :: before :: older ∧
      twoWalksClient.bps .tx * ((last.read.atMs.toNat - before.read.atMs.toNat : ℕ) : ℤ) ≤
        (bpsScale * accounted
          (countsFor (fun ifindex => if ifindex = 4 then some "br-lan".toList else none) .tx
            twoWalksClient.identityKey) (before.span last) : ℕ) :=
  published_bits_le twoWalks (by decide +kernel) burstEnv
    (show collectBpfClients bpfConfig burstEnv twoWalks.state.st =
      some [twoWalksClient] by decide +kernel)
    List.mem_cons_self .tx

/-- In a run of sound ticks in which no entry of a client is evicted and all bits, times 1000, stay
below `2 ^ 63`, a published rate, rounded up, stands for more bytes than were accounted for the
client between the last two walks, if the older one has the client. -/
theorem published_bits_ge (hbits : bpsScale * accounted (fun _ => true) run.state.passed < 2 ^ 63)
    (env : BpfPublishEnv) {clients : List ClientJson}
    (hpub : collectBpfClients cfg env run.state.st = some clients)
    {client : ClientJson} (hclient : client ∈ clients) {dir : Direction}
    (hkept : ∀ e ∈ run.events, KeepsEntries (countsFor ifIndexToName dir client.identityKey) e)
    {last before : Walk} {older : List Walk} (hwalks : run.state.walks = last :: before :: older)
    (hknown : client.identityKey ∈ before.read.samples.map BpfClientSample.identityKey) :
    ((bpsScale * accounted (countsFor ifIndexToName dir client.identityKey)
      (before.between last) : ℕ) : ℤ) <
      (client.bps dir + 1) * ((last.read.atMs.toNat - before.read.atMs.toNat : ℕ) : ℤ) := by
  have hbytes : accounted (fun _ => true) run.state.passed < 2 ^ 64 :=
    (Nat.le_mul_of_pos_left _ (by decide)).trans_lt (hbits.trans (by decide))
  have h := run.history
  have hgrowth := (run.missesNothing hkept hbytes).total_add_le h hbytes hwalks
  have hle := h.total_le hbytes (hwalks ▸ List.mem_cons_self) dir client.identityKey
  obtain ⟨last', before', older', hwalks', htime, hdistinct, rfl⟩ :=
    h.exists_walks_of_published hpub
  obtain ⟨rfl, rfl, rfl⟩ : last = last' ∧ before = before' ∧ older = older' := by
    simpa using hwalks.symm.trans hwalks'
  obtain ⟨cur, hcur, rfl⟩ := List.mem_map.mp hclient
  obtain ⟨prev, hprev⟩ := Option.ne_none_iff_exists'.mp (Keyed.mem_map_key_iff.mp hknown)
  change Keyed.lookup BpfClientSample.identityKey cur.identityKey before.read.samples =
    some prev at hprev
  have hlast : last.total dir cur.identityKey = (cur.bytes dir).toNat := by
    rw [Walk.total, clientTotal, hdistinct.lookup_of_mem hcur]
    rfl
  have hbefore : before.total dir cur.identityKey = (prev.bytes dir).toNat := by
    rw [Walk.total, clientTotal, hprev]
    rfl
  have hdt :
      (last.read.atMs - before.read.atMs).toNat = last.read.atMs.toNat - before.read.atMs.toNat :=
    UInt64.toNat_sub_of_le _ _ (UInt64.le_of_lt htime)
  change before.total dir cur.identityKey + accounted (countsFor ifIndexToName dir cur.identityKey)
    (before.between last) ≤ last.total dir cur.identityKey at hgrowth
  change last.total dir cur.identityKey ≤ _ at hle
  rw [hlast, hbefore] at hgrowth
  rw [hlast] at hle
  have hrate := lt_bps_mul env.hostnameLookup last.read.atMs (last.read.atMs - before.read.atMs)
    before.read.samples cur dir hprev (UInt64.le_iff_toNat_le.mpr (by omega)) ?_ ?_
  · rw [hdt] at hrate
    refine lt_of_le_of_lt ?_ hrate
    have hmul :
        bpsScale * accounted (countsFor ifIndexToName dir cur.identityKey) (before.between last) ≤
        bpsScale * ((cur.bytes dir).toNat - (prev.bytes dir).toNat) :=
        Nat.mul_le_mul_left _ (by omega)
    exact_mod_cast hmul
  · rw [UInt64.lt_iff_toNat_lt, hdt]
    exact Nat.sub_pos_of_lt (UInt64.lt_iff_toNat_lt.mp htime)
  · refine lt_of_le_of_lt (Nat.mul_le_mul_left _ ?_) hbits
    exact (Nat.sub_le _ _).trans hle

/-- The bound from below for a run with two walks. -/
theorem published_bits_ge_twoWalks :
    ((bpsScale * accounted
        (countsFor (fun ifindex => if ifindex = 4 then some "br-lan".toList else none) .tx
          twoWalksClient.identityKey) (firstWalk.between secondWalk) : ℕ) : ℤ) <
      (twoWalksClient.bps .tx + 1) *
        ((secondWalk.read.atMs.toNat - firstWalk.read.atMs.toNat : ℕ) : ℤ) :=
  published_bits_ge twoWalks (by decide +kernel) burstEnv
    (show collectBpfClients bpfConfig burstEnv twoWalks.state.st =
      some [twoWalksClient] by decide +kernel)
    List.mem_cons_self (by simp [twoWalks, KeepsEntries, LiveEvent.mapEvents])
      (show twoWalks.state.walks =
      [secondWalk, firstWalk] by decide +kernel) (by decide +kernel)

end Runs

end Lanspeed
