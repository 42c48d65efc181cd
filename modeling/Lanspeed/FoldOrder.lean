import Lanspeed.BpfRates
import Mathlib.Algebra.BigOperators.Group.List.Lemmas

/-!
# The order of the map entries

The map hands out its entries in the order of its hash table, which changes from tick to tick, and
several entries may be of one client. Their bytes are added and the latest frame counts, so that the
order makes no difference to them, but the connection counts are assigned: those of the last tx
entry win (`fold_order_iff`).
-/

namespace Lanspeed

/-- The connection counts of a map entry. -/
def LanspeedBpfSample.conns (raw : LanspeedBpfSample) : UInt32 × UInt32 :=
  (raw.tcpConns, raw.udpConns)

/-- The connection counts of a sample. -/
def BpfClientSample.conns (s : BpfClientSample) : UInt32 × UInt32 := (s.tcpConns, s.udpConns)

/-- Two samples count the same. -/
structure CountSame (s s' : BpfClientSample) : Prop where
  txBytes    : s.txBytes = s'.txBytes
  rxBytes    : s.rxBytes = s'.rxBytes
  lastSeenMs : s.lastSeenMs = s'.lastSeenMs
  tcpConns   : s.tcpConns = s'.tcpConns
  udpConns   : s.udpConns = s'.udpConns

/-- Two tables have the same identities, and the same counts for each. -/
structure SameClients (samples samples' : List BpfClientSample) : Prop where
  identities : ∀ key, key ∈ samples.map BpfClientSample.identityKey ↔
    key ∈ samples'.map BpfClientSample.identityKey
  counts : ∀ s ∈ samples, ∀ s' ∈ samples', s.identityKey = s'.identityKey → CountSame s s'

section Order

variable {env : FoldEnv} {raws raws' : List LanspeedBpfSample}

/-- A map entry is a tx entry of the client under a key. -/
def isTxOf (env : FoldEnv) (key : CStr) (raw : LanspeedBpfSample) : Bool :=
  rawKey env raw = some key ∧ raw.direction = lanspeedBpfDirTx

/-- All tx entries of a client carry the same connection counts. -/
def ConnCountsAgree (env : FoldEnv) (raws : List LanspeedBpfSample) : Prop :=
  ∀ key, ∀ raw ∈ raws, ∀ raw' ∈ raws, isTxOf env key raw = true → isTxOf env key raw' = true →
    raw.conns = raw'.conns

/-! ## What is the same in every order -/

/-- Whether the identities fit does not depend on the order of the entries. -/
theorem IdentitiesFit.of_perm (h : IdentitiesFit env raws) (hperm : raws.Perm raws') :
    IdentitiesFit env raws' := by
  rw [IdentitiesFit, rawKeys, ← (hperm.filterMap (rawKey env)).dedup.length_eq]
  exact h

/-- The bytes of a client are the same in every order of the entries. -/
theorem bytes_of_perm (hfit : IdentitiesFit env raws) (hperm : raws.Perm raws')
    {s s' : BpfClientSample} (hs : s ∈ bpfFold env [] raws) (hs' : s' ∈ bpfFold env [] raws')
    (hkey : s.identityKey = s'.identityKey) (dir : Direction) : s.bytes dir = s'.bytes dir := by
  rw [bytes_of_mem_bpfFold hfit hs, bytes_of_mem_bpfFold (hfit.of_perm hperm) hs', hkey]
  exact (hperm.map _).sum_eq

/-- So is the time at which it was last seen. -/
theorem lastSeenMs_of_perm (hfit : IdentitiesFit env raws) (hperm : raws.Perm raws')
    {s s' : BpfClientSample} (hs : s ∈ bpfFold env [] raws) (hs' : s' ∈ bpfFold env [] raws')
    (hkey : s.identityKey = s'.identityKey) : s.lastSeenMs = s'.lastSeenMs := by
  have hsame : ∀ n, s.lastSeenMs.toNat ≤ n ↔ s'.lastSeenMs.toNat ≤ n := by
    intro n
    rw [lastSeenMs_le_iff hfit hs, lastSeenMs_le_iff (hfit.of_perm hperm) hs', hkey]
    exact forall_congr' fun raw => imp_congr_left hperm.mem_iff
  exact UInt64.toNat_inj.mp (le_antisymm ((hsame _).mpr le_rfl) ((hsame _).mp le_rfl))

/-! ## What the last entry decides -/

/-- The connections of a client come from its upload entry. -/
theorem conns_absorbRaw (nowMs : UInt64) (raw : LanspeedBpfSample) (s : BpfClientSample) :
    (absorbRaw nowMs raw s).conns = if raw.direction = lanspeedBpfDirTx then raw.conns
      else s.conns := by
  unfold absorbRaw
  dsimp only
  split_ifs <;> rfl

/-- The connection counts of a client are those of its last tx entry. -/
theorem conns_of_mem_bpfFold (hfit : IdentitiesFit env raws) {s : BpfClientSample}
    (hs : s ∈ bpfFold env [] raws) :
    s.conns = ((raws.filter (isTxOf env s.identityKey)).getLast?.map LanspeedBpfSample.conns).getD
      (0, 0) := by
  have hfold :
      ((raws.foldl (absorbKey env s.identityKey) none).map BpfClientSample.conns).getD (0, 0) = _ :=
    measure_foldl_absorbKey s.identityKey BpfClientSample.conns (0, 0)
      (fun conns raw => if raw.direction = lanspeedBpfDirTx then raw.conns
        else conns) (fun _ => rfl)
      (conns_absorbRaw env.nowMs) none raws
  rw [← lookup_bpfFold hfit, (distinct_bpfFold env (Keyed.distinct_nil _) raws).lookup_of_mem hs,
    Loop.foldl_assign, List.filter_filter] at hfold
  apply hfold.trans
  congr 4
  funext raw
  rw [isTxOf, Bool.decide_and, Bool.and_comm]

/-- When the entries of every client agree, the order makes no difference. -/
theorem conns_of_perm (hagree : ConnCountsAgree env raws) (hfit : IdentitiesFit env raws)
    (hperm : raws.Perm raws') {s s' : BpfClientSample} (hs : s ∈ bpfFold env [] raws)
    (hs' : s' ∈ bpfFold env [] raws') (hkey : s.identityKey = s'.identityKey) :
    s.conns = s'.conns := by
  rw [conns_of_mem_bpfFold hfit hs, conns_of_mem_bpfFold (hfit.of_perm hperm) hs', hkey]
  have htx :
      (raws.filter (isTxOf env s'.identityKey)).Perm (raws'.filter (isTxOf env s'.identityKey)) :=
    hperm.filter _
  cases hlast : (raws.filter (isTxOf env s'.identityKey)).getLast? with
  | none =>
    have hnil : raws'.filter (isTxOf env s'.identityKey) = [] := by
      rw [List.getLast?_eq_none_iff.mp hlast] at htx
      exact htx.symm.eq_nil
    rw [hnil]
    rfl
  | some raw =>
    have hraw := List.mem_filter.mp (List.mem_of_getLast? hlast)
    obtain ⟨raw', hlast'⟩ :
        ∃ raw', (raws'.filter (isTxOf env s'.identityKey)).getLast? = some raw' := by
      rw [← Option.isSome_iff_exists, List.getLast?_isSome]
      intro hnil
      rw [hnil] at htx
      rw [htx.eq_nil] at hlast
      exact absurd hlast (by simp)
    have hraw' := List.mem_filter.mp (htx.mem_iff.mpr (List.mem_of_getLast? hlast'))
    rw [hlast']
    exact hagree _ raw hraw.1 raw' hraw'.1 hraw.2 hraw'.2

/-- A tx entry of a client can be put last, and then its connection counts are those of
the client. -/
theorem exists_perm_conns (hfit : IdentitiesFit env raws) {key : CStr} {raw : LanspeedBpfSample}
    (hraw : raw ∈ raws) (htx : isTxOf env key raw = true) :
    ∃ raws', raws.Perm raws' ∧ ∃ s ∈ bpfFold env [] raws', s.identityKey = key ∧
      s.conns = raw.conns := by
  obtain ⟨before, after, rfl⟩ := List.append_of_mem hraw
  have hperm : (before ++ raw :: after).Perm (before ++ after ++ [raw]) :=
    (List.perm_middle.trans (List.perm_append_singleton _ _).symm)
  have hkey : rawKey env raw = some key := (of_decide_eq_true htx).1
  obtain ⟨s, hs, rfl⟩ := exists_mem_bpfFold (hfit.of_perm hperm) (hperm.mem_iff.mp hraw) hkey
  refine ⟨_, hperm, s, hs, rfl, ?_⟩
  rw [conns_of_mem_bpfFold (hfit.of_perm hperm) hs, List.filter_append, List.filter_cons_of_pos htx,
    List.filter_nil, List.getLast?_concat]
  rfl

end Order

/-- What `bpf_collect_samples` makes of a read of the map does not depend on the order of the
entries exactly when the tx entries of every client carry the same connection counts. -/
theorem fold_order_iff (cfg : CollectorConfig) (st : CollectorState) (nowMs : UInt64)
    (ifIndexToName : UInt32 → Option CStr) (arp : List ArpEntry) (raws : List LanspeedBpfSample) :
    let inp : List LanspeedBpfSample → CollectInput := fun raws =>
      { nowMs, read := some raws, ifIndexToName, arp }
    IdentitiesFit ((inp raws).foldEnv cfg) raws →
      ((∀ raws', raws.Perm raws' →
          SameClients (bpfCollectSamples cfg (inp raws) st).bpfCurrentSamples
            (bpfCollectSamples cfg (inp raws') st).bpfCurrentSamples) ↔
        ConnCountsAgree ((inp raws).foldEnv cfg) raws) := by
  intro inp hfit
  constructor
  · intro h key raw hraw raw' hraw' htx htx'
    obtain ⟨order, hperm, s, hs, hkey, hconns⟩ := exists_perm_conns hfit hraw htx
    obtain ⟨order', hperm', s', hs', hkey', hconns'⟩ := exists_perm_conns hfit hraw' htx'
    obtain ⟨t, ht, htkey⟩ := exists_mem_bpfFold hfit hraw (of_decide_eq_true htx).1
    have hsame := (h order hperm).counts t ht s hs (htkey.trans hkey.symm)
    have hsame' := (h order' hperm').counts t ht s' hs' (htkey.trans hkey'.symm)
    rw [← hconns, ← hconns']
    exact Prod.ext (hsame.tcpConns.symm.trans hsame'.tcpConns)
      (hsame.udpConns.symm.trans hsame'.udpConns)
  · intro hagree raws' hperm
    refine ⟨fun key => ?_, fun s hs s' hs' hkey => ?_⟩
    · refine (mem_identities_bpfFold hfit key).trans
        (Iff.trans ?_ (mem_identities_bpfFold (hfit.of_perm hperm) key).symm)
      exact exists_congr fun raw => and_congr_left fun _ => hperm.mem_iff
    · have hconns := conns_of_perm hagree hfit hperm hs hs' hkey
      exact
        { txBytes    := bytes_of_perm hfit hperm hs hs' hkey .tx
          rxBytes    := bytes_of_perm hfit hperm hs hs' hkey .rx
          lastSeenMs := lastSeenMs_of_perm hfit hperm hs hs' hkey
          tcpConns   := congrArg Prod.fst hconns
          udpConns   := congrArg Prod.snd hconns }

/-- A tx entry of one client in a VLAN, with a number of TCP connections. -/
def taggedEntry (vlan : UInt16) (tcpConns : UInt32) : LanspeedBpfSample :=
  { oneClientRaw 100 with vlan, tcpConns }

/-- The client has two entries with one connection each. -/
theorem fold_order_equal_counts :
    let raws := [taggedEntry 10 1, taggedEntry 20 1]
    ∀ raws', raws.Perm raws' →
      SameClients
        (bpfCollectSamples bpfConfig { collectOneClient 1000 0 with read := some raws }
          (CollectorState.init true)).bpfCurrentSamples
        (bpfCollectSamples bpfConfig { collectOneClient 1000 0 with read := some raws' }
          (CollectorState.init true)).bpfCurrentSamples := by
  intro raws
  apply (fold_order_iff bpfConfig (CollectorState.init true) 1000 _ [] raws (by decide +kernel)).mpr
  intro key raw hraw raw' hraw' _ _
  have hconns : ∀ raw ∈ raws, raw.conns = (1, 0) := by
    simp [raws, taggedEntry, LanspeedBpfSample.conns, oneClientRaw]
  rw [hconns raw hraw, hconns raw' hraw']

/-- The client has two entries with different numbers of connections, and the one that is read last
counts. -/
theorem fold_order_last_wins :
    let raws := [taggedEntry 10 3, taggedEntry 20 5]
    let collected := fun raws => (bpfCollectSamples bpfConfig
      { collectOneClient 1000 0 with read := some raws }
        (CollectorState.init true)).bpfCurrentSamples
    IdentitiesFit ((collectOneClient 1000 0).foldEnv bpfConfig) raws ∧ raws.Perm raws.reverse ∧
      ¬ SameClients (collected raws) (collected raws.reverse) := by
  intro raws collected
  refine ⟨by decide +kernel, (List.reverse_perm raws).symm, fun h => ?_⟩
  have hsamples :
      collected raws = [{ oneClientSample 1000 200 with tcpConns := 5 }] := by decide +kernel
  have hsamples' : collected raws.reverse = [{ oneClientSample 1000 200 with tcpConns := 3 }] := by
    decide +kernel
  rw [hsamples, hsamples'] at h
  have hsame := h.counts _ List.mem_cons_self _ List.mem_cons_self rfl
  exact absurd hsame.tcpConns (by decide)

end Lanspeed
