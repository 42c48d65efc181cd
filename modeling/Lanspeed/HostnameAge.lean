import Lanspeed.Frontend
import Lanspeed.Hostnames
import Lanspeed.Lib.Machine

/-!
# How old a published name is

`clients_method` refreshes the hostname cache before it collects. The cache is filled again when the
time of a file has changed, and ten seconds after it was filled at the latest. So all names of a
reply are the documented ones for the files as one call has seen them, which is this call or one
less than ten seconds before it with the same times of all files (`names_are_recent`), whatever the
collectors have gathered and whichever of them serves the reply.
-/

namespace Lanspeed

/-! ## The refresh as a cache that is revalidated -/

/-- What one call of `hostname_cache_refresh` meets. -/
structure HostnameRefresh where
  force : Bool
  nowMs : UInt64
  files : HostnameFiles

/-- The files have the times that the cache was filled at. -/
def HostnameCache.sameTimes (cache : HostnameCache) (files : HostnameFiles) : Bool :=
  statMtime files.leasesMtime == cache.leasesMtime &&
    statMtime files.etcHostsMtime == cache.etchostsMtime &&
    dirLatestMtime files.hostsDirMtime files.hostsDir == cache.hostsdirMtime

/-- The cache stays as it is for a call. -/
def HostnameCache.stays (cache : HostnameCache) (call : HostnameRefresh) : Bool :=
  !call.force && cache.sameTimes call.files && cache.refreshMs != 0 &&
    decide (call.nowMs - cache.refreshMs < hostnameRefreshMs)

/-- What a call fills the cache with. -/
def HostnameCache.fill (cache : HostnameCache) (call : HostnameRefresh) : HostnameCache :=
  hostnameCacheRefresh true call.nowMs call.files cache

/-- `hostname_cache_refresh` is the refresh of a cache that is revalidated. -/
theorem hostnameCacheRefresh_eq (cache : HostnameCache) (call : HostnameRefresh) :
    hostnameCacheRefresh call.force call.nowMs call.files cache =
      Revalidate.refresh HostnameCache.stays HostnameCache.fill cache call := by
  rw [Revalidate.refresh, HostnameCache.stays, HostnameCache.sameTimes, HostnameCache.fill]
  unfold hostnameCacheRefresh
  simp only [bne, Bool.true_or, Bool.not_true, Bool.false_and,
    Bool.false_eq_true, if_false, Bool.not_or, Bool.not_not, Bool.and_assoc]

/-- What is filled by a call has the clock and the times of its call. -/
theorem stays_of_loadedBy {cache : HostnameCache} (call : HostnameRefresh) {last : HostnameRefresh}
    (hload : Revalidate.LoadedBy HostnameCache.fill call cache) (hstays : cache.stays last = true) :
    last.nowMs - call.nowMs < hostnameRefreshMs ∧
      statMtime last.files.leasesMtime = statMtime call.files.leasesMtime ∧
      statMtime last.files.etcHostsMtime = statMtime call.files.etcHostsMtime ∧
      dirLatestMtime last.files.hostsDirMtime last.files.hostsDir =
        dirLatestMtime call.files.hostsDirMtime call.files.hostsDir := by
  obtain ⟨before, rfl⟩ := hload
  have hfill : (before.fill call).refreshMs = call.nowMs ∧
      (before.fill call).leasesMtime = statMtime call.files.leasesMtime ∧
      (before.fill call).etchostsMtime = statMtime call.files.etcHostsMtime ∧
      (before.fill call).hostsdirMtime =
        dirLatestMtime call.files.hostsDirMtime call.files.hostsDir := by
    unfold HostnameCache.fill hostnameCacheRefresh
    simp only [Bool.true_or, Bool.not_true, Bool.false_and, Bool.false_eq_true, if_false, and_self]
  obtain ⟨hclock, hleases, hetc, hdir⟩ := hfill
  simp only [HostnameCache.stays, HostnameCache.sameTimes, Bool.and_eq_true,
    beq_iff_eq, decide_eq_true_eq, hclock, hleases, hetc, hdir] at hstays
  obtain ⟨⟨⟨-, ⟨hleases, hetc⟩, hdir⟩, -⟩, hfresh⟩ := hstays
  exact ⟨hfresh, hleases, hetc, hdir⟩

/-! ## Names -/

namespace HostnameSources

variable (s : HostnameSources)

/-- The sources name no more MAC addresses and IP addresses than the tables have rows, and there is
room for one more MAC address. -/
structure Fits : Prop where
  macs : (CappedMap.keys HostnameByMac.mac s.macRows).card < hostnameCacheMax
  ips  : (CappedMap.keys HostnameByIp.ip s.ipRows).card ≤ hostnameCacheMax

/-- A cache that is filled from sources that fit gives the documented names. -/
theorem hostnameLookup_fill (h : s.Fits) (nowMs : UInt64) (cache : HostnameCache)
    (mac : CStr) (ips : List CStr) :
    hostnameLookup (hostnameCacheRefresh true nowMs s.files cache) mac ips =
      s.documentedName mac ips := by
  have hmac :
      hostnameLookupMac (hostnameCacheRefresh true nowMs s.files cache) mac = s.nameOfMac mac :=
    (s.hostnameLookupMac_refresh nowMs cache mac).trans (s.namedEarly_of_room h.macs mac)
  have hip : hostnameLookupIp (hostnameCacheRefresh true nowMs s.files cache) = s.nameOfIp :=
    funext (s.hostnameLookupIp_refresh h.ips nowMs cache)
  rw [hostnameLookup, hmac, hip, documentedName]
  cases s.nameOfMac mac <;> rfl

end HostnameSources

/-! ## The names of a reply -/

/-- All clients of a reply have the names that `lookup` gives. -/
def NamedBy (lookup : CStr → List CStr → Option CStr) (clients : List ClientJson) : Prop :=
  ∀ c ∈ clients, c.hostname = lookup c.mac c.ips

/-- Merging the connections keeps the names. -/
theorem namedBy_mergeConntrackConnCounts {lookup : CStr → List CStr → Option CStr}
    (cfg : CollectorConfig) {nowMs : UInt64} (read : ConntrackRead nowMs) {reply : ClientsReply}
    (h : NamedBy lookup reply.clients) :
    NamedBy lookup (mergeConntrackConnCounts cfg read reply).clients := by
  unfold mergeConntrackConnCounts
  split
  · exact h
  · rintro c hc
    obtain ⟨client, hclient, rfl⟩ := List.mem_map.mp hc
    unfold mergeClient
    split
    · exact h client hclient
    · exact h client hclient

/-- On every path the names are those of the lookup. -/
theorem namedBy_reply (cfg : CollectorConfig) (inp : ClientsInput)
    (st : CollectorState) (path : ClientsPath) :
    NamedBy inp.env.hostnameLookup (path.reply cfg inp st).clients := by
  cases path with
  | nss samples =>
    refine namedBy_mergeConntrackConnCounts cfg inp.mergeRead ?_
    rintro c hc
    obtain ⟨cur, -, rfl⟩ := List.mem_map.mp hc
    rfl
  | conntrack samples =>
    rintro c hc
    obtain ⟨cur, -, rfl⟩ := List.mem_map.mp hc
    rfl
  | bpf samples =>
    refine namedBy_mergeConntrackConnCounts cfg inp.mergeRead ?_
    rintro c hc
    obtain ⟨cur, -, rfl⟩ := List.mem_map.mp hc
    rfl
  | empty =>
    rintro c hc
    cases hc

/-- A call of `clients_method` with the sources of names that it meets. -/
structure NamedCall where
  sources : HostnameSources
  cacheMs : UInt64
  input   : ClientsInput

namespace NamedCall

/-- The refresh at the start of the call. -/
def refresh (call : NamedCall) : HostnameRefresh := ⟨false, call.cacheMs, call.sources.files⟩

/-- The hostname cache after the refresh of a call. -/
def cacheAfter (cache : HostnameCache) (call : NamedCall) : HostnameCache :=
  hostnameCacheRefresh false call.cacheMs call.sources.files cache

/-- The cache stays as it is for a call. -/
def stays (cache : HostnameCache) (call : NamedCall) : Bool :=
  HostnameCache.stays cache call.refresh

/-- What a call fills the cache with. -/
def fill (cache : HostnameCache) (call : NamedCall) : HostnameCache :=
  HostnameCache.fill cache call.refresh

/-- The input of the call with the lookups in a cache. -/
def inputWith (call : NamedCall) (cache : HostnameCache) : ClientsInput :=
  { call.input with env := { call.input.env with hostnameLookup := hostnameLookup cache } }

/-- The times of all files are the same. -/
def SameTimes (call call' : NamedCall) : Prop :=
  statMtime call.sources.leasesMtime = statMtime call'.sources.leasesMtime ∧
    statMtime call.sources.etcHostsMtime = statMtime call'.sources.etcHostsMtime ∧
    dirLatestMtime call.sources.files.hostsDirMtime call.sources.files.hostsDir =
      dirLatestMtime call'.sources.files.hostsDirMtime call'.sources.files.hostsDir

end NamedCall

/-- After any calls whose files fit, the names of a reply are the documented ones for the files as
they were at one of the calls: the one that is answered, or one less than ten seconds before it with
the same times of the files. -/
theorem names_are_recent (cfg : CollectorConfig) (st : CollectorState)
    (calls : List NamedCall) (last : NamedCall)
    (hfits : ∀ call ∈ calls ++ [last], call.sources.Fits) :
    let cache := Machine.run NamedCall.cacheAfter {} (calls ++ [last])
    ∃ call ∈ calls ++ [last],
      (call = last ∨ last.cacheMs - call.cacheMs < hostnameRefreshMs ∧ last.SameTimes call) ∧
        NamedBy call.sources.documentedName
          (clientsMethod cfg (last.inputWith cache) st).1.clients := by
  intro cache
  have hempty : ∀ call, NamedCall.stays {} call = false := by
    intro call
    simp [NamedCall.stays, HostnameCache.stays]
  have hstep : NamedCall.cacheAfter = Revalidate.refresh NamedCall.stays NamedCall.fill :=
    funext fun cache => funext fun call => hostnameCacheRefresh_eq cache call.refresh
  obtain ⟨call, hcall, ⟨before, hload⟩, hlast⟩ :=
    Revalidate.run_refresh NamedCall.fill hempty calls last
  rw [← hstep] at hload hlast
  have hlookup : (last.inputWith cache).env.hostnameLookup = call.sources.documentedName := by
    show hostnameLookup (Machine.run NamedCall.cacheAfter {} (calls ++ [last])) = _
    rw [hload]
    exact funext fun mac => funext fun ips =>
      call.sources.hostnameLookup_fill (hfits call hcall) call.cacheMs before mac ips
  refine ⟨call, hcall, hlast.imp_right fun hstays => ?_, ?_⟩
  · exact stays_of_loadedBy call.refresh ⟨before, hload⟩ hstays
  · rw [← hlookup]
    show NamedBy _ (collectClients cfg (last.inputWith cache)
          (clientsRefresh cfg (last.inputWith cache) st)).1.clients
    rw [collectClients_eq_reply]
    exact namedBy_reply cfg (last.inputWith cache) _ _

/-- Two calls a second apart, with one lease in the file. -/
theorem names_are_recent_oneClient :
    let call := fun cacheMs =>
      (⟨renewedSources 1 (by decide), cacheMs, oneClientCall.input bpfConfig⟩ : NamedCall)
    let st :=
      Machine.run (daemonStep bpfConfig) (CollectorState.init true) [tickAt 1 0, tickAt 2 1000]
    let cache := Machine.run NamedCall.cacheAfter {} ([call 1000] ++ [call 2000])
    let clients := (clientsMethod bpfConfig ((call 2000).inputWith cache) st).1.clients
    clients.length = 1 ∧ ∃ c ∈ [call 1000] ++ [call 2000],
      (c = call 2000 ∨ (call 2000).cacheMs - c.cacheMs < hostnameRefreshMs ∧
        (call 2000).SameTimes c) ∧
        NamedBy c.sources.documentedName clients := by
  intro call st cache clients
  have hone : 1 ≤ hostnameCacheMax := by decide
  have hmacs : (CappedMap.keys HostnameByMac.mac (renewedSources 1 hone).macRows).card ≤ 1 := by
    rw [macRows_renewedSources]
    exact card_keys_renewed Nat.one_pos (clientRow · "host".toList) rfl
  have hips : (CappedMap.keys HostnameByIp.ip (renewedSources 1 hone).ipRows).card ≤ 1 := by
    rw [ipRows_renewedSources]
    exact card_keys_renewed Nat.one_pos (fun n =>
      (⟨(clientLease n []).ip, "host".toList⟩ : HostnameByIp)) rfl
  have hfits : (renewedSources 1 hone).Fits := ⟨hmacs.trans_lt (by decide), hips.trans hone⟩
  refine ⟨by decide +kernel, names_are_recent bpfConfig st [call 1000] (call 2000) ?_⟩
  intro c hc
  rcases List.mem_append.mp hc with hc | hc
  · exact List.mem_singleton.mp hc ▸ hfits
  · exact List.mem_singleton.mp hc ▸ hfits

end Lanspeed
