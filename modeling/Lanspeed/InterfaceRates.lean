import Lanspeed.Coverage
import Lanspeed.InterfaceLists
import Lanspeed.Rates
import Lanspeed.Lib.Machine
import Lanspeed.Lib.SlotTable

/-!
# The rates of the interfaces

`interfaces_method` reads the statistics files of the configured interfaces and computes the rates
against what it has kept of an earlier call, in a static array with a slot for each name. A slot is
written whenever both files open, whether or not a counter could be read from them. In a run where
every file that opens can be read, a slot holds the newest call with a full reading, and the rates
are those between the two readings (`interface_rates_of_full_readings`).
-/

namespace Lanspeed

/-- `struct interface_stat_sample` in a valid slot. -/
structure InterfaceStatSample where
  name : CStr
  rxBytes : UInt64
  txBytes : UInt64
  snapshotMs : UInt64
deriving DecidableEq, Repr

/-- The static array `previous` of `interfaces_method`; a slot that is not valid is `none`. -/
abbrev InterfaceSlots := List (Option InterfaceStatSample)

/-- The array at program start. -/
def interfaceSlotsInit : InterfaceSlots := List.replicate (2 * lanspeedBpfIfaceMax) none

/-- The slot with a name. -/
def findSlot (name : CStr) (previous : InterfaceSlots) : Option InterfaceStatSample :=
  SlotTable.find InterfaceStatSample.name name previous

/-- An object of the field `interfaces`. -/
structure InterfaceJson where
  name : CStr
  role : CStr
  status : CStr
  rxBytes : ℤ
  txBytes : ℤ
  rxBps : ℤ
  txBps : ℤ
  deltaMs : ℤ
  sampleMs : ℤ
deriving DecidableEq, Repr

/-- Both files of an interface open (`stats_ok`). -/
def IfaceStatistics.statsOk (stats : IfaceStatistics) : Bool :=
  stats.rxBytes.isSome && stats.txBytes.isSome

/-- The counter that is used: zero where nothing could be read. -/
def counterRead (file : Option (Option UInt64)) : UInt64 := (file.getD none).getD 0

/-- What `interfaces_method` keeps of an interface. -/
def IfaceStatistics.sample (stats : IfaceStatistics) (nowMs : UInt64) (name : CStr) :
    InterfaceStatSample :=
  { name := snprintf ifnameStrLen name
    rxBytes := counterRead stats.rxBytes
    txBytes := counterRead stats.txBytes
    snapshotMs := nowMs }

/-- A rate of `interfaces_method`. -/
def interfaceBps (current previous deltaMs : UInt64) : UInt64 :=
  if previous ≤ current ∧ deltaMs ≠ 0 then (current - previous) * 8000 / deltaMs else 0

/-- The object of an interface, against the slot `prev` of its name. -/
def interfaceJson (nowMs : UInt64) (role name : CStr) (stats : IfaceStatistics)
    (prev : Option InterfaceStatSample) : InterfaceJson :=
  let rxBytes := counterRead stats.rxBytes
  let txBytes := counterRead stats.txBytes
  let (deltaMs, rxBps, txBps) : UInt64 × UInt64 × UInt64 :=
    match prev with
    | none => (0, 0, 0)
    | some prev =>
      if stats.statsOk && prev.snapshotMs < nowMs then
        let deltaMs := nowMs - prev.snapshotMs
        (deltaMs, interfaceBps rxBytes prev.rxBytes deltaMs,
          interfaceBps txBytes prev.txBytes deltaMs)
      else (0, 0, 0)
  { name, role
    status := if stats.statsOk then "available".toList else "missing".toList
    rxBytes := jsonInt64 rxBytes
    txBytes := jsonInt64 txBytes
    rxBps := jsonInt64 rxBps
    txBps := jsonInt64 txBps
    deltaMs := jsonInt64 deltaMs
    sampleMs := jsonInt64 nowMs }

/-- The slots after an interface. The array is written even when no time has passed. -/
def storeInterface (nowMs : UInt64) (name : CStr) (stats : IfaceStatistics)
    (previous : InterfaceSlots) : InterfaceSlots :=
  if stats.statsOk then SlotTable.put InterfaceStatSample.name (stats.sample nowMs name) previous
  else previous

/-- One call of `interfaces_method`: the configuration that is loaded, the clock, and what the files
of each interface give. -/
structure InterfacesCall where
  cfg : IfaceOptions
  nowMs : UInt64
  statistics : CStr → IfaceStatistics

/-- The interfaces that a call goes through, each with its role. -/
def InterfacesCall.ifaces (call : InterfacesCall) : List (CStr × CStr) :=
  let lists := loadIfaceLists call.cfg
  lists.attach.map (fun name => ("lan".toList, name)) ++
    lists.observe.map fun name => ("observe".toList, name)

/-- The loop of `interfaces_method`: the objects, and the slots after it. -/
def interfacesLoop (call : InterfacesCall) :
    InterfaceSlots → List (CStr × CStr) → List InterfaceJson × InterfaceSlots
  | previous, [] => ([], previous)
  | previous, (role, name) :: ifaces =>
    let stats := call.statistics name
    let json := interfaceJson call.nowMs role name stats (findSlot name previous)
    let (jsons, previous) :=
      interfacesLoop call (storeInterface call.nowMs name stats previous) ifaces
    (json :: jsons, previous)

/-- `interfaces_method`. -/
def interfacesMethod (call : InterfacesCall) (previous : InterfaceSlots) :
    List InterfaceJson × InterfaceSlots :=
  interfacesLoop call previous call.ifaces

/-- The slots after a call. -/
def interfacesStep (previous : InterfaceSlots) (call : InterfacesCall) : InterfaceSlots :=
  (interfacesMethod call previous).2

/-- The slots after calls, first call first. -/
def interfacesRun (calls : List InterfacesCall) : InterfaceSlots :=
  Machine.run interfacesStep interfaceSlotsInit calls

/-! ## Readings -/

/-- Both counters of an interface, and when they were read. -/
structure IfaceReading where
  rxBytes : UInt64
  txBytes : UInt64
  atMs : UInt64
deriving DecidableEq, Repr

/-- The counter of a direction. -/
def IfaceReading.bytes (r : IfaceReading) : Direction → UInt64
  | .tx => r.txBytes
  | .rx => r.rxBytes

/-- The rate that is published for a direction. -/
def InterfaceJson.bps (json : InterfaceJson) : Direction → ℤ
  | .tx => json.txBps
  | .rx => json.rxBps

/-- The names that a call goes through. -/
def InterfacesCall.names (call : InterfacesCall) : List CStr := call.ifaces.map Prod.snd

/-- The reading of an interface in a call, where both of its counters were read. -/
def InterfacesCall.reading (call : InterfacesCall) (name : CStr) : Option IfaceReading :=
  if name ∈ call.names then
    match call.statistics name with
    | ⟨some (some rx), some (some tx)⟩ => some ⟨rx, tx, call.nowMs⟩
    | _ => none
  else none

/-- The newest reading of an interface. -/
def lastReading (name : CStr) (calls : List InterfacesCall) : Option IfaceReading :=
  calls.reverse.findSome? fun call => call.reading name

/-- The rate between two readings. -/
def readingBps (dir : Direction) : Option IfaceReading → Option IfaceReading → ℕ
  | some now, some before =>
    if before.atMs < now.atMs ∧ before.bytes dir ≤ now.bytes dir then
      8000 * ((now.bytes dir).toNat - (before.bytes dir).toNat) /
        (now.atMs.toNat - before.atMs.toNat)
    else 0
  | _, _ => 0

/-- Every rate that a run publishes is the rate between the reading of the call and the newest one
before it. -/
def RatesOfReadings (calls : List InterfacesCall) : Prop :=
  ∀ earlier call later, calls = earlier ++ call :: later →
    ∀ json ∈ (interfacesMethod call (interfacesRun earlier)).1, ∀ dir,
      json.bps dir = readingBps dir (call.reading json.name) (lastReading json.name earlier)

/-- Where a counter did not fall between two readings of a run, and time has passed, its scaled
growth and the time meet `P`. -/
def EveryGrowth (P : ℕ → ℕ → Prop) (calls : List InterfacesCall) : Prop :=
  ∀ earlier call later, calls = earlier ++ call :: later → ∀ name now before, ∀ dir : Direction,
    call.reading name = some now → lastReading name earlier = some before →
    before.atMs < now.atMs → before.bytes dir ≤ now.bytes dir →
      P (8000 * ((now.bytes dir).toNat - (before.bytes dir).toNat))
        (now.atMs.toNat - before.atMs.toNat)

/-- Both files open, but one of them cannot be read. -/
def IfaceStatistics.OpensUnread (stats : IfaceStatistics) : Prop :=
  stats.statsOk = true ∧ (stats.rxBytes = some none ∨ stats.txBytes = some none)

/-- Every file of a call that opens can be read, as far as its slot is written. -/
def FullReadings (calls : List InterfacesCall) : Prop :=
  ∀ call ∈ calls, ∀ name ∈ call.names, ¬ (call.statistics name).OpensUnread

/-! ## One call -/

/-- The slots have room for the names. -/
abbrev SlotsFor (names : List CStr) (previous : InterfaceSlots) : Prop :=
  SlotTable.RoomFor InterfaceStatSample.name names previous

/-- A listed interface has a name that fits in `IFNAME_STR_LEN`. -/
theorem length_of_mem_ifaces {call : InterfacesCall} {name : CStr} (h : name ∈ call.names) :
    name.length < ifnameStrLen := by
  obtain ⟨⟨role, name⟩, hmem, rfl⟩ := List.mem_map.mp h
  rcases List.mem_append.mp hmem with hattach | hobserve
  · obtain ⟨_, hname, heq⟩ := List.mem_map.mp hattach
    obtain ⟨-, rfl⟩ := Prod.mk.inj heq
    exact ((attachList_loadIfaceLists call.cfg).names _ hname).fits
  · obtain ⟨_, hname, heq⟩ := List.mem_map.mp hobserve
    obtain ⟨-, rfl⟩ := Prod.mk.inj heq
    exact (observeList_loadIfaceLists call.cfg).fits _ hname

/-- A call lists the interfaces that are collected and then those that are observed. -/
theorem names_eq (call : InterfacesCall) :
    call.names = (loadIfaceLists call.cfg).attach ++ (loadIfaceLists call.cfg).observe := by
  simp [InterfacesCall.names, InterfacesCall.ifaces]

/-- A call goes through each name once. -/
theorem nodup_names (call : InterfacesCall) : call.names.Nodup := by
  have hobserve := observeList_loadIfaceLists call.cfg
  rw [names_eq]
  refine List.nodup_append.mpr ⟨(attachList_loadIfaceLists call.cfg).nodup, hobserve.nodup, ?_⟩
  rintro a ha b hb rfl
  exact hobserve.disjoint a hb ha

section Store

variable {names : List CStr} {nowMs : UInt64} {name : CStr} {stats : IfaceStatistics}
  {previous : InterfaceSlots}

theorem name_sample (hfits : name.length < ifnameStrLen) : (stats.sample nowMs name).name = name :=
  snprintf_of_fits hfits

/-- Storing one of the names keeps the slots for the names. -/
theorem slotsFor_storeInterface (h : SlotsFor names previous) (hname : name ∈ names)
    (hfits : name.length < ifnameStrLen) :
    SlotsFor names (storeInterface nowMs name stats previous) := by
  rw [storeInterface]
  split_ifs
  · apply SlotTable.RoomFor.put h
    rw [name_sample hfits]
    exact hname
  · exact h

/-- An interface writes the slot of its name when both files open, and no other slot. -/
theorem findSlot_storeInterface (h : SlotsFor names previous) (hname : name ∈ names)
    (hfits : name.length < ifnameStrLen) (k : CStr) :
    findSlot k (storeInterface nowMs name stats previous) =
      if name = k ∧ stats.statsOk then some (stats.sample nowMs name) else findSlot k previous := by
  rw [storeInterface]
  have hkey : (stats.sample nowMs name).name = name := name_sample hfits
  cases stats.statsOk with
  | false => simp
  | true =>
    have hrow : (stats.sample nowMs name).name ∈ names := by
      rw [hkey]
      exact hname
    have hput := h.find_put hrow k
    rw [hkey] at hput
    simpa [findSlot] using hput

end Store

section Loop

variable {names : List CStr} {call : InterfacesCall} {previous : InterfaceSlots}
  {ifaces : List (CStr × CStr)}

/-- The loop stores the first interface and goes on with the others. -/
theorem interfacesLoop_cons (role name : CStr) :
    interfacesLoop call previous ((role, name) :: ifaces) =
      let stats := call.statistics name
      let rest := interfacesLoop call (storeInterface call.nowMs name stats previous) ifaces
      (interfaceJson call.nowMs role name stats (findSlot name previous) :: rest.1, rest.2) := rfl

/-- The loop publishes the interfaces that it goes through. -/
theorem map_name_interfacesLoop :
    (interfacesLoop call previous ifaces).1.map InterfaceJson.name = ifaces.map Prod.snd := by
  induction ifaces generalizing previous with
  | nil => rfl
  | cons iface ifaces ih =>
    obtain ⟨role, name⟩ := iface
    rw [interfacesLoop_cons, List.map_cons, List.map_cons, ih]
    rfl

/-- A reply names the listed interfaces in their order. -/
theorem map_name_interfacesMethod (call : InterfacesCall) (previous : InterfaceSlots) :
    (interfacesMethod call previous).1.map InterfaceJson.name = call.names :=
  map_name_interfacesLoop

/-- What the loop needs of the interfaces that it goes through: they are among the names, fit in a
slot, and come once. -/
structure LoopNames (names : List CStr) (ifaces : List (CStr × CStr)) : Prop where
  within : ∀ name ∈ ifaces.map Prod.snd, name ∈ names
  fits   : ∀ name ∈ ifaces.map Prod.snd, name.length < ifnameStrLen
  nodup  : (ifaces.map Prod.snd).Nodup

/-- The first interface of a loop is one of the names, fits and does not come again. -/
theorem LoopNames.head {role name : CStr} (h : LoopNames names ((role, name) :: ifaces)) :
    name ∈ names ∧ name.length < ifnameStrLen ∧ name ∉ ifaces.map Prod.snd ∧
      LoopNames names ifaces := by
  obtain ⟨hwithin, hfits, hnodup⟩ := h
  rw [List.map_cons] at hwithin hfits hnodup
  rw [List.forall_mem_cons] at hwithin hfits
  rw [List.nodup_cons] at hnodup
  exact ⟨hwithin.1, hfits.1, hnodup.1, hwithin.2, hfits.2, hnodup.2⟩

/-- The loop keeps the slots for the names. -/
theorem slotsFor_interfacesLoop (h : SlotsFor names previous) (hifaces : LoopNames names ifaces) :
    SlotsFor names (interfacesLoop call previous ifaces).2 := by
  induction ifaces generalizing previous with
  | nil => exact h
  | cons iface ifaces ih =>
    obtain ⟨role, name⟩ := iface
    obtain ⟨hname, hfits, -, hrest⟩ := hifaces.head
    rw [interfacesLoop_cons]
    exact ih (slotsFor_storeInterface h hname hfits) hrest

/-- After the loop, the slot of a name is that of its interface, or what it was. -/
theorem findSlot_interfacesLoop (h : SlotsFor names previous)
    (hifaces : LoopNames names ifaces) (k : CStr) :
    findSlot k (interfacesLoop call previous ifaces).2 =
      if k ∈ ifaces.map Prod.snd ∧ (call.statistics k).statsOk then
        some ((call.statistics k).sample call.nowMs k)
      else findSlot k previous := by
  induction ifaces generalizing previous with
  | nil => simp [interfacesLoop]
  | cons iface ifaces ih =>
    obtain ⟨role, name⟩ := iface
    obtain ⟨hname, hfits, hfresh, hrest⟩ := hifaces.head
    rw [interfacesLoop_cons]
    dsimp only
    rw [ih (slotsFor_storeInterface h hname hfits) hrest, findSlot_storeInterface h hname hfits]
    by_cases hk : name = k
    · subst hk
      simp [hfresh]
    · have hmem : k ∈ ((role, name) :: ifaces).map Prod.snd ↔ k ∈ ifaces.map Prod.snd := by
        rw [List.map_cons, List.mem_cons]
        exact or_iff_right (Ne.symm hk)
      simp only [hmem, hk, false_and, if_false]

/-- Every interface is published against the slot that its name had before the loop: the interfaces
before it are others. -/
theorem interfacesLoop_fst (h : SlotsFor names previous) (hifaces : LoopNames names ifaces) :
    (interfacesLoop call previous ifaces).1 = ifaces.map fun iface =>
      interfaceJson call.nowMs iface.1 iface.2 (call.statistics iface.2)
        (findSlot iface.2 previous) := by
  induction ifaces generalizing previous with
  | nil => rfl
  | cons iface ifaces ih =>
    obtain ⟨role, name⟩ := iface
    obtain ⟨hname, hfits, hfresh, hrest⟩ := hifaces.head
    rw [interfacesLoop_cons, List.map_cons]
    dsimp only
    rw [ih (slotsFor_storeInterface h hname hfits) hrest]
    refine congrArg _ (List.map_congr_left fun iface hiface => ?_)
    have hne : name ≠ iface.2 := fun heq => hfresh (heq ▸ List.mem_map_of_mem hiface)
    rw [findSlot_storeInterface h hname hfits, if_neg fun hboth => hne hboth.1]

end Loop

/-! ## A run -/

section Run

variable {names : List CStr}

/-- What a slot holds of a reading. -/
def IfaceReading.sample (r : IfaceReading) (name : CStr) : InterfaceStatSample :=
  { name, rxBytes := r.rxBytes, txBytes := r.txBytes, snapshotMs := r.atMs }

/-- The slots after calls hold the newest reading of each name. -/
structure HoldsReadings (names : List CStr) (calls : List InterfacesCall)
    (previous : InterfaceSlots) : Prop where
  slots    : SlotsFor names previous
  readings : ∀ name, findSlot name previous = (lastReading name calls).map fun r => r.sample name

/-- The last reading of a name is that of the last call that read it. -/
theorem lastReading_concat (name : CStr) (calls : List InterfacesCall) (call : InterfacesCall) :
    lastReading name (calls ++ [call]) = (call.reading name).or (lastReading name calls) := by
  rw [lastReading, lastReading, List.reverse_append, List.reverse_singleton, List.singleton_append,
    List.findSome?_cons]
  cases call.reading name <;> rfl

/-- The interfaces of a call whose names are among `names` are a loop over them. -/
theorem loopNames_ifaces {call : InterfacesCall} (h : ∀ name ∈ call.names, name ∈ names) :
    LoopNames names call.ifaces :=
  ⟨h, fun _ hname => length_of_mem_ifaces hname, nodup_names call⟩

/-- Where every file that opens can be read, an interface that is stored is stored with
its reading. -/
theorem reading_eq_of_full {call : InterfacesCall} {name : CStr} (hname : name ∈ call.names)
    (hfull : ¬ (call.statistics name).OpensUnread) :
    (call.reading name).map (fun r => r.sample name) =
      if (call.statistics name).statsOk then some ((call.statistics name).sample call.nowMs name)
        else none := by
  have hfits := snprintf_of_fits (length_of_mem_ifaces hname)
  rw [InterfacesCall.reading, if_pos hname, IfaceStatistics.sample, hfits]
  unfold IfaceStatistics.OpensUnread at hfull
  generalize call.statistics name = stats at hfull ⊢
  rcases stats with ⟨_ | _ | rx, _ | _ | tx⟩
  · rfl
  · rfl
  · rfl
  · rfl
  · exact absurd ⟨rfl, .inl rfl⟩ hfull
  · exact absurd ⟨rfl, .inl rfl⟩ hfull
  · rfl
  · exact absurd ⟨rfl, .inr rfl⟩ hfull
  · rfl

theorem reading_eq_none {call : InterfacesCall} {name : CStr} (hname : name ∉ call.names) :
    call.reading name = none := if_neg hname

/-- One call more keeps the slots at the newest readings. -/
theorem HoldsReadings.step {calls : List InterfacesCall} {previous : InterfaceSlots}
    (h : HoldsReadings names calls previous) {call : InterfacesCall}
    (hnames : ∀ name ∈ call.names, name ∈ names)
    (hfull : ∀ name ∈ call.names, ¬ (call.statistics name).OpensUnread) :
    HoldsReadings names (calls ++ [call]) (interfacesStep previous call) := by
  have hifaces := loopNames_ifaces hnames
  refine ⟨slotsFor_interfacesLoop h.slots hifaces, fun name => ?_⟩
  rw [interfacesStep, interfacesMethod, findSlot_interfacesLoop h.slots hifaces,
    lastReading_concat, h.readings]
  by_cases hname : name ∈ call.names
  · have hreading := reading_eq_of_full hname (hfull name hname)
    replace hname : name ∈ call.ifaces.map Prod.snd := hname
    cases hok : (call.statistics name).statsOk with
    | true =>
      rw [hok, if_pos rfl] at hreading
      obtain ⟨r, hr, hsample⟩ := Option.map_eq_some_iff.mp hreading
      rw [if_pos ⟨hname, rfl⟩, hr, ← hsample]
      rfl
    | false =>
      rw [hok, if_neg Bool.false_ne_true, Option.map_eq_none_iff] at hreading
      rw [if_neg fun hboth => Bool.false_ne_true hboth.2, hreading, Option.none_or]
  · rw [reading_eq_none hname, Option.none_or]
    exact if_neg fun hboth => hname hboth.1

/-- The slots after a run whose files can be read hold the newest readings. -/
theorem holdsReadings_run {calls : List InterfacesCall}
    (hcap : names.length ≤ 2 * lanspeedBpfIfaceMax)
    (hnames : ∀ call ∈ calls, ∀ name ∈ call.names, name ∈ names) (hfull : FullReadings calls) :
    HoldsReadings names calls (interfacesRun calls) := by
  induction calls using List.reverseRecOn with
  | nil =>
    refine ⟨SlotTable.roomFor_replicate _ hcap, fun name => ?_⟩
    have hnone : findSlot name interfaceSlotsInit = none := by
      rw [findSlot, SlotTable.find_eq_none_iff]
      have hinit : SlotsFor [] interfaceSlotsInit := SlotTable.roomFor_replicate _ (Nat.zero_le _)
      exact fun hmem => absurd (hinit.within hmem) List.not_mem_nil
    exact hnone
  | append_singleton calls call ih =>
    have hearlier : HoldsReadings names calls (interfacesRun calls) :=
      ih (fun c hc => hnames c (List.mem_append_left _ hc)) fun c hc =>
        hfull c (List.mem_append_left _ hc)
    have hlast : call ∈ calls ++ [call] := List.mem_append_right _ (List.mem_singleton_self call)
    have hrun : interfacesRun (calls ++ [call]) = interfacesStep (interfacesRun calls) call :=
      List.foldl_concat _ _ _ _
    rw [hrun]
    exact hearlier.step (hnames call hlast) (hfull call hlast)

/-- The rate of an interface is the exact one modulo `2 ^ 64`. -/
theorem toNat_interfaceBps_mod (current previous deltaMs : UInt64) :
    (interfaceBps current previous deltaMs).toNat = wordBps current previous deltaMs := by
  rw [interfaceBps, wordBps]
  by_cases hle : previous ≤ current
  · have h8000 : UInt64.toNat 8000 = bpsScale := rfl
    rw [if_pos hle, scaledGrowth, Nat.mul_comm bpsScale]
    by_cases hdt : deltaMs = 0
    · rw [if_neg fun h => h.2 hdt, hdt]
      exact (Nat.div_zero _).symm
    · rw [if_pos ⟨hle, hdt⟩, UInt64.toNat_div, UInt64.toNat_mul,
        UInt64.toNat_sub_of_le _ _ hle, h8000]
  · rw [if_neg fun h => hle h.1, if_neg hle]
    rfl

/-- The words of the program compute the rate between two readings where the scaled growth fits in a
word, and publish it where the rate is below `2 ^ 63`. -/
theorem jsonInt64_interfaceBps {now before current previous : UInt64} (htime : before < now)
    (hle : previous ≤ current) (hword : 8000 * (current.toNat - previous.toNat) < 2 ^ 64)
    (hsigned : 8000 * (current.toNat - previous.toNat) < 2 ^ 63 * (now.toNat - before.toNat)) :
    jsonInt64 (interfaceBps current previous (now - before)) =
      (8000 * (current.toNat - previous.toNat) / (now.toNat - before.toNat) : ℕ) := by
  have hlt := UInt64.lt_iff_toNat_lt.mp htime
  have hvalue : (interfaceBps current previous (now - before)).toNat =
      8000 * (current.toNat - previous.toNat) / (now.toNat - before.toNat) := by
    rw [toNat_interfaceBps_mod, wordBps, if_pos hle, scaledGrowth, Nat.mod_eq_of_lt hword,
      UInt64.toNat_sub_of_le _ _ (UInt64.le_of_lt htime)]
  rw [jsonInt64_eq_iff hvalue, Nat.div_lt_iff_lt_mul (by omega)]
  exact hsigned

/-- A counter that fell is published with the rate zero. -/
theorem jsonInt64_interfaceBps_of_fell {current previous deltaMs : UInt64}
    (h : ¬ previous ≤ current) :
    jsonInt64 (interfaceBps current previous deltaMs) = 0 := by
  rw [interfaceBps, if_neg fun hboth => h hboth.1]
  rfl

/-- The object of an interface without a slot, or whose files do not both open, has no rates. -/
theorem bps_interfaceJson_eq_zero {nowMs : UInt64} {role name : CStr} {stats : IfaceStatistics}
    {prev : Option InterfaceStatSample}
    (h : ∀ p, prev = some p → (stats.statsOk && p.snapshotMs < nowMs) = false) (dir : Direction) :
    (interfaceJson nowMs role name stats prev).bps dir = 0 := by
  unfold interfaceJson
  cases prev with
  | none => cases dir <;> rfl
  | some p =>
    dsimp only
    rw [h p rfl]
    cases dir <;> rfl

/-- The object of an interface that is read against a slot in the past. -/
theorem bps_interfaceJson {nowMs : UInt64} {role name : CStr} {stats : IfaceStatistics}
    {now before : IfaceReading}
    (hstats : stats = ⟨some (some now.rxBytes), some (some now.txBytes)⟩)
    (htime : before.atMs < nowMs) (dir : Direction) :
    (interfaceJson nowMs role name stats (some (before.sample name))).bps dir =
      jsonInt64 (interfaceBps (now.bytes dir) (before.bytes dir) (nowMs - before.atMs)) := by
  subst hstats
  have hdone : (IfaceStatistics.statsOk ⟨some (some now.rxBytes), some (some now.txBytes)⟩ &&
      decide ((before.sample name).snapshotMs < nowMs)) = true := by
    simp [IfaceReading.sample, IfaceStatistics.statsOk, htime]
  unfold interfaceJson
  dsimp only
  rw [hdone]
  cases dir <;> rfl

/-- A full reading is what the two statistics files said at the time of the call. -/
theorem statistics_of_reading {call : InterfacesCall} {name : CStr} {r : IfaceReading}
    (h : call.reading name = some r) :
    call.statistics name = ⟨some (some r.rxBytes), some (some r.txBytes)⟩ ∧
      r.atMs = call.nowMs := by
  unfold InterfacesCall.reading at h
  split_ifs at h
  split at h
  next rx tx hstats =>
    obtain rfl := Option.some.inj h
    exact ⟨hstats, rfl⟩
  next => exact absurd h (by simp)

/-- The rates of a call against slots that hold the newest readings. -/
theorem HoldsReadings.bps {earlier : List InterfacesCall} {previous : InterfaceSlots}
    (h : HoldsReadings names earlier previous) {call : InterfacesCall}
    (hnames : ∀ name ∈ call.names, name ∈ names)
    (hfull : ∀ name ∈ call.names, ¬ (call.statistics name).OpensUnread)
    (hgrowth : ∀ name now before, ∀ dir : Direction, call.reading name = some now →
      lastReading name earlier = some before → before.atMs < now.atMs →
      before.bytes dir ≤ now.bytes dir →
      8000 * ((now.bytes dir).toNat - (before.bytes dir).toNat) < 2 ^ 64 ∧
        8000 * ((now.bytes dir).toNat - (before.bytes dir).toNat) <
          2 ^ 63 * (now.atMs.toNat - before.atMs.toNat)) :
    ∀ json ∈ (interfacesMethod call previous).1, ∀ dir,
      json.bps dir = readingBps dir (call.reading json.name) (lastReading json.name earlier) := by
  intro json hjson dir
  rw [interfacesMethod, interfacesLoop_fst h.slots (loopNames_ifaces hnames)] at hjson
  obtain ⟨⟨role, name⟩, hiface, rfl⟩ := List.mem_map.mp hjson
  have hname : name ∈ call.names := List.mem_map_of_mem hiface
  show (interfaceJson call.nowMs role name (call.statistics name)
        (findSlot name previous)).bps dir =
    readingBps dir (call.reading name) (lastReading name earlier)
  rw [h.readings]
  cases hnow : call.reading name with
  | none =>
    -- Nothing was read, so that not both files opened.
    have hclosed : (call.statistics name).statsOk = false := by
      have hreading := reading_eq_of_full hname (hfull name hname)
      rw [hnow] at hreading
      by_contra hok
      rw [if_pos (by simpa using hok)] at hreading
      exact absurd hreading (by simp)
    rw [bps_interfaceJson_eq_zero (fun _ _ => by rw [hclosed]; rfl)]
    rfl
  | some now =>
    obtain ⟨hstats, hat⟩ := statistics_of_reading hnow
    cases hbefore : lastReading name earlier with
    | none =>
      rw [Option.map_none, bps_interfaceJson_eq_zero (fun _ hp => absurd hp (by simp))]
      rfl
    | some before =>
      rw [Option.map_some, readingBps]
      by_cases htime : before.atMs < now.atMs
      · rw [bps_interfaceJson hstats (hat ▸ htime), ← hat]
        by_cases hle : before.bytes dir ≤ now.bytes dir
        · obtain ⟨hword, hsigned⟩ := hgrowth name now before dir hnow hbefore htime hle
          rw [if_pos ⟨htime, hle⟩, jsonInt64_interfaceBps htime hle hword hsigned]
        · rw [if_neg fun hboth => hle hboth.2, jsonInt64_interfaceBps_of_fell hle]
          rfl
      · rw [if_neg fun hboth => htime hboth.1, bps_interfaceJson_eq_zero]
        · rfl
        · rintro p hp
          obtain rfl := Option.some.inj hp
          rw [Bool.and_eq_false_iff]
          exact .inr (decide_eq_false (hat ▸ htime))

end Run

/-- In a run of at most 32 names whose files can be read wherever they open, and whose rates are
below `2 ^ 63`, every published rate is the one between two real readings, and the slots hold the
newest reading of each name. -/
theorem interface_rates_of_full_readings (calls : List InterfacesCall)
    (hcap : (calls.flatMap InterfacesCall.names).dedup.length ≤ 32)
    (hword : EveryGrowth (fun growth _ => growth < 2 ^ 64) calls)
    (hfull : FullReadings calls)
    (hsigned : EveryGrowth (fun growth dt => growth < 2 ^ 63 * dt) calls) :
    RatesOfReadings calls ∧ ∀ name,
      findSlot name (interfacesRun calls) =
        (lastReading name calls).map fun r => r.sample name := by
  have hnames : ∀ call ∈ calls, ∀ name ∈ call.names,
      name ∈ (calls.flatMap InterfacesCall.names).dedup := fun call hcall name hname =>
    List.mem_dedup.mpr (List.mem_flatMap.mpr ⟨call, hcall, hname⟩)
  refine ⟨?_, (holdsReadings_run hcap hnames hfull).readings⟩
  rintro earlier call later rfl
  have hcall : call ∈ earlier ++ call :: later := List.mem_append_right _ List.mem_cons_self
  have hearlier : ∀ c ∈ earlier, c ∈ earlier ++ call :: later :=
    fun c hc => List.mem_append_left _ hc
  have hholds := holdsReadings_run hcap (fun c hc => hnames c (hearlier c hc))
    fun c hc => hfull c (hearlier c hc)
  exact hholds.bps (hnames call hcall) (hfull call hcall)
    fun name now before dir hnow hbefore htime hle =>
    ⟨hword earlier call later rfl name now before dir hnow hbefore htime hle,
      hsigned earlier call later rfl name now before dir hnow hbefore htime hle⟩

/-- A call in which the files of the LAN bridge give `rx` and `tx`. -/
def bridgeCall (nowMs : UInt64) (rx tx : Option UInt64) : InterfacesCall :=
  { cfg := { ifname := some (.string "br-lan".toList), interfaceInclude := none, observe := none }
    nowMs
    statistics := fun _ => ⟨some rx, some tx⟩ }

/-- The readings of such a call. -/
theorem reading_bridgeCall {nowMs : UInt64} {rx tx : Option UInt64} {name : CStr} {r : IfaceReading}
    (h : (bridgeCall nowMs rx tx).reading name = some r) :
    rx = some r.rxBytes ∧ tx = some r.txBytes ∧ r.atMs = nowMs := by
  obtain ⟨hstats, hat⟩ := statistics_of_reading h
  injection hstats with hrx htx
  exact ⟨Option.some.inj hrx, Option.some.inj htx, hat⟩

/-- The growth between two calls of the LAN bridge. -/
theorem everyGrowth_bridgeCalls {P : ℕ → ℕ → Prop} (hP : P 8000000 1000) :
    EveryGrowth P [bridgeCall 1000 (some 1000) (some 1000),
      bridgeCall 2000 (some 2000) (some 2000)] := by
  intro earlier call later hcalls name now before dir hnow hbefore _ _
  match earlier with
  | [] => exact absurd hbefore (by simp [lastReading])
  | [first] =>
    obtain ⟨rfl, htail⟩ := List.cons.inj hcalls
    obtain ⟨rfl, rfl⟩ := List.cons.inj htail
    have hlast : (bridgeCall 1000 (some 1000) (some 1000)).reading name = some before := by
      have hconcat := lastReading_concat name [] (bridgeCall 1000 (some 1000) (some 1000))
      rw [List.nil_append, hbefore] at hconcat
      simpa [lastReading] using hconcat.symm
    obtain ⟨hrx, htx, hat⟩ := reading_bridgeCall hnow
    obtain ⟨hrx', htx', hat'⟩ := reading_bridgeCall hlast
    rw [hat, hat']
    cases dir with
    | tx =>
      rw [IfaceReading.bytes, IfaceReading.bytes, ← Option.some.inj htx, ← Option.some.inj htx']
      exact hP
    | rx =>
      rw [IfaceReading.bytes, IfaceReading.bytes, ← Option.some.inj hrx, ← Option.some.inj hrx']
      exact hP
  | _ :: _ :: _ => simp at hcalls

/-- The rates of the LAN bridge over two calls that read it. -/
theorem interface_rates_bridge :
    RatesOfReadings
        [bridgeCall 1000 (some 1000) (some 1000), bridgeCall 2000 (some 2000) (some 2000)] ∧ ∀ name,
      findSlot name (interfacesRun
          [bridgeCall 1000 (some 1000) (some 1000), bridgeCall 2000 (some 2000) (some 2000)]) =
        (lastReading name
          [bridgeCall 1000 (some 1000) (some 1000), bridgeCall 2000 (some 2000) (some 2000)]).map
            fun r => r.sample name := by
  apply interface_rates_of_full_readings
  · decide +kernel
  · exact everyGrowth_bridgeCalls (by decide)
  · intro call hcall name _ hunread
    obtain ⟨-, hnone⟩ := hunread
    rcases List.mem_cons.mp hcall with rfl | hcall
    · exact hnone.elim (fun h => absurd h (by simp [bridgeCall])) fun h =>
        absurd h (by simp [bridgeCall])
    · obtain rfl := List.mem_singleton.mp hcall
      exact hnone.elim (fun h => absurd h (by simp [bridgeCall])) fun h =>
        absurd h (by simp [bridgeCall])
  · exact everyGrowth_bridgeCalls (by decide)

/-- After a call whose receive counter could not be read, the next rate is computed from zero. -/
theorem not_ratesOfReadings_unread :
    ¬ RatesOfReadings [bridgeCall 1000 (some 1000) (some 1000), bridgeCall 2000 none (some 1000),
      bridgeCall 3000 (some 2000) (some 1000)] := by
  intro h
  have hrates := h [bridgeCall 1000 (some 1000) (some 1000), bridgeCall 2000 none (some 1000)]
    (bridgeCall 3000 (some 2000) (some 1000)) [] rfl
  have hjsons : (interfacesMethod (bridgeCall 3000 (some 2000) (some 1000)) (interfacesRun
      [bridgeCall 1000 (some 1000) (some 1000), bridgeCall 2000 none (some 1000)])).1.map
        (fun json => (json.name, json.bps .rx)) = [("br-lan".toList, 16000)] := by decide +kernel
  obtain ⟨json, hjson, heq⟩ := List.mem_map.mp (hjsons ▸ List.mem_singleton_self _)
  obtain ⟨hname, hbps⟩ := Prod.mk.inj heq
  have hexpected := hrates json hjson .rx
  rw [hname, hbps] at hexpected
  exact absurd hexpected (by decide +kernel)

end Lanspeed
