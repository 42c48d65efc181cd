import Lanspeed.Nss
import Lanspeed.Lib.Loop

/-!
# Dumps of the NSS connection manager

A dump shows a flow record as a block of lines, one for each of its fields, and the reader tells the
records apart by their serials alone: it keeps the record that it is reading, and completes it when
a line with another serial comes, or none. Whatever the order of the fields, and whatever lines the
parser rejects come in between, it reads the records one by one (`ecm_dump_decoded`).
-/

namespace Lanspeed

open CText

/-! ## Records -/

/-- The fields that `nss_ecm_direct_flow_apply_field` knows. -/
inductive EcmField where
  | sipAddress
  | dipAddress
  | snodeAddress
  | dnodeAddress
  | protocol
  | fromDataTotal
  | toDataTotal
deriving DecidableEq, Repr

/-- The name of a field in the dump. -/
def EcmField.name : EcmField → CStr
  | .sipAddress    => "sip_address".toList
  | .dipAddress    => "dip_address".toList
  | .snodeAddress  => "snode_address".toList
  | .dnodeAddress  => "dnode_address".toList
  | .protocol      => "protocol".toList
  | .fromDataTotal => "adv_stats.from_data_total".toList
  | .toDataTotal   => "adv_stats.to_data_total".toList

/-- A field as a dump shows it: a name that ends before the equals sign, and a value on one line. -/
structure EcmEntry where
  name        : CStr
  value       : CStr
  name_ne     : name ≠ []
  name_plain  : ∀ c ∈ name, c ≠ '=' ∧ c ≠ '\n'
  value_plain : ∀ c ∈ value, c ≠ '\r' ∧ c ≠ '\n'

/-- A flow record as a dump shows it: a short serial without dots, and its fields in the order of
the block, each known field at most once. -/
structure EcmRecord where
  serial       : CStr
  fields       : List EcmEntry
  serial_ne    : serial ≠ []
  serial_plain : ∀ c ∈ serial, c ≠ '.' ∧ c ≠ '=' ∧ c ≠ '\n'
  serial_short : serial.length < 32
  fields_ne    : fields ≠ []
  known_once   : ∀ field : EcmField, fields.countP (fun entry => entry.name = field.name) ≤ 1

/-- The line of a field. -/
def EcmEntry.line (serial : CStr) (entry : EcmEntry) : CStr :=
  "conns.conn.".toList ++ serial ++ '.' :: entry.name ++ '=' :: entry.value

/-- The block of a record. -/
def EcmRecord.lines (r : EcmRecord) : List CStr := r.fields.map (EcmEntry.line r.serial)

/-- The text of a known field, where the record has it. -/
def EcmRecord.value (r : EcmRecord) (field : EcmField) : Option CStr :=
  (r.fields.find? fun entry => entry.name = field.name).map EcmEntry.value

/-- The flow of a record. -/
def EcmRecord.flow (r : EcmRecord) : NssEcmDirectFlow where
  serial            := r.serial
  sipAddress        := ((r.value .sipAddress).map (snprintf ipStrLen)).getD []
  dipAddress        := ((r.value .dipAddress).map (snprintf ipStrLen)).getD []
  snodeAddress      := ((r.value .snodeAddress).map fun text =>
    normalizeMacAddress (snprintf macStrLen text)).getD []
  dnodeAddress      := ((r.value .dnodeAddress).map fun text =>
    normalizeMacAddress (snprintf macStrLen text)).getD []
  fromDataTotal     := ((r.value .fromDataTotal).map fun text =>
    UInt64.ofNat ((strtoull text).getD 0)).getD 0
  toDataTotal       := ((r.value .toDataTotal).map fun text =>
    UInt64.ofNat ((strtoull text).getD 0)).getD 0
  protocol          := ((r.value .protocol).map atoi).getD 0
  hasSipAddress     := ((r.value .sipAddress).map fun _ => true).getD false
  hasFromDataTotal  := ((r.value .fromDataTotal).map fun text => (strtoull text).isSome).getD false

/-! ## Applying the fields -/

/-- Set a known field from its text. -/
def NssEcmDirectFlow.set (flow : NssEcmDirectFlow) (text : CStr) : EcmField → NssEcmDirectFlow
  | .sipAddress    => { flow with sipAddress := snprintf ipStrLen text, hasSipAddress := true }
  | .dipAddress    => { flow with dipAddress := snprintf ipStrLen text }
  | .snodeAddress  => { flow with snodeAddress := normalizeMacAddress (snprintf macStrLen text) }
  | .dnodeAddress  => { flow with dnodeAddress := normalizeMacAddress (snprintf macStrLen text) }
  | .protocol      => { flow with protocol := atoi text }
  | .fromDataTotal =>
    { flow with
      fromDataTotal := UInt64.ofNat ((strtoull text).getD 0)
      hasFromDataTotal := (strtoull text).isSome }
  | .toDataTotal   => { flow with toDataTotal := UInt64.ofNat ((strtoull text).getD 0) }

theorem EcmField.name_inj {a b : EcmField} (h : a.name = b.name) : a = b := by
  cases a <;> cases b <;> first | rfl | exact absurd h (by decide)

/-- A known field is set, and the others are left out. -/
theorem applyField_known (flow : NssEcmDirectFlow) (field : EcmField) (text : CStr) :
    nssEcmDirectFlowApplyField flow field.name text = flow.set text field := by
  cases field <;> rfl

/-- A field with another name changes nothing. -/
theorem applyField_unknown (flow : NssEcmDirectFlow) {name : CStr}
    (h : ∀ field : EcmField, name ≠ field.name)
    (text : CStr) : nssEcmDirectFlowApplyField flow name text = flow := by
  calc nssEcmDirectFlowApplyField flow name text
      = _ := if_neg (h .sipAddress)
    _ = _ := if_neg (h .dipAddress)
    _ = _ := if_neg (h .snodeAddress)
    _ = _ := if_neg (h .dnodeAddress)
    _ = _ := if_neg (h .protocol)
    _ = _ := if_neg (h .fromDataTotal)
    _ = flow := if_neg (h .toDataTotal)

/-- A name is that of a known field when its cut text is. -/
theorem snprintf_name_eq_iff (name : CStr) (field : EcmField) :
    snprintf 96 name = field.name ↔ name = field.name := by
  have hshort : field.name.length < 95 := by cases field <;> decide
  constructor
  · intro h
    by_cases hfits : name.length < 96
    · rwa [snprintf_of_fits hfits] at h
    · have hlen := congrArg List.length h
      rw [snprintf, List.length_take] at hlen
      omega
  · rintro rfl
    exact snprintf_of_fits (by omega)

/-- What an entry makes of a flow. -/
def NssEcmDirectFlow.apply (flow : NssEcmDirectFlow) (entry : EcmEntry) : NssEcmDirectFlow :=
  nssEcmDirectFlowApplyField flow (snprintf 96 entry.name) entry.value

section Apply

variable {M : Type*} {μ : NssEcmDirectFlow → M} (field : EcmField) {value : CStr → M}

/-- A part of the flow that one known field sets is set by the entries of that field. -/
theorem apply_part (hμ : ∀ flow text f, μ (flow.set text f) = if f = field then value text
    else μ flow)
    (flow : NssEcmDirectFlow) (entry : EcmEntry) :
    μ (flow.apply entry) = if entry.name = field.name then value entry.value else μ flow := by
  unfold NssEcmDirectFlow.apply
  by_cases hknown : ∃ f : EcmField, entry.name = f.name
  · obtain ⟨f, hf⟩ := hknown
    rw [(snprintf_name_eq_iff _ f).mpr hf, applyField_known, hμ, hf]
    by_cases h : f = field
    · rw [if_pos h, if_pos (congrArg EcmField.name h)]
    · rw [if_neg h, if_neg fun hname => h (EcmField.name_inj hname)]
  · have hunknown : ∀ f : EcmField, snprintf 96 entry.name ≠ f.name :=
      fun f h => hknown ⟨f, (snprintf_name_eq_iff _ f).mp h⟩
    rw [applyField_unknown flow hunknown, if_neg fun h => hknown ⟨field, h⟩]

/-- Once the fields of a record are applied, it is what the record's field says. -/
theorem foldl_apply_part (hμ : ∀ flow text f, μ (flow.set text f) = if f = field then value text
    else μ flow)
    (r : EcmRecord) (flow : NssEcmDirectFlow) :
    μ (r.fields.foldl NssEcmDirectFlow.apply flow) = ((r.value field).map value).getD (μ flow) := by
  have hfold : μ (r.fields.foldl NssEcmDirectFlow.apply flow) =
      r.fields.foldl (fun m entry => if entry.name = field.name then value entry.value
        else m) (μ flow) :=
    (List.foldl_hom μ fun flow entry => (apply_part field hμ flow entry).symm).symm
  rw [hfold, Loop.foldl_assign, EcmRecord.value, ← List.head?_filter]
  -- There is at most one such entry, so that the last is the first.
  have honce := r.known_once field
  rw [List.countP_eq_length_filter] at honce
  generalize (r.fields.filter fun entry => entry.name = field.name) = entries at honce ⊢
  match entries, honce with
  | [], _ => rfl
  | [entry], _ => rfl
  | _ :: _ :: _, h => exact absurd h (by simp)

end Apply

attribute [ext] NssEcmDirectFlow

/-- Applying the fields of an entry keeps its serial number. -/
theorem serial_apply (flow : NssEcmDirectFlow) (entry : EcmEntry) :
    (flow.apply entry).serial = flow.serial := by
  unfold NssEcmDirectFlow.apply nssEcmDirectFlowApplyField
  split_ifs <;> rfl

/-- The fields of a record make its flow, in any order. -/
theorem EcmRecord.foldl_apply (r : EcmRecord) :
    r.fields.foldl NssEcmDirectFlow.apply (nssEcmDirectFlowReset r.serial) = r.flow := by
  have hserial : snprintf 32 r.serial = r.serial := snprintf_of_fits r.serial_short
  apply NssEcmDirectFlow.ext
  · exact (Loop.foldl_frame NssEcmDirectFlow.serial serial_apply _ _).trans hserial
  · exact foldl_apply_part .sipAddress (fun flow text f => by cases f <;> rfl) r _
  · exact foldl_apply_part .dipAddress (fun flow text f => by cases f <;> rfl) r _
  · exact foldl_apply_part .snodeAddress (fun flow text f => by cases f <;> rfl) r _
  · exact foldl_apply_part .dnodeAddress (fun flow text f => by cases f <;> rfl) r _
  · exact foldl_apply_part .fromDataTotal (fun flow text f => by cases f <;> rfl) r _
  · exact foldl_apply_part .toDataTotal (fun flow text f => by cases f <;> rfl) r _
  · exact foldl_apply_part .protocol (fun flow text f => by cases f <;> rfl) r _
  · exact foldl_apply_part .sipAddress (fun flow text f => by cases f <;> rfl) r _
  · exact foldl_apply_part .fromDataTotal (fun flow text f => by cases f <;> rfl) r _

/-! ## Reading the lines -/

/-- The key of a field is taken apart into its serial and its name. -/
theorem parse_key (r : EcmRecord) (entry : EcmEntry) :
    parseNssEcmStateKey ("conns.conn.".toList ++ (r.serial ++ '.' :: entry.name)) =
      some (r.serial, snprintf 96 entry.name) := by
  have hpre :
      startsWith ("conns.conn.".toList ++ (r.serial ++ '.' :: entry.name)) "conns.conn.".toList =
      true := List.isPrefixOf_iff_prefix.mpr (List.prefix_append _ _)
  have hdrop : ("conns.conn.".toList ++ (r.serial ++ '.' :: entry.name)).drop 11 =
      r.serial ++ '.' :: entry.name := List.drop_left' rfl
  have hserial : (r.serial ++ '.' :: entry.name).takeWhile (· != '.') = r.serial :=
    takeWhile_stop (fun c hc => bne_iff_ne.mpr (r.serial_plain c hc).1) rfl _
  have hlength : ¬(r.serial.length = (r.serial ++ '.' :: entry.name).length ∨ r.serial = []) := by
    rw [List.length_append, List.length_cons, or_iff_left r.serial_ne]
    omega
  have hrest : (r.serial ++ '.' :: entry.name).drop (r.serial.length + 1) = entry.name := by
    rw [← List.drop_drop, List.drop_left]
    rfl
  have hname : snprintf 96 entry.name ≠ [] := by
    obtain ⟨c, cs, hcs⟩ := List.exists_cons_of_ne_nil entry.name_ne
    rw [hcs]
    exact List.cons_ne_nil _ _
  rw [parseNssEcmStateKey, hpre]
  dsimp only
  rw [if_neg (by decide), hdrop, hserial, if_neg hlength,
    if_neg (Nat.not_le.mpr r.serial_short), hrest, if_neg hname]

/-- The line of a field is taken apart into its serial, its name and its value. -/
theorem parse_line (r : EcmRecord) (entry : EcmEntry)
    (hshort : (entry.line r.serial).length < nssEcmStateLineMax) :
    parseNssEcmStateLine (entry.line r.serial) = some
      (r.serial, snprintf 96 entry.name, entry.value) := by
  have hkey : ∀ c ∈ "conns.conn.".toList ++ (r.serial ++ '.' :: entry.name), (c != '=') = true := by
    have hpre : ∀ c ∈ "conns.conn.".toList, (c != '=') = true := List.all_eq_true.mp rfl
    intro c hc
    rcases List.mem_append.mp hc with hc | hc
    · exact hpre c hc
    · rcases List.mem_append.mp hc with hc | hc
      · exact bne_iff_ne.mpr (r.serial_plain c hc).2.1
      · rcases List.mem_cons.mp hc with rfl | hc
        · rfl
        · exact bne_iff_ne.mpr (entry.name_plain c hc).1
  have hvalue : ∀ c ∈ entry.value, (c != '\r' && c != '\n') = true := by
    intro c hc
    rw [Bool.and_eq_true, bne_iff_ne, bne_iff_ne]
    exact entry.value_plain c hc
  have hparsed := parse_key r entry
  have hline : entry.line r.serial =
      ("conns.conn.".toList ++ (r.serial ++ '.' :: entry.name)) ++ '=' :: entry.value := by
    unfold EcmEntry.line
    simp only [List.append_assoc, List.cons_append]
  rw [hline] at hshort ⊢
  generalize "conns.conn.".toList ++ (r.serial ++ '.' :: entry.name) = key at hkey hparsed hshort
  have hlength : ¬key.length = (key ++ '=' :: entry.value).length := by
    rw [List.length_append, List.length_cons]
    omega
  have hrest : (key ++ '=' :: entry.value).drop (key.length + 1) = entry.value := by
    rw [← List.drop_drop, List.drop_left]
    rfl
  have hfits : entry.value.length < nssEcmStateLineMax := by
    rw [List.length_append, List.length_cons] at hshort
    omega
  rw [parseNssEcmStateLine, snprintf_of_fits hshort]
  dsimp only
  rw [takeWhile_stop hkey rfl, if_neg hlength, hparsed, hrest,
    List.takeWhile_eq_self_iff.mpr hvalue, snprintf_of_fits hfits]
  rfl

/-- The newline of a line makes no difference to the parser. -/
theorem parse_newline {line : CStr} (hshort : line.length + 1 < nssEcmStateLineMax) :
    parseNssEcmStateLine (line ++ ['\n']) = parseNssEcmStateLine line := by
  have hcut : snprintf nssEcmStateLineMax (line ++ ['\n']) = line ++ ['\n'] :=
    snprintf_of_fits (by rwa [List.length_append])
  rw [parseNssEcmStateLine, parseNssEcmStateLine, hcut, snprintf_of_fits (Nat.lt_of_succ_lt hshort)]
  dsimp only
  have hle : (line.takeWhile (· != '=')).length ≤ line.length := (List.takeWhile_prefix _).length_le
  rcases Nat.lt_or_eq_of_le hle with hkey | hkey
  · -- The equals sign stands in the line, and the value ends where the line does.
    have hnewline : ¬(line.takeWhile (· != '=')).length = (line ++ ['\n']).length := by
      rw [List.length_append]
      omega
    rw [List.takeWhile_append, if_neg hkey.ne, if_neg hkey.ne, if_neg hnewline,
      List.drop_append_of_le_length hkey, takeWhile_concat (by decide)]
  · have hnewline : (line ++ ['\n']).takeWhile (· != '=') = line ++ ['\n'] := by
      rw [List.takeWhile_append, if_pos hkey]
      rfl
    rw [hnewline, if_pos rfl, if_pos hkey]

/-! ## The flows of a dump -/

/-- A line that is not parsed is skipped. -/
theorem nssFlows_rejected {line : CStr} (h : parseNssEcmStateLine line = none)
    (active : NssEcmDirectActive)
    (lines : List CStr) : nssFlows active (line :: lines) = nssFlows active lines := by
  rw [nssFlows, h]

/-- A line of a new entry completes the one before. -/
theorem nssFlows_parsed {line serial field value : CStr}
    (h : parseNssEcmStateLine line = some (serial, field, value)) (active : NssEcmDirectActive)
    (lines : List CStr) :
    nssFlows active (line :: lines) =
      (active.completed serial).toList ++ nssFlows (active.next serial field value) lines := by
  rw [nssFlows, h]

/-- Lines that the parser takes apart alike give the same flows. -/
theorem nssFlows_congr {a b : CStr} (h : parseNssEcmStateLine a = parseNssEcmStateLine b)
    (active : NssEcmDirectActive) {as bs : List CStr}
    (hrest : ∀ active, nssFlows active as = nssFlows active bs) :
    nssFlows active (a :: as) = nssFlows active (b :: bs) := by
  rw [nssFlows, nssFlows, h]
  cases parseNssEcmStateLine b with
  | none => exact hrest active
  | some parsed => exact congrArg (_ ++ ·) (hrest _)

/-- The pieces that `fgets` hands back give the flows of the lines. -/
theorem nssFlows_fgetsLines {lines : List CStr}
    (hlines : ∀ line ∈ lines, line.length < nssEcmStateLineMax ∧ '\n' ∉ line)
    (active : NssEcmDirectActive) :
    nssFlows active (fgetsLines nssEcmStateLineMax (lines.flatMap fun line => line ++ ['\n'])) =
      nssFlows active lines := by
  induction lines generalizing active with
  | nil => rfl
  | cons line lines ih =>
    obtain ⟨⟨hshort, hplain⟩, hrest⟩ := List.forall_mem_cons.mp hlines
    have ih := fun active => ih hrest active
    rw [List.flatMap_cons, List.append_assoc, List.singleton_append]
    rcases Nat.lt_or_eq_of_le (Nat.succ_le_of_lt hshort) with hfits | hfull
    · rw [fgetsLines_line hplain hfits]
      exact nssFlows_congr (parse_newline hfits) active ih
    · -- The newline that does not fit is a piece of its own, which the parser rejects.
      have hne : line ≠ [] := by
        rintro rfl
        exact absurd hfull (by decide)
      rw [fgetsLines_full hne hplain hfull]
      apply nssFlows_congr rfl active
      intro active
      rw [nssFlows_rejected (by decide), ih]

/-- Lines that the parser rejects make no difference to the flows. -/
theorem nssFlows_interspersed {items all : List CStr}
    (h : Loop.Interspersed (fun line => parseNssEcmStateLine line = none) items all)
    (active : NssEcmDirectActive) : nssFlows active all = nssFlows active items := by
  induction h generalizing active with
  | nil => rfl
  | item line _ ih => exact nssFlows_congr rfl active ih
  | noise hrejected _ ih => rw [nssFlows_rejected hrejected, ih]

/-- Lines of the active record are applied to its flow. -/
theorem nssFlows_active (r : EcmRecord) {entries : List EcmEntry}
    (hshort : ∀ entry ∈ entries, (entry.line r.serial).length < nssEcmStateLineMax)
    (flow : NssEcmDirectFlow) (rest : List CStr) :
    nssFlows ⟨flow, r.serial, true⟩ (entries.map (EcmEntry.line r.serial) ++ rest) =
      nssFlows ⟨entries.foldl NssEcmDirectFlow.apply flow, r.serial, true⟩ rest := by
  induction entries generalizing flow with
  | nil => rfl
  | cons entry entries ih =>
    obtain ⟨hentry, hentries⟩ := List.forall_mem_cons.mp hshort
    have hsame : ¬(r.serial ≠ [] ∧ r.serial ≠ r.serial) := fun h => h.2 rfl
    rw [List.map_cons, List.cons_append, nssFlows_parsed (parse_line r entry hentry),
      NssEcmDirectActive.completed, NssEcmDirectActive.next, if_neg hsame,
      if_neg hsame, if_neg r.serial_ne]
    exact ih hentries _

/-- The block of a record with another serial completes the active record, and makes its
own active. -/
theorem nssFlows_block (r : EcmRecord) (hshort : ∀ line ∈ r.lines, line.length < nssEcmStateLineMax)
    {active : NssEcmDirectActive} (hserial : active.serial ≠ r.serial) (rest : List CStr) :
    nssFlows active (r.lines ++ rest) =
      (active.completed r.serial).toList ++ nssFlows ⟨r.flow, r.serial, true⟩ rest := by
  obtain ⟨entry, entries, hfields⟩ := List.exists_cons_of_ne_nil r.fields_ne
  have hlines : r.lines = entry.line r.serial :: entries.map (EcmEntry.line r.serial) := by
    rw [EcmRecord.lines, hfields, List.map_cons]
  rw [hlines] at hshort ⊢
  obtain ⟨hentry, hentries⟩ := List.forall_mem_cons.mp hshort
  have hcopy : snprintf 32 r.serial = r.serial := snprintf_of_fits r.serial_short
  -- The first line starts a new flow, whether or not there was one.
  have hnext : active.next r.serial (snprintf 96 entry.name) entry.value =
      ⟨(nssEcmDirectFlowReset r.serial).apply entry, r.serial, true⟩ := by
    unfold NssEcmDirectActive.next
    dsimp only
    split_ifs with hother hnone
    · rw [hcopy]
      rfl
    · rw [hcopy]
      rfl
    · exact absurd ⟨hnone, hserial⟩ hother
  rw [List.cons_append, nssFlows_parsed (parse_line r entry hentry), hnext,
    nssFlows_active r (List.forall_mem_map.mp hentries), ← r.foldl_apply, hfields, List.foldl_cons]

/-- The flows of a dump are those of its records. -/
theorem nssFlows_records {records : List EcmRecord}
    (hserials : (records.map EcmRecord.serial).Nodup)
    (hshort : ∀ line ∈ records.flatMap EcmRecord.lines, line.length < nssEcmStateLineMax) :
    nssFlows {} (records.flatMap EcmRecord.lines) = records.map EcmRecord.flow := by
  -- Behind a record, its flow comes before those of the others.
  have hbehind : ∀ (records : List EcmRecord) (r : EcmRecord),
      ((r :: records).map EcmRecord.serial).Nodup →
      (∀ line ∈ records.flatMap EcmRecord.lines, line.length < nssEcmStateLineMax) →
      nssFlows ⟨r.flow, r.serial, true⟩ (records.flatMap EcmRecord.lines) =
        r.flow :: records.map EcmRecord.flow := by
    intro records
    induction records with
    | nil => exact fun _ _ _ => rfl
    | cons next records ih =>
      intro r hserials hshort
      rw [List.map_cons, List.nodup_cons] at hserials
      obtain ⟨hr, hrest⟩ := hserials
      have hother : r.serial ≠ next.serial := fun h => hr (h ▸ List.mem_cons_self)
      rw [List.flatMap_cons] at hshort ⊢
      obtain ⟨hnext, hlines⟩ := List.forall_mem_append.mp hshort
      rw [nssFlows_block next hnext hother, ih next hrest hlines, NssEcmDirectActive.completed,
        if_pos ⟨r.serial_ne, hother⟩]
      rfl
  cases records with
  | nil => rfl
  | cons r records =>
    rw [List.flatMap_cons] at hshort ⊢
    obtain ⟨hr, hrest⟩ := List.forall_mem_append.mp hshort
    rw [nssFlows_block r hr r.serial_ne.symm, hbehind records r hserials hrest]
    rfl

/-- No part of the aggregation touches the count of the entries. -/
theorem entriesSeen_addNssFlow (ctx : FlowContext) (agg : FlowAggregate) (flow : NssEcmDirectFlow) :
    (addNssEcmDirectFlowToSamples ctx agg flow).stats.entriesSeen = agg.stats.entriesSeen := by
  unfold addNssEcmDirectFlowToSamples
  split_ifs
  · rfl
  · cases findArpEntry ctx.arp flow.sipAddress with
    | none => rfl
    | some arp =>
      dsimp only
      unfold addFlowShare
      cases findConntrackClientSample (nssShare arp flow).key agg.samples with
      | some _ => rfl
      | none =>
        dsimp only
        split_ifs <;> rfl

/-- Every flow of a state file is counted. -/
theorem entriesSeen_nssEcmDirectAggregate (ctx : FlowContext) (content : CStr) :
    (nssEcmDirectAggregate ctx content).stats.entriesSeen =
      (nssFlows {} (fgetsLines nssEcmStateLineMax content)).length := by
  have hentry :
      ∀ agg flow, (nssEcmDirectEntry ctx agg flow).stats.entriesSeen = agg.stats.entriesSeen + 1 :=
    fun agg flow => entriesSeen_addNssFlow ctx _ flow
  rw [view_nssEcmDirectAggregate (fun agg => agg.stats.entriesSeen) (fun n _ => n + 1) hentry
      fun _ _ => rfl,
    List.foldl_add_const, Nat.one_mul]
  exact Nat.zero_add _

/-- A dump of records with distinct serials, in which lines that the parser rejects may stand
anywhere, is decoded record by record: each is counted as an entry, and the table is the one that
their flows make. -/
theorem ecm_dump_decoded (maxSamples : ℕ) (nowMs : UInt64) {arpFile : Option CStr}
    (harp : loadArpTable arpFile ≠ []) {records : List EcmRecord}
    (hserials : (records.map EcmRecord.serial).Nodup) {lines : List CStr}
    (hlines : Loop.Interspersed (fun line => parseNssEcmStateLine line = none)
      (records.flatMap EcmRecord.lines) lines)
    (hshort : ∀ line ∈ lines, line.length < nssEcmStateLineMax ∧ '\n' ∉ line) :
    let snapshot := readNssEcmDirectSnapshot maxSamples nowMs arpFile
      (some (lines.flatMap fun line => line ++ ['\n']))
    snapshot.agg.stats.entriesSeen = records.length ∧
      snapshot.agg.samples = ((records.map EcmRecord.flow).foldl
        (addNssEcmDirectFlowToSamples { arp := loadArpTable arpFile, maxSamples, nowMs })
          {}).samples := by
  have hflows :
      nssFlows {} (fgetsLines nssEcmStateLineMax (lines.flatMap fun line => line ++ ['\n'])) =
      records.map EcmRecord.flow := by
    rw [nssFlows_fgetsLines hshort, nssFlows_interspersed hlines]
    exact nssFlows_records hserials fun line hline => (hshort line (hlines.mem hline)).1
  dsimp only
  rw [readNssEcmDirectSnapshot]
  dsimp only
  rw [if_neg harp]
  constructor
  · rw [entriesSeen_nssEcmDirectAggregate, hflows, List.length_map]
  · rw [samples_nssEcmDirectAggregate_foldl, hflows]

/-- What a test says of all characters holds of each. -/
theorem forall_mem_of_all {P : Char → Prop} [DecidablePred P] {s : CStr}
    (h : (s.all fun c => decide (P c)) = true) : ∀ c ∈ s, P c :=
  fun c hc => of_decide_eq_true (List.all_eq_true.mp h c hc)

/-- The bytes that a host has sent. -/
def sentEntry : EcmEntry where
  name := "adv_stats.from_data_total".toList
  value := "700".toList
  name_ne := by decide
  name_plain := forall_mem_of_all rfl
  value_plain := forall_mem_of_all rfl

/-- The host that has sent them. -/
def hostEntry : EcmEntry where
  name := "sip_address".toList
  value := "192.168.1.2".toList
  name_ne := by decide
  name_plain := forall_mem_of_all rfl
  value_plain := forall_mem_of_all rfl

/-- The record of a flow of the host. -/
def hostRecord : EcmRecord where
  serial := "17".toList
  fields := [sentEntry, hostEntry]
  serial_ne := by decide
  serial_plain := forall_mem_of_all rfl
  serial_short := by decide
  fields_ne := by decide
  known_once field := by cases field <;> decide +kernel

/-- A record without a host. -/
def strayRecord : EcmRecord where
  serial := "4".toList
  fields := [sentEntry]
  serial_ne := by decide
  serial_plain := forall_mem_of_all rfl
  serial_short := by decide
  fields_ne := by decide
  known_once field := by cases field <;> decide +kernel

/-- A dump of the two records, with lines that the parser rejects around and within the blocks. -/
theorem ecm_dump_two_records :
    let arpFile : CStr := "IP address\n192.168.1.2 0x1 0x2 02:00:00:00:00:01 * br-lan\n".toList
    let lines : List CStr :=
      ["# state".toList, sentEntry.line "17".toList, [], hostEntry.line "17".toList,
      sentEntry.line "4".toList, "conns.conn.=".toList]
    let snapshot := readNssEcmDirectSnapshot 8 1000 (some arpFile)
      (some (lines.flatMap fun line => line ++ ['\n']))
    snapshot.agg.stats.entriesSeen = 2 ∧
      snapshot.agg.samples = ([hostRecord.flow, strayRecord.flow].foldl
        (addNssEcmDirectFlowToSamples { arp := loadArpTable (some arpFile),
                                        maxSamples := 8, nowMs := 1000 })
        {}).samples := by
  intro arpFile lines
  have harp : loadArpTable (some arpFile) ≠ [] := by decide +kernel
  have hserials : ([hostRecord, strayRecord].map EcmRecord.serial).Nodup := by decide +kernel
  have hrejected : ∀ line ∈ ["# state".toList, [], "conns.conn.=".toList],
      parseNssEcmStateLine line = none := by decide +kernel
  have hlines : Loop.Interspersed (fun line => parseNssEcmStateLine line = none)
      ([hostRecord, strayRecord].flatMap EcmRecord.lines) lines :=
    .noise (hrejected _ (by simp)) (.item _ (.noise (hrejected _ (by simp)) (.item _ (.item _
      (.noise (hrejected _ (by simp)) .nil)))))
  have hshort : ∀ line ∈ lines, line.length < nssEcmStateLineMax ∧ '\n' ∉ line := by decide +kernel
  exact ecm_dump_decoded 8 1000 harp hserials hlines hshort

end Lanspeed
