import Lanspeed.ClientTables
import Lanspeed.Lib.CappedMap
import Lanspeed.Lib.Fields
import Lanspeed.Lib.Loop

/-!
# Hostnames

`hostname_cache_refresh` fills a table by MAC address from the leases, and one by IP address from
the leases, the hosts directory and `/etc/hosts`; `hostname_lookup` asks the first and then the
second. The name of a client is the documented one unless the table by MAC address is full when a
lease of the client gives it another name (`hostnameLookup_eq_iff`).
-/

namespace Lanspeed

/-- `HOSTNAME_STR_LEN`. -/
def hostnameStrLen : ℕ := 64

/-- `HOSTNAME_CACHE_MAX`. -/
def hostnameCacheMax : ℕ := 1024

/-- `HOSTNAME_REFRESH_MS`. -/
def hostnameRefreshMs : UInt64 := 10000

/-! ## The cache -/

/-- `struct hostname_by_mac`. -/
structure HostnameByMac where
  mac  : CStr
  name : CStr
deriving DecidableEq, Repr

/-- `struct hostname_by_ip`. -/
structure HostnameByIp where
  ip   : CStr
  name : CStr
deriving DecidableEq, Repr

/-- The hostname cache. -/
structure HostnameCache where
  macs          : List HostnameByMac := []
  ips           : List HostnameByIp := []
  refreshMs     : UInt64 := 0
  leasesMtime   : ℤ := 0
  etchostsMtime : ℤ := 0
  hostsdirMtime : ℤ := 0
deriving DecidableEq, Repr

/-- `hostname_valid`. -/
def hostnameValid (name : CStr) : Bool :=
  !name.isEmpty && name != ['*'] && name != ['-'] && !name.any CText.isSpace

/-- `hostname_cache_add_mac`. -/
def hostnameCacheAddMac (tbl : List HostnameByMac) (mac name : CStr) : List HostnameByMac :=
  if !validMacAddress mac || !hostnameValid name then tbl
  else if hostnameCacheMax ≤ tbl.length then tbl
  else
    match Keyed.lookup HostnameByMac.mac mac tbl with
    | some _ => Keyed.modify HostnameByMac.mac mac (fun e =>
      { e with name := snprintf hostnameStrLen name }) tbl
    | none => tbl ++ [⟨snprintf macStrLen mac, snprintf hostnameStrLen name⟩]

/-- `hostname_cache_add_ip`. -/
def hostnameCacheAddIp (tbl : List HostnameByIp) (ip name : CStr) : List HostnameByIp :=
  if ip.isEmpty || !hostnameValid name then tbl
  else if hostnameCacheMax ≤ tbl.length then tbl
  else
    match Keyed.lookup HostnameByIp.ip ip tbl with
    | some _ => tbl
    | none => tbl ++ [⟨snprintf ipStrLen ip, snprintf hostnameStrLen name⟩]

/-! ## The files -/

/-- The fields of `sscanf(line, "%lu %17s %45s %63s", …)`; `none` unless all four are read. -/
def scanLeaseFields (line : CStr) : Option (CStr × CStr × CStr) := do
  let (_, line) ← CText.scanUlong line
  let (mac, line) ← CText.scanField 17 line
  let (ip, line) ← CText.scanField 45 line
  let (name, _) ← CText.scanField 63 line
  return (mac, ip, name)

/-- The body of the loop of `hostname_cache_parse_leases`. -/
def parseLeaseLine (cache : HostnameCache) (line : CStr) : HostnameCache :=
  match scanLeaseFields line with
  | none => cache
  | some (mac, ip, name) =>
    { cache with
      macs := hostnameCacheAddMac cache.macs (normalizeMacAddress mac) name
      ips := hostnameCacheAddIp cache.ips ip name }

/-- `hostname_cache_parse_leases`, on the content of the file if it opens. -/
def hostnameCacheParseLeases (file : Option CStr) (cache : HostnameCache) : HostnameCache :=
  match file with
  | none => cache
  | some content => (CText.fgetsLines 512 content).foldl parseLeaseLine cache

/-- The fields of `sscanf(line, "%45s %63s", …)`; `none` unless both are read. -/
def scanHostFields (line : CStr) : Option (CStr × CStr) := do
  let (ip, line) ← CText.scanField 45 line
  let (name, _) ← CText.scanField 63 line
  return (ip, name)

/-- The addresses that a hosts file gives the router itself. -/
def isLoopback (ip : CStr) : Bool := ip == "127.0.0.1".toList || ip == "::1".toList

/-- The body of the loop of `hostname_cache_parse_hosts_file`. -/
def parseHostsLine (cache : HostnameCache) (line : CStr) : HostnameCache :=
  match scanHostFields (line.takeWhile (· != '#')) with
  | none => cache
  | some (ip, name) =>
    if ip.isEmpty || isLoopback ip then cache
    else { cache with ips := hostnameCacheAddIp cache.ips ip name }

/-- `hostname_cache_parse_hosts_file`, on the content of the file if it opens. -/
def hostnameCacheParseHostsFile (cache : HostnameCache) (file : Option CStr) : HostnameCache :=
  match file with
  | none => cache
  | some content => (CText.fgetsLines 512 content).foldl parseHostsLine cache

/-- An entry of the hosts directory: its name, its content if it opens, and its time if `stat` gives
one. -/
structure HostsDirEntry where
  dName   : CStr
  content : Option CStr
  mtime   : Option ℤ
deriving DecidableEq, Repr

/-- A name that the directory loops skip. -/
def HostsDirEntry.hidden (entry : HostsDirEntry) : Bool := entry.dName.head? == some '.'

/-- `hostname_cache_parse_hosts_dir`, on the entries in the order of the directory, if it opens. -/
def hostnameCacheParseHostsDir (dir : Option (List HostsDirEntry)) (cache : HostnameCache) :
    HostnameCache :=
  match dir with
  | none => cache
  | some entries =>
    entries.foldl
      (fun cache entry => if entry.hidden then cache
        else hostnameCacheParseHostsFile cache entry.content) cache

/-- The files that the cache is filled from. -/
structure HostnameFiles where
  leases        : Option CStr
  leasesMtime   : Option ℤ
  hostsDir      : Option (List HostsDirEntry)
  hostsDirMtime : Option ℤ
  etcHosts      : Option CStr
  etcHostsMtime : Option ℤ
deriving DecidableEq, Repr

/-- `stat_mtime`. -/
def statMtime (mtime : Option ℤ) : ℤ := mtime.getD 0

/-- `dir_latest_mtime`. -/
def dirLatestMtime (mtime : Option ℤ) (dir : Option (List HostsDirEntry)) : ℤ :=
  (dir.getD []).foldl
    (fun latest entry =>
      if entry.hidden then latest
      else
        match entry.mtime with
        | some t => if latest < t then t else latest
        | none => latest) (mtime.getD 0)

/-- `hostname_cache_refresh`. -/
def hostnameCacheRefresh (force : Bool) (nowMs : UInt64) (files : HostnameFiles)
    (cache : HostnameCache) : HostnameCache :=
  let leasesMtime := statMtime files.leasesMtime
  let etchostsMtime := statMtime files.etcHostsMtime
  let hostsdirMtime := dirLatestMtime files.hostsDirMtime files.hostsDir
  let changed :=
    force || leasesMtime != cache.leasesMtime || etchostsMtime != cache.etchostsMtime ||
    hostsdirMtime != cache.hostsdirMtime
  if !changed && cache.refreshMs != 0 &&
    decide (nowMs - cache.refreshMs < hostnameRefreshMs) then cache
  else
    let emptied := { cache with macs := [], ips := [] }
    let filled := hostnameCacheParseHostsFile
      (hostnameCacheParseHostsDir files.hostsDir (hostnameCacheParseLeases files.leases emptied))
        files.etcHosts
    { filled with
      refreshMs := nowMs
      leasesMtime := leasesMtime
      etchostsMtime := etchostsMtime
      hostsdirMtime := hostsdirMtime }

/-! ## Lookups -/

/-- `hostname_lookup_mac`. -/
def hostnameLookupMac (cache : HostnameCache) (mac : CStr) : Option CStr :=
  if !validMacAddress mac then none
  else (Keyed.lookup HostnameByMac.mac mac cache.macs).map HostnameByMac.name

/-- `hostname_lookup_ip`. -/
def hostnameLookupIp (cache : HostnameCache) (ip : CStr) : Option CStr :=
  if ip.isEmpty then none else (Keyed.lookup HostnameByIp.ip ip cache.ips).map HostnameByIp.name

/-- `hostname_lookup`. -/
def hostnameLookup (cache : HostnameCache) (mac : CStr) (ips : List CStr) : Option CStr :=
  match hostnameLookupMac cache mac with
  | some name => some name
  | none => ips.findSome? (hostnameLookupIp cache)

/-! ## What well-formed files say -/

/-- A lease. -/
structure Lease where
  mac  : CStr
  ip   : CStr
  name : CStr
deriving DecidableEq, Repr

/-- The lease of a line: the expiry time, the MAC address, the IP address and the name. -/
def leaseOfLine (line : CStr) : Option Lease :=
  match CText.words line with
  | expiry :: mac :: ip :: name :: _ =>
    if expiry.all Char.isDigit then some ⟨mac, ip, name⟩ else none
  | _ => none

/-- A name for an IP address. -/
structure HostEntry where
  ip   : CStr
  name : CStr
deriving DecidableEq, Repr

/-- The entry of a line of a hosts file, whose comment starts at `#`. -/
def hostOfLine (line : CStr) : Option HostEntry :=
  match CText.words (line.takeWhile (· != '#')) with
  | ip :: name :: _ => some ⟨ip, name⟩
  | _ => none

/-- A line that `fgets` reads whole. -/
structure OneLine (line : CStr) : Prop where
  newline : '\n' ∉ line
  fits    : line.length + 1 < 512

/-- A well-formed line of the lease file: a lease whose fields fit, or the line with the DUID of the
server. -/
structure LeaseLine (line : CStr) : Prop extends OneLine line where
  fields : (∃ l, leaseOfLine line = some l ∧
      l.mac.length < macStrLen ∧ l.ip.length < ipStrLen ∧ l.name.length < hostnameStrLen) ∨
    (CText.words line).head? = some "duid".toList

/-- A well-formed line of a hosts file: an entry whose fields fit, or nothing but a comment. -/
structure HostsLine (line : CStr) : Prop extends OneLine line where
  fields :
    (∃ e, hostOfLine line = some e ∧ e.ip.length < ipStrLen ∧ e.name.length < hostnameStrLen) ∨
    CText.words (line.takeWhile (· != '#')) = []

/-- A file of well-formed lines. -/
structure TextFile (wellFormed : CStr → Prop) where
  lines : List CStr
  wellFormed : ∀ line ∈ lines, wellFormed line

def TextFile.content {wellFormed : CStr → Prop} (file : TextFile wellFormed) : CStr :=
  CText.fileOf file.lines

/-- A file of the hosts directory. -/
structure HostsDirFile where
  dName : CStr
  file  : Option (TextFile HostsLine)
  mtime : Option ℤ

def HostsDirFile.entry (f : HostsDirFile) : HostsDirEntry :=
  ⟨f.dName, f.file.map TextFile.content, f.mtime⟩

/-- The sources of names, each with the time of its last change; a file may be missing. -/
structure HostnameSources where
  leases        : Option (TextFile LeaseLine)
  leasesMtime   : Option ℤ
  hostsDir      : Option (List HostsDirFile)
  hostsDirMtime : Option ℤ
  etcHosts      : Option (TextFile HostsLine)
  etcHostsMtime : Option ℤ

namespace HostnameSources

variable (s : HostnameSources)

/-- The files of the sources. -/
def files : HostnameFiles where
  leases        := s.leases.map TextFile.content
  leasesMtime   := s.leasesMtime
  hostsDir      := s.hostsDir.map fun dir => dir.map HostsDirFile.entry
  hostsDirMtime := s.hostsDirMtime
  etcHosts      := s.etcHosts.map TextFile.content
  etcHostsMtime := s.etcHostsMtime

/-- The leases, in the order of the file. -/
def leaseList : List Lease := (s.leases.elim [] TextFile.lines).filterMap leaseOfLine

/-- The entries of the hosts directory, file by file in the order of the directory. Names that start
with a dot do not belong to it. -/
def hostsDirList : List HostEntry :=
  ((s.hostsDir.getD []).filter fun f => !f.entry.hidden).flatMap fun f =>
    (f.file.elim [] TextFile.lines).filterMap hostOfLine

/-- The entries of `/etc/hosts`. -/
def etcHostsList : List HostEntry := (s.etcHosts.elim [] TextFile.lines).filterMap hostOfLine

/-- The valid leases as rows by MAC address, which is in lower case. -/
def macRows : List HostnameByMac :=
  (s.leaseList.filter fun l => validMacAddress (normalizeMacAddress l.mac) &&
    hostnameValid l.name).map fun l =>
    ⟨normalizeMacAddress l.mac, l.name⟩

/-- The valid entries of the leases as rows by IP address. -/
def leaseIpRows : List HostnameByIp :=
  (s.leaseList.filter fun l => hostnameValid l.name).map fun l => ⟨l.ip, l.name⟩

/-- The valid entries of hosts files as rows by IP address: those of the router itself name no
client. -/
def hostIpRows (entries : List HostEntry) : List HostnameByIp :=
  (entries.filter fun e => !isLoopback e.ip && hostnameValid e.name).map fun e => ⟨e.ip, e.name⟩

/-- The name that an IP address receives from the earliest source that has it. -/
def nameOfIp (ip : CStr) : Option CStr :=
  (((Keyed.lookup HostnameByIp.ip ip s.leaseIpRows).or
      (Keyed.lookup HostnameByIp.ip ip (hostIpRows s.hostsDirList))).or
    (Keyed.lookup HostnameByIp.ip ip (hostIpRows s.etcHostsList))).map HostnameByIp.name

/-- The name of the last valid lease of a MAC address. -/
def nameOfMac (mac : CStr) : Option CStr :=
  (CappedMap.lastRow HostnameByMac.mac mac s.macRows).map HostnameByMac.name

/-- The documented name of a client. -/
def documentedName (mac : CStr) (ips : List CStr) : Option CStr :=
  (s.nameOfMac mac).or (ips.findSome? s.nameOfIp)

/-- All rows by IP address, in the order of the sources. -/
def ipRows : List HostnameByIp :=
  s.leaseIpRows ++ hostIpRows s.hostsDirList ++ hostIpRows s.etcHostsList

/-- The last valid lease of the MAC address names the client as the last one does that is read while
the table has room. -/
def NamedEarly (mac : CStr) : Prop :=
  (CappedMap.lastRow HostnameByMac.mac mac
    (CappedMap.early HostnameByMac.mac hostnameCacheMax s.macRows)).map
    HostnameByMac.name = s.nameOfMac mac

end HostnameSources

/-! ## Reading the lines -/

theorem words_concat_newline (line : CStr) : CText.words (line ++ ['\n']) = CText.words line :=
  CText.tokens_concat (by decide) line

/-- A line is cut at the comment before its newline. -/
theorem words_uncommented (line : CStr) :
    CText.words ((line ++ ['\n']).takeWhile (· != '#')) = CText.words
      (line.takeWhile (· != '#')) := by
  rw [List.takeWhile_append]
  split_ifs with hall
  · have hline : line.takeWhile (· != '#') = line := (List.takeWhile_prefix _).eq_of_length hall
    rw [hline]
    exact words_concat_newline line
  · rfl

/-- A word of a line is not empty. -/
theorem ne_nil_of_mem_words {line w : CStr} (h : w ∈ CText.words line) : w ≠ [] := by
  have hne := (List.mem_filter.mp h).2
  rwa [Bool.not_eq_true', List.isEmpty_eq_false_iff] at hne

/-- A line is a lease when it starts with a number and three more words. -/
theorem leaseOfLine_eq_some_iff {line : CStr} {l : Lease} :
    leaseOfLine line = some l ↔
      ∃ expiry rest, CText.words line = expiry :: l.mac :: l.ip :: l.name :: rest ∧
      ∀ c ∈ expiry, c.isDigit = true := by
  unfold leaseOfLine
  split
  · rename_i expiry mac ip name rest hwords
    split_ifs with hdigits
    · rw [List.all_eq_true] at hdigits
      constructor
      · rintro ⟨⟩
        exact ⟨expiry, rest, hwords, hdigits⟩
      · rintro ⟨expiry', rest', hwords', -⟩
        rw [hwords] at hwords'
        obtain ⟨-, rfl, rfl, rfl, -⟩ : expiry = expiry' ∧ mac = l.mac ∧
            ip = l.ip ∧ name = l.name ∧ rest = rest' := by
          simpa using hwords'
        rfl
    · rw [List.all_eq_true] at hdigits
      refine iff_of_false (by simp) ?_
      rintro ⟨expiry', rest', hwords', hdigits'⟩
      rw [hwords] at hwords'
      obtain rfl := (List.cons.inj hwords').1
      exact hdigits hdigits'
  · rename_i hwords
    refine iff_of_false (by simp) ?_
    rintro ⟨expiry, rest, hwords', -⟩
    exact hwords _ _ _ _ _ hwords'

/-- A line is a host entry when it has two words before any comment. -/
theorem hostOfLine_eq_some_iff {line : CStr} {e : HostEntry} :
    hostOfLine line = some e ↔
      ∃ rest, CText.words (line.takeWhile (· != '#')) = e.ip :: e.name :: rest := by
  unfold hostOfLine
  split
  · rename_i ip name rest hwords
    constructor
    · rintro ⟨⟩
      exact ⟨rest, hwords⟩
    · rintro ⟨rest', hwords'⟩
      rw [hwords] at hwords'
      obtain ⟨rfl, rfl, -⟩ : ip = e.ip ∧ name = e.name ∧ rest = rest' := by simpa using hwords'
      rfl
  · rename_i hwords
    refine iff_of_false (by simp) ?_
    rintro ⟨rest, hwords'⟩
    exact hwords _ _ _ hwords'

/-- The conversions read the lease of a well-formed line. -/
theorem scanLeaseFields_line {line : CStr} (h : LeaseLine line) :
    scanLeaseFields (line ++ ['\n']) = (leaseOfLine line).map fun l => (l.mac, l.ip, l.name) := by
  rcases h.fields with ⟨l, hl, hmac, hip, hname⟩ | hduid
  · obtain ⟨expiry, rest, hwords, hdigits⟩ := leaseOfLine_eq_some_iff.mp hl
    rw [← words_concat_newline] at hwords
    obtain ⟨n, line₁, h₁, hwords₁⟩ := CText.scanUlong_words hwords hdigits
    obtain ⟨line₂, h₂, hwords₂⟩ :=
      CText.scanField_words hwords₁ (Nat.le_of_lt_succ hmac : l.mac.length ≤ 17)
    obtain ⟨line₃, h₃, hwords₃⟩ :=
      CText.scanField_words hwords₂ (Nat.le_of_lt_succ hip : l.ip.length ≤ 45)
    obtain ⟨line₄, h₄, -⟩ :=
      CText.scanField_words hwords₃ (Nat.le_of_lt_succ hname : l.name.length ≤ 63)
    simp only [scanLeaseFields, h₁, h₂, h₃, h₄, hl, Option.bind_eq_bind,
      Option.bind_some, Option.pure_def, Option.map_some]
  · obtain ⟨rest, hwords⟩ : ∃ rest, CText.words line = "duid".toList :: rest := by
      cases hline : CText.words line with
      | nil => rw [hline] at hduid; exact absurd hduid (by decide)
      | cons w rest =>
        rw [hline] at hduid
        exact ⟨rest, by rw [Option.some.inj hduid]⟩
    have hnone : leaseOfLine line = none := by
      by_contra hsome
      obtain ⟨l, hl⟩ := Option.ne_none_iff_exists'.mp hsome
      obtain ⟨expiry, rest', hwords', hdigits⟩ := leaseOfLine_eq_some_iff.mp hl
      rw [hwords] at hwords'
      obtain rfl := (List.cons.inj hwords').1
      exact absurd (hdigits 'd' (by decide)) (by decide)
    rw [← words_concat_newline] at hwords
    have hfail : CText.scanUlong (line ++ ['\n']) = none :=
      CText.scanUlong_none hwords (c := 'd') (by decide) (by decide) (by decide)
    rw [hnone, scanLeaseFields, hfail]
    rfl

/-- The conversions read the entry of a well-formed line of a hosts file. -/
theorem scanHostFields_line {line : CStr} (h : HostsLine line) :
    scanHostFields ((line ++ ['\n']).takeWhile (· != '#')) =
      (hostOfLine line).map fun e => (e.ip, e.name) := by
  rcases h.fields with ⟨e, he, hip, hname⟩ | hblank
  · obtain ⟨rest, hwords⟩ := hostOfLine_eq_some_iff.mp he
    rw [← words_uncommented] at hwords
    obtain ⟨line₁, h₁, hwords₁⟩ :=
      CText.scanField_words hwords (Nat.le_of_lt_succ hip : e.ip.length ≤ 45)
    obtain ⟨line₂, h₂, -⟩ :=
      CText.scanField_words hwords₁ (Nat.le_of_lt_succ hname : e.name.length ≤ 63)
    simp only [scanHostFields, h₁, h₂, he, Option.bind_eq_bind,
      Option.bind_some, Option.pure_def, Option.map_some]
  · have hnone : hostOfLine line = none := by rw [hostOfLine, hblank]
    rw [← words_uncommented] at hblank
    rw [hnone, scanHostFields, CText.scanField_none hblank]
    rfl

/-! ## Filling the tables -/

/-- A row by MAC address is written over by the name of another one. -/
def writeName (row e : HostnameByMac) : HostnameByMac := { e with name := row.name }

/-- A valid lease is put into the table by MAC address, and no other one. -/
theorem hostnameCacheAddMac_eq (tbl : List HostnameByMac) {l : Lease}
    (hname : l.name.length < hostnameStrLen) :
    hostnameCacheAddMac tbl (normalizeMacAddress l.mac) l.name =
      if validMacAddress (normalizeMacAddress l.mac) && hostnameValid l.name then
        CappedMap.putLast HostnameByMac.mac hostnameCacheMax writeName
          tbl ⟨normalizeMacAddress l.mac, l.name⟩
      else tbl := by
  unfold hostnameCacheAddMac
  by_cases hvalid : (validMacAddress (normalizeMacAddress l.mac) && hostnameValid l.name) = true
  · have haccepted :
        ¬(!validMacAddress (normalizeMacAddress l.mac) || !hostnameValid l.name) = true := by
      simpa using hvalid
    have hmac : (normalizeMacAddress l.mac).length < macStrLen := by
      rw [length_of_validMacAddress (Bool.and_eq_true_iff.mp hvalid).1]
      decide
    rw [if_neg haccepted, if_pos hvalid, snprintf_of_fits hmac,
      snprintf_of_fits hname, CappedMap.putLast]
    cases Keyed.lookup HostnameByMac.mac (normalizeMacAddress l.mac) tbl <;> rfl
  · have hrejected :
        (!validMacAddress (normalizeMacAddress l.mac) || !hostnameValid l.name) = true := by
      rw [Bool.and_eq_true_iff, not_and_or] at hvalid
      simpa using hvalid
    rw [if_pos hrejected, if_neg hvalid]

/-- A valid entry is put into the table by IP address, and no other one. -/
theorem hostnameCacheAddIp_eq (tbl : List HostnameByIp) {ip name : CStr} (hne : ip ≠ [])
    (hip : ip.length < ipStrLen) (hname : name.length < hostnameStrLen) :
    hostnameCacheAddIp tbl ip name =
      if hostnameValid name then CappedMap.putFirst HostnameByIp.ip hostnameCacheMax tbl ⟨ip, name⟩
        else tbl := by
  unfold hostnameCacheAddIp
  rw [List.isEmpty_eq_false_iff.mpr hne, Bool.false_or, snprintf_of_fits hip,
    snprintf_of_fits hname]
  cases hostnameValid name with
  | false => rfl
  | true =>
    rw [CappedMap.putFirst]
    cases Keyed.lookup HostnameByIp.ip ip tbl <;> rfl

/-- What a lease does to the tables. -/
def addLease (cache : HostnameCache) (l : Lease) : HostnameCache :=
  { cache with
    macs := hostnameCacheAddMac cache.macs (normalizeMacAddress l.mac) l.name
    ips := hostnameCacheAddIp cache.ips l.ip l.name }

/-- What an entry of a hosts file does to the table by IP address. -/
def addHost (cache : HostnameCache) (e : HostEntry) : HostnameCache :=
  if e.ip.isEmpty || isLoopback e.ip then cache
  else { cache with ips := hostnameCacheAddIp cache.ips e.ip e.name }

/-- A loop over the lines of a file does for every line what its entry calls for. -/
theorem foldl_lines {σ ε : Type*} {wellFormed : CStr → Prop}
    (hone : ∀ line, wellFormed line → OneLine line)
    {parse : σ → CStr → σ} {entry : CStr → Option ε} {add : σ → ε → σ}
    (hparse : ∀ cache line, wellFormed line → parse cache (line ++ ['\n']) =
      (entry line).elim cache (add cache))
    (file : TextFile wellFormed) (cache : σ) :
    (CText.fgetsLines 512 file.content).foldl parse cache =
      (file.lines.filterMap entry).foldl add cache := by
  obtain ⟨lines, hlines⟩ := file
  rw [TextFile.content, CText.fgetsLines_fileOf (fun line h => (hone line (hlines line h)).newline)
    (fun line h => (hone line (hlines line h)).fits)]
  clear hone
  induction lines generalizing cache with
  | nil => rfl
  | cons line lines ih =>
    rw [List.forall_mem_cons] at hlines
    rw [List.map_cons, List.foldl_cons, hparse cache line hlines.1, ih _ hlines.2]
    cases hentry : entry line with
    | none => rw [List.filterMap_cons_none hentry, Option.elim_none]
    | some e => rw [List.filterMap_cons_some hentry, List.foldl_cons, Option.elim_some]

/-- The lease pass adds the leases of the file's lines, in their order. -/
theorem hostnameCacheParseLeases_content (file : Option (TextFile LeaseLine))
    (cache : HostnameCache) :
    hostnameCacheParseLeases (file.map TextFile.content) cache =
      ((file.elim [] TextFile.lines).filterMap leaseOfLine).foldl addLease cache := by
  cases file with
  | none => rfl
  | some file =>
    refine foldl_lines (fun _ h => h.toOneLine) (fun cache line h => ?_) file cache
    rw [parseLeaseLine, scanLeaseFields_line h]
    cases leaseOfLine line <;> rfl

/-- The hosts pass adds the entries of the file's lines, in their order. -/
theorem hostnameCacheParseHostsFile_content (file : Option (TextFile HostsLine))
    (cache : HostnameCache) :
    hostnameCacheParseHostsFile cache (file.map TextFile.content) =
      ((file.elim [] TextFile.lines).filterMap hostOfLine).foldl addHost cache := by
  cases file with
  | none => rfl
  | some file =>
    refine foldl_lines (fun _ h => h.toOneLine) (fun cache line h => ?_) file cache
    rw [parseHostsLine, scanHostFields_line h]
    cases hostOfLine line <;> rfl

/-- The directory pass adds the entries of the files that are not hidden, in their order. -/
theorem hostnameCacheParseHostsDir_content (dir : Option (List HostsDirFile))
    (cache : HostnameCache) :
    hostnameCacheParseHostsDir (dir.map fun dir => dir.map HostsDirFile.entry) cache =
      (((dir.getD []).filter fun f => !f.entry.hidden).flatMap fun f =>
        (f.file.elim [] TextFile.lines).filterMap hostOfLine).foldl addHost cache := by
  cases dir with
  | none => rfl
  | some dir =>
    rw [Option.map_some, hostnameCacheParseHostsDir, Option.getD_some]
    induction dir generalizing cache with
    | nil => rfl
    | cons f dir ih =>
      rw [List.map_cons, List.foldl_cons, ih]
      by_cases hhidden : f.entry.hidden = true
      · rw [if_pos hhidden, List.filter_cons_of_neg (by simp [hhidden])]
      · rw [if_neg hhidden, List.filter_cons_of_pos (by simpa using hhidden),
          List.flatMap_cons, List.foldl_append]
        have hfile : hostnameCacheParseHostsFile cache f.entry.content = _ :=
          hostnameCacheParseHostsFile_content f.file cache
        rw [hfile]

/-- An entry whose fields fit in the buffers. -/
structure EntryFits (ip name : CStr) : Prop where
  ip_ne     : ip ≠ []
  ip_fits   : ip.length < ipStrLen
  name_fits : name.length < hostnameStrLen

/-- A file has an entry of a line. -/
theorem exists_line_of_mem {wellFormed : CStr → Prop} {ε : Type*} {entry : CStr → Option ε}
    {file : Option (TextFile wellFormed)} {e : ε}
    (h : e ∈ (file.elim [] TextFile.lines).filterMap entry) :
    ∃ line, wellFormed line ∧ entry line = some e := by
  obtain ⟨line, hline, he⟩ := List.mem_filterMap.mp h
  cases file with
  | none => exact absurd hline List.not_mem_nil
  | some file => exact ⟨line, file.wellFormed line hline, he⟩

/-- The fields of a lease fit in the buffers. -/
theorem lease_fits {file : Option (TextFile LeaseLine)} {l : Lease}
    (h : l ∈ (file.elim [] TextFile.lines).filterMap leaseOfLine) :
    EntryFits l.ip l.name := by
  obtain ⟨line, hline, hl⟩ := exists_line_of_mem h
  obtain ⟨expiry, rest, hwords, hdigits⟩ := leaseOfLine_eq_some_iff.mp hl
  have hmem : l.ip ∈ CText.words line := by simp [hwords]
  have hne := ne_nil_of_mem_words hmem
  rcases hline.fields with ⟨l', hl', -, hip, hname⟩ | hduid
  · obtain rfl := Option.some.inj (hl.symm.trans hl')
    exact ⟨hne, hip, hname⟩
  · rw [hwords] at hduid
    obtain rfl := Option.some.inj hduid
    exact absurd (hdigits 'd' (by decide)) (by decide)

/-- So do those of an entry of a hosts file. -/
theorem host_fits {file : Option (TextFile HostsLine)} {e : HostEntry}
    (h : e ∈ (file.elim [] TextFile.lines).filterMap hostOfLine) :
    EntryFits e.ip e.name := by
  obtain ⟨line, hline, he⟩ := exists_line_of_mem h
  obtain ⟨rest, hwords⟩ := hostOfLine_eq_some_iff.mp he
  have hmem : e.ip ∈ CText.words (line.takeWhile (· != '#')) := by simp [hwords]
  have hne := ne_nil_of_mem_words hmem
  rcases hline.fields with ⟨e', he', hip, hname⟩ | hblank
  · obtain rfl := Option.some.inj (he.symm.trans he')
    exact ⟨hne, hip, hname⟩
  · rw [hblank] at hwords
    exact absurd hwords.symm (List.cons_ne_nil _ _)

namespace HostnameSources

variable (s : HostnameSources)

/-- The table by MAC address that the leases make. -/
theorem macs_addLease (cache : HostnameCache) :
    (s.leaseList.foldl addLease cache).macs =
      s.macRows.foldl (CappedMap.putLast HostnameByMac.mac hostnameCacheMax writeName)
        cache.macs := by
  have hmacs :
      s.leaseList.foldl (fun tbl l => hostnameCacheAddMac tbl (normalizeMacAddress l.mac) l.name)
      cache.macs = (s.leaseList.foldl addLease cache).macs :=
    List.foldl_hom HostnameCache.macs fun _ _ => rfl
  rw [← hmacs, macRows, List.foldl_map, List.foldl_filter]
  exact List.foldl_ext _ _ _ fun tbl l hl => hostnameCacheAddMac_eq tbl (lease_fits hl).name_fits

/-- The leases make rows by IP address. -/
theorem ips_addLease (cache : HostnameCache) :
    (s.leaseList.foldl addLease cache).ips =
      s.leaseIpRows.foldl (CappedMap.putFirst HostnameByIp.ip hostnameCacheMax) cache.ips := by
  have hips : s.leaseList.foldl (fun tbl l => hostnameCacheAddIp tbl l.ip l.name) cache.ips =
      (s.leaseList.foldl addLease cache).ips :=
    List.foldl_hom HostnameCache.ips fun _ _ => rfl
  rw [← hips, leaseIpRows, List.foldl_map, List.foldl_filter]
  refine List.foldl_ext _ _ _ fun tbl l hl => ?_
  obtain ⟨hne, hip, hname⟩ := lease_fits hl
  exact hostnameCacheAddIp_eq tbl hne hip hname

end HostnameSources

/-- Hosts entries leave the table by MAC address. -/
theorem macs_addHost (entries : List HostEntry) (cache : HostnameCache) :
    (entries.foldl addHost cache).macs = cache.macs := by
  refine Loop.foldl_frame HostnameCache.macs (fun cache e => ?_) cache entries
  unfold addHost
  split <;> rfl

/-- Hosts entries whose fields fit make rows by IP address. -/
theorem ips_addHost {entries : List HostEntry}
    (hfits : ∀ e ∈ entries, EntryFits e.ip e.name) (cache : HostnameCache) :
    (entries.foldl addHost cache).ips =
      (HostnameSources.hostIpRows entries).foldl
        (CappedMap.putFirst HostnameByIp.ip hostnameCacheMax) cache.ips := by
  have hips : entries.foldl
      (fun tbl e => if e.ip.isEmpty || isLoopback e.ip then tbl
        else hostnameCacheAddIp tbl e.ip e.name) cache.ips =
      (entries.foldl addHost cache).ips := by
    refine List.foldl_hom HostnameCache.ips fun cache e => ?_
    unfold addHost
    split <;> rfl
  rw [← hips, HostnameSources.hostIpRows, List.foldl_map, List.foldl_filter]
  refine List.foldl_ext _ _ _ fun tbl e he => ?_
  obtain ⟨hne, hip, hname⟩ := hfits e he
  rw [List.isEmpty_eq_false_iff.mpr hne, Bool.false_or, hostnameCacheAddIp_eq tbl hne hip hname]
  cases isLoopback e.ip <;> rfl

namespace HostnameSources

variable (s : HostnameSources)

/-- The entries of the hosts directory fit in their buffers. -/
theorem hostsDir_fits (e : HostEntry) (he : e ∈ s.hostsDirList) : EntryFits e.ip e.name := by
  obtain ⟨f, -, hf⟩ := List.mem_flatMap.mp he
  exact host_fits hf

/-- A forced refresh fills both tables from the sources. -/
theorem hostnameCacheRefresh_files (nowMs : UInt64) (cache : HostnameCache) :
    (hostnameCacheRefresh true nowMs s.files cache).macs =
        s.macRows.foldl (CappedMap.putLast HostnameByMac.mac hostnameCacheMax writeName) [] ∧
      (hostnameCacheRefresh true nowMs s.files cache).ips =
        s.ipRows.foldl (CappedMap.putFirst HostnameByIp.ip hostnameCacheMax) [] := by
  obtain ⟨filled, hfilled⟩ : ∃ filled, filled =
      s.etcHostsList.foldl addHost (s.hostsDirList.foldl addHost (s.leaseList.foldl addLease
        { cache with macs := [], ips := [] })) := ⟨_, rfl⟩
  have hrefresh : (hostnameCacheRefresh true nowMs s.files cache).macs = filled.macs ∧
      (hostnameCacheRefresh true nowMs s.files cache).ips = filled.ips := by
    have hparsed : hostnameCacheParseHostsFile (hostnameCacheParseHostsDir s.files.hostsDir
        (hostnameCacheParseLeases s.files.leases { cache with macs := [], ips := [] }))
          s.files.etcHosts = filled := by
      rw [hfilled, files, hostnameCacheParseHostsFile_content, hostnameCacheParseHostsDir_content,
        hostnameCacheParseLeases_content]
      rfl
    rw [← hparsed]
    exact ⟨rfl, rfl⟩
  have hetc : ∀ e ∈ s.etcHostsList, EntryFits e.ip e.name := fun e he => host_fits he
  rw [hrefresh.1, hrefresh.2, hfilled]
  constructor
  · rw [macs_addHost, macs_addHost, macs_addLease]
  · rw [ips_addHost hetc, ips_addHost s.hostsDir_fits, ips_addLease,
      ipRows, List.foldl_append, List.foldl_append]

/-! ## The name of a client -/

/-- A MAC address of a row is valid. -/
theorem validMacAddress_of_mem_keys {mac : CStr}
    (h : mac ∈ CappedMap.keys HostnameByMac.mac s.macRows) :
    validMacAddress mac = true := by
  obtain ⟨row, hrow, rfl⟩ := List.mem_map.mp (List.mem_toFinset.mp h)
  obtain ⟨l, hl, rfl⟩ := List.mem_map.mp hrow
  exact (Bool.and_eq_true_iff.mp (List.mem_filter.mp hl).2).1

/-- The lookup by MAC address finds the last early lease. -/
theorem hostnameLookupMac_refresh (nowMs : UInt64) (cache : HostnameCache) (mac : CStr) :
    hostnameLookupMac (hostnameCacheRefresh true nowMs s.files cache) mac =
      (CappedMap.lastRow HostnameByMac.mac mac
        (CappedMap.early HostnameByMac.mac hostnameCacheMax s.macRows)).map HostnameByMac.name := by
  have hsame : ∀ row r : HostnameByMac, r.mac = row.mac → writeName row r = row := by
    intro row r h
    rw [writeName, h]
  have hkey : ∀ row r, (writeName row r).mac = r.mac := fun _ _ => rfl
  rw [hostnameLookupMac, (s.hostnameCacheRefresh_files nowMs cache).1,
    CappedMap.lookup_putLast hkey hsame]
  by_cases hvalid : validMacAddress mac = true
  · rw [if_neg (by simp [hvalid])]
  · have hnone : CappedMap.lastRow HostnameByMac.mac mac
        (CappedMap.early HostnameByMac.mac hostnameCacheMax s.macRows) = none := by
      by_contra hsome
      have hmem := CappedMap.keys_early_subset s.macRows (CappedMap.lastRow_ne_none_iff.mp hsome)
      exact hvalid (s.validMacAddress_of_mem_keys hmem)
    rw [if_pos (by simpa using hvalid), hnone, Option.map_none]

/-- No row has an empty IP address. -/
theorem ip_ne_of_mem_ipRows {row : HostnameByIp} (h : row ∈ s.ipRows) : row.ip ≠ [] := by
  have hhost : ∀ {entries : List HostEntry}, (∀ e ∈ entries, e.ip ≠ []) →
      row ∈ hostIpRows entries → row.ip ≠ [] := by
    intro entries hentries hrow
    obtain ⟨e, he, rfl⟩ := List.mem_map.mp hrow
    exact hentries e (List.mem_of_mem_filter he)
  rcases List.mem_append.mp h with h | hetc
  · rcases List.mem_append.mp h with hlease | hdir
    · obtain ⟨l, hl, rfl⟩ := List.mem_map.mp hlease
      exact (lease_fits (List.mem_of_mem_filter hl)).ip_ne
    · exact hhost (fun e he => (s.hostsDir_fits e he).ip_ne) hdir
  · exact hhost (fun e he => (host_fits he).ip_ne) hetc

/-- The name of an IP address is that of its first row. -/
theorem nameOfIp_eq (ip : CStr) :
    s.nameOfIp ip = (Keyed.lookup HostnameByIp.ip ip s.ipRows).map HostnameByIp.name := by
  rw [ipRows, Keyed.lookup_append, Keyed.lookup_append, nameOfIp]

/-- The lookup by IP address finds the documented name. -/
theorem hostnameLookupIp_refresh
    (hips : (CappedMap.keys HostnameByIp.ip s.ipRows).card ≤ hostnameCacheMax)
    (nowMs : UInt64) (cache : HostnameCache) (ip : CStr) :
    hostnameLookupIp (hostnameCacheRefresh true nowMs s.files cache) ip = s.nameOfIp ip := by
  by_cases hnil : ip = []
  · have hnone : Keyed.lookup HostnameByIp.ip ip s.ipRows = none :=
      Keyed.lookup_eq_none_iff.mpr fun row hrow => hnil ▸ s.ip_ne_of_mem_ipRows hrow
    rw [nameOfIp_eq, hnone, hnil]
    rfl
  · rw [hostnameLookupIp, List.isEmpty_eq_false_iff.mpr hnil, if_neg Bool.false_ne_true,
      (s.hostnameCacheRefresh_files nowMs cache).2, CappedMap.lookup_putFirst hips, nameOfIp_eq]

/-- After a forced refresh, the name of a client is the documented one exactly when its last valid
lease names it as the last one does that is read while the table has room: for all sources with at
most as many MAC addresses and IP addresses as the tables have rows. -/
theorem hostnameLookup_eq_iff
    (hmacs : (CappedMap.keys HostnameByMac.mac s.macRows).card ≤ hostnameCacheMax)
    (hips : (CappedMap.keys HostnameByIp.ip s.ipRows).card ≤ hostnameCacheMax) (nowMs : UInt64)
    (cache : HostnameCache) (mac : CStr) (ips : List CStr) :
    hostnameLookup (hostnameCacheRefresh true nowMs s.files cache) mac ips =
      s.documentedName mac ips ↔
      s.NamedEarly mac := by
  have hip : hostnameLookupIp (hostnameCacheRefresh true nowMs s.files cache) = s.nameOfIp :=
    funext (s.hostnameLookupIp_refresh hips nowMs cache)
  -- A MAC address with a valid lease has an early one, so that both names come from leases or
  -- neither does.
  have hearly : CappedMap.lastRow HostnameByMac.mac mac
      (CappedMap.early HostnameByMac.mac hostnameCacheMax s.macRows) ≠ none ↔
      CappedMap.lastRow HostnameByMac.mac mac s.macRows ≠ none := by
    rw [CappedMap.lastRow_ne_none_iff, CappedMap.lastRow_ne_none_iff, CappedMap.keys_early hmacs]
  rw [hostnameLookup, hostnameLookupMac_refresh, hip, documentedName, NamedEarly, nameOfMac]
  cases hfound : CappedMap.lastRow HostnameByMac.mac mac
      (CappedMap.early HostnameByMac.mac hostnameCacheMax s.macRows) with
  | none =>
    have hnone : CappedMap.lastRow HostnameByMac.mac mac s.macRows = none :=
      not_not.mp fun hsome => hearly.mpr hsome hfound
    rw [hnone]
    exact iff_of_true rfl rfl
  | some row =>
    have hsome := hearly.mp (by rw [hfound]; exact Option.some_ne_none row)
    obtain ⟨last, hlast⟩ := Option.ne_none_iff_exists'.mp hsome
    rw [hlast]
    rfl

/-- While there is room for one more MAC address, the name is the documented one. -/
theorem namedEarly_of_room
    (hroom : (CappedMap.keys HostnameByMac.mac s.macRows).card < hostnameCacheMax)
    (mac : CStr) : s.NamedEarly mac := by
  rw [NamedEarly, CappedMap.early_of_card_lt hroom, nameOfMac]

end HostnameSources

/-! ## A full table -/

/-- The text of a lease. -/
def Lease.text (l : Lease) : CStr := Words.joined ' ' ["0".toList, l.mac, l.ip, l.name, "*".toList]

/-- The lease of the client `n`. -/
def clientLease (n : ℕ) (name : CStr) : Lease where
  mac  := macText ⟨0x02, 0, 0, 0, UInt8.ofNat (n / 256), UInt8.ofNat (n % 256)⟩
  ip   := "10.0.".toList ++ decimal (n / 256) ++ '.' :: decimal (n % 256)
  name := name

/-- The text of an address is one word. -/
theorem isWord_macText (m : Mac) : CText.isWord CText.isSpace (macText m) = true := by
  have hdigit : ∀ i : Fin 16, CText.isSpace (hexDigit i) = false := by decide
  have hbyte : ∀ b, ∀ c ∈ hexByte b, CText.isSpace c = false := forall_mem_hexByte hdigit
  have hcolon : CText.isSpace ':' = false := by decide
  have hne : macText m ≠ [] := List.ne_nil_of_length_pos (by rw [length_macText]; decide)
  refine CText.isWord_iff.mpr ⟨hne, ?_⟩
  simp only [macText, List.forall_mem_append, List.forall_mem_cons, and_assoc]
  exact ⟨hbyte _, hcolon, hbyte _, hcolon, hbyte _, hcolon, hbyte _,
    hcolon, hbyte _, hcolon, hbyte _⟩

/-- The address of the example's clients is one word. -/
theorem isWord_ip (n : ℕ) (name : CStr) :
    CText.isWord CText.isSpace (clientLease n name).ip = true := by
  have hdecimal : ∀ n, ∀ c ∈ decimal n, CText.isSpace c = false := fun n c hc =>
    CText.isSpace_of_isDigit (Nat.isDigit_of_mem_toDigits (by decide) (by decide) hc)
  have hstart : CText.isWord CText.isSpace "10.0.".toList = true := by decide
  rw [clientLease, List.append_assoc]
  refine CText.isWord_append hstart (List.forall_mem_append.mpr ⟨hdecimal _, ?_⟩)
  exact List.forall_mem_cons.mpr ⟨by decide, hdecimal _⟩

/-- The fields of an example's lease are words. -/
theorem isWord_fields (n : ℕ) {name : CStr} (hname : CText.isWord CText.isSpace name = true) :
    ∀ w ∈ ["0".toList, (clientLease n name).mac, (clientLease n name).ip, name, "*".toList],
      CText.isWord CText.isSpace w = true := by
  simp only [List.forall_mem_cons]
  exact ⟨by decide, isWord_macText _, isWord_ip n name, hname,
    by decide, fun _ h => absurd h List.not_mem_nil⟩

/-- The line of an example's lease is split into its fields. -/
theorem words_text_clientLease (n : ℕ) {name : CStr}
    (hname : CText.isWord CText.isSpace name = true) :
    CText.words (clientLease n name).text =
      ["0".toList, (clientLease n name).mac, (clientLease n name).ip, name, "*".toList] :=
  CText.tokens_joined (by decide) (isWord_fields n hname)

/-- The addresses of the example fit in `IP_STR_LEN`. -/
theorem length_ip_clientLease {n : ℕ} (hn : n < hostnameCacheMax) (name : CStr) :
    (clientLease n name).ip.length < ipStrLen := by
  simp only [hostnameCacheMax] at hn
  have hdecimal : ∀ {k : ℕ}, k < 10 ^ 3 → (decimal k).length ≤ 3 := fun hk =>
    (Nat.length_toDigits_le_iff (by decide) (by decide)).mpr hk
  have hhigh : (decimal (n / 256)).length ≤ 3 := hdecimal (by omega)
  have hlow : (decimal (n % 256)).length ≤ 3 := hdecimal (by omega)
  simp only [clientLease, List.length_append, List.length_cons, ipStrLen]
  have hstart : "10.0.".toList.length = 5 := rfl
  omega

/-- A name of a client of the table. -/
structure TestName (name : CStr) : Prop where
  word  : CText.isWord CText.isSpace name = true
  fits  : name.length < hostnameStrLen
  valid : hostnameValid name = true

/-- The line of an example's lease is read as that lease. -/
theorem leaseOfLine_clientLease (n : ℕ) {name : CStr} (hname : TestName name) :
    leaseOfLine (clientLease n name).text = some (clientLease n name) := by
  have hexpiry : "0".toList.all Char.isDigit = true := by decide
  exact leaseOfLine_eq_some_iff.mpr
    ⟨"0".toList, ["*".toList], words_text_clientLease n hname.word, List.all_eq_true.mp hexpiry⟩

/-- The line of an example's lease is well formed. -/
theorem leaseLine_clientLease {n : ℕ} (hn : n < hostnameCacheMax)
    {name : CStr} (hname : TestName name) :
    LeaseLine (clientLease n name).text := by
  have hmac : (clientLease n name).mac.length < macStrLen := by
    rw [clientLease, length_macText]
    decide
  have hip := length_ip_clientLease hn name
  refine ⟨⟨fun hnewline => ?_, ?_⟩,
    .inl ⟨_, leaseOfLine_clientLease n hname, hmac, hip, hname.fits⟩⟩
  · rcases Words.mem_joined hnewline with heq | ⟨w, hw, hmem⟩
    · exact absurd heq (by decide)
    · exact absurd ((CText.isWord_iff.mp (isWord_fields n hname.word w hw)).2 '\n' hmem) (by decide)
  · have hlength : (clientLease n name).text.length =
        6 + (clientLease n name).mac.length + (clientLease n name).ip.length + name.length := by
      have hzero : "0".toList.length = 1 := rfl
      have hstar : "*".toList.length = 1 := rfl
      have hself : (clientLease n name).name = name := rfl
      simp only [Lease.text, Words.joined, List.length_append,
        List.length_cons, hzero, hstar, hself]
      omega
    have hfits := hname.fits
    simp only [macStrLen, ipStrLen, hostnameStrLen] at hmac hip hfits
    omega

theorem testName_host : TestName "host".toList := ⟨by decide, by decide, by decide⟩

theorem testName_laptop : TestName "laptop".toList := ⟨by decide, by decide, by decide⟩

/-- The leases of some clients, of which the first one has another lease at the end. -/
def renewedLeases (clients : ℕ) : List Lease :=
  ((List.range clients).map fun n => clientLease n "host".toList) ++ [clientLease 0 "laptop".toList]

/-- What holds of the example's leases holds of all that are in the file. -/
theorem forall_mem_renewedLeases {P : Lease → Prop} {clients : ℕ}
    (hrange : clients ≤ hostnameCacheMax)
    (hclient : ∀ n < hostnameCacheMax, ∀ name, TestName name → P (clientLease n name)) :
    ∀ l ∈ renewedLeases clients, P l := by
  rw [renewedLeases, List.forall_mem_append, List.forall_mem_map]
  exact ⟨fun n hn => hclient n ((List.mem_range.mp hn).trans_le hrange) _ testName_host,
    List.forall_mem_singleton.mpr (hclient 0 (by decide) _ testName_laptop)⟩

/-- A lease file with these leases, and nothing else. -/
def renewedSources (clients : ℕ) (hrange : clients ≤ hostnameCacheMax) : HostnameSources where
  leases        := some
    { lines := (renewedLeases clients).map Lease.text
      wellFormed := List.forall_mem_map.mpr
        (forall_mem_renewedLeases hrange fun _ hn _ hname => leaseLine_clientLease hn hname) }
  leasesMtime   := some 1
  hostsDir      := none
  hostsDirMtime := none
  etcHosts      := none
  etcHostsMtime := none

section Renewed

variable (clients : ℕ) (hrange : clients ≤ hostnameCacheMax)

/-- The leases of the example are those of its file. -/
theorem leaseList_renewedSources :
    (renewedSources clients hrange).leaseList = renewedLeases clients := by
  have hread : ∀ l ∈ renewedLeases clients, (leaseOfLine ∘ Lease.text) l = some l :=
    forall_mem_renewedLeases hrange fun n _ _ hname => leaseOfLine_clientLease n hname
  rw [HostnameSources.leaseList, renewedSources, Option.elim_some,
    List.filterMap_map, List.filterMap_congr hread, List.filterMap_some]

/-- The row that a client's lease makes by MAC address. -/
def clientRow (n : ℕ) (name : CStr) : HostnameByMac := ⟨(clientLease n name).mac, name⟩

/-- The rows by address: one for each client, and one for the renewed lease. -/
theorem macRows_renewedSources :
    (renewedSources clients hrange).macRows =
      ((List.range clients).map fun n => clientRow n "host".toList) ++
      [clientRow 0 "laptop".toList] := by
  have hlower : ∀ n name,
      normalizeMacAddress (clientLease n name).mac = (clientLease n name).mac :=
    fun n name => normalizeMacAddress_macText _
  have hvalid : ∀ l ∈ renewedLeases clients,
      (validMacAddress (normalizeMacAddress l.mac) && hostnameValid l.name) = true := by
    refine forall_mem_renewedLeases hrange fun n _ name hname => ?_
    rw [hlower, clientLease, validMacAddress_macText, hname.valid]
    have hunicast : (2 : UInt8) &&& 1 = 0 := by decide
    simp [validClientMac, Mac.bytes, hunicast]
  rw [HostnameSources.macRows, leaseList_renewedSources, List.filter_eq_self.mpr hvalid,
    renewedLeases, List.map_append, List.map_map, List.map_singleton, hlower]
  refine congrArg₂ _ (List.map_congr_left fun n _ => ?_) rfl
  exact congrArg (HostnameByMac.mk · _) (hlower n _)

/-- The rows by IP address: one for each client, and one for the renewed lease. -/
theorem ipRows_renewedSources :
    (renewedSources clients hrange).ipRows =
      ((List.range clients).map fun n => (⟨(clientLease n []).ip, "host".toList⟩ : HostnameByIp)) ++
        [⟨(clientLease 0 []).ip, "laptop".toList⟩] := by
  have hvalid : ∀ l ∈ renewedLeases clients, hostnameValid l.name = true :=
    forall_mem_renewedLeases hrange fun _ _ _ hname => hname.valid
  have hleases : (renewedSources clients hrange).leaseIpRows =
      (renewedLeases clients).map fun l => (⟨l.ip, l.name⟩ : HostnameByIp) := by
    rw [HostnameSources.leaseIpRows, leaseList_renewedSources, List.filter_eq_self.mpr hvalid]
  have hnone : HostnameSources.hostIpRows (renewedSources clients hrange).hostsDirList = [] ∧
      HostnameSources.hostIpRows (renewedSources clients hrange).etcHostsList = [] := ⟨rfl, rfl⟩
  rw [HostnameSources.ipRows, hleases, hnone.1, hnone.2, List.append_nil,
    List.append_nil, renewedLeases, List.map_append, List.map_map, List.map_singleton]
  rfl

end Renewed

/-- The clients of the example have distinct addresses. -/
theorem nodup_clientRows (clients : ℕ) (hrange : clients ≤ hostnameCacheMax) (name : CStr) :
    (((List.range clients).map fun n => clientRow n name).map HostnameByMac.mac).Nodup := by
  rw [List.map_map]
  refine List.Nodup.map_on (fun n hn k hk heq => ?_) List.nodup_range
  rw [List.mem_range] at hn hk
  simp only [hostnameCacheMax] at hrange
  obtain ⟨hhigh, hlow⟩ : UInt8.ofNat (n / 256) = UInt8.ofNat (k / 256) ∧
      UInt8.ofNat (n % 256) = UInt8.ofNat (k % 256) := by
    simpa using macText_injective heq
  have hhigh := congrArg UInt8.toNat hhigh
  have hlow := congrArg UInt8.toNat hlow
  rw [UInt8.toNat_ofNat', UInt8.toNat_ofNat'] at hhigh hlow
  omega

/-- When the leases of the clients fill the table, the last lease comes too late. -/
theorem lastRow_early_renewedSources :
    (CappedMap.lastRow HostnameByMac.mac (clientRow 0 []).mac
      (CappedMap.early HostnameByMac.mac hostnameCacheMax
      (renewedSources hostnameCacheMax le_rfl).macRows)).map HostnameByMac.name =
        some "host".toList := by
  obtain ⟨rows, hrows⟩ : ∃ rows,
      rows = (List.range hostnameCacheMax).map fun n => clientRow n "host".toList :=
    ⟨_, rfl⟩
  have hlength : rows.length = hostnameCacheMax := by rw [hrows, List.length_map, List.length_range]
  have hcard : (CappedMap.keys HostnameByMac.mac rows).card = rows.length :=
    CappedMap.card_keys (hrows ▸ nodup_clientRows hostnameCacheMax le_rfl _)
  rw [macRows_renewedSources, ← hrows, CappedMap.early_concat,
    CappedMap.early_of_length_le hlength.le, if_pos (by rw [hcard, hlength])]
  have hfirst : (clientRow 0 []).mac ∈ CappedMap.keys HostnameByMac.mac rows := by
    have hmem : clientRow 0 "host".toList ∈ rows :=
      hrows ▸ List.mem_map_of_mem (List.mem_range.mpr (by decide))
    have hmac : (clientRow 0 "host".toList).mac ∈ rows.map HostnameByMac.mac :=
      List.mem_map_of_mem hmem
    exact List.mem_toFinset.mpr hmac
  obtain ⟨row, hrow⟩ := Option.ne_none_iff_exists'.mp (CappedMap.lastRow_ne_none_iff.mpr hfirst)
  have hmem : row ∈ rows := List.mem_of_mem_filter (List.mem_of_getLast? hrow)
  rw [hrows] at hmem
  obtain ⟨n, -, rfl⟩ := List.mem_map.mp hmem
  rw [hrow]
  rfl

/-- As many keys as there are clients. -/
theorem card_keys_renewed {α : Type*} {key : α → CStr} {clients : ℕ}
    (hpos : 0 < clients) (row : ℕ → α) {last : α} (hlast : key last = key (row 0)) :
    (CappedMap.keys key (((List.range clients).map row) ++ [last])).card ≤ clients := by
  have hmem : key last ∈ CappedMap.keys key ((List.range clients).map row) := by
    rw [hlast]
    exact List.mem_toFinset.mpr
      (List.mem_map_of_mem (List.mem_map_of_mem (List.mem_range.mpr hpos)))
  rw [CappedMap.keys_concat, Finset.insert_eq_of_mem hmem]
  exact (CappedMap.card_keys_le _).trans_eq (by rw [List.length_map, List.length_range])

/-- With as many MAC addresses as the table has rows, the client is still looked up under its first
name. -/
theorem not_documentedName_renewed :
    (CappedMap.keys HostnameByMac.mac (renewedSources hostnameCacheMax le_rfl).macRows).card ≤
      hostnameCacheMax ∧
      (CappedMap.keys HostnameByIp.ip (renewedSources hostnameCacheMax le_rfl).ipRows).card ≤
        hostnameCacheMax ∧
      hostnameLookup (hostnameCacheRefresh true 0 (renewedSources hostnameCacheMax le_rfl).files {})
          (clientRow 0 []).mac [] ≠
        (renewedSources hostnameCacheMax le_rfl).documentedName (clientRow 0 []).mac [] := by
  have hpos : 0 < hostnameCacheMax := by decide
  refine ⟨?_, ?_, ?_⟩
  · rw [macRows_renewedSources]
    exact card_keys_renewed hpos (clientRow · "host".toList) rfl
  · rw [ipRows_renewedSources]
    exact card_keys_renewed hpos (fun n =>
      (⟨(clientLease n []).ip, "host".toList⟩ : HostnameByIp)) rfl
  · have hdocumented :
        (renewedSources hostnameCacheMax le_rfl).documentedName (clientRow 0 []).mac [] =
        some "laptop".toList := by
      have hmac : (clientRow 0 "laptop".toList).mac = (clientRow 0 []).mac := rfl
      rw [HostnameSources.documentedName, HostnameSources.nameOfMac,
        macRows_renewedSources, CappedMap.lastRow_concat, if_pos hmac]
      rfl
    rw [hostnameLookup, HostnameSources.hostnameLookupMac_refresh,
      lastRow_early_renewedSources, hdocumented]
    decide

/-- One client with two leases. -/
theorem hostnameLookup_oneClient :
    (CappedMap.keys HostnameByMac.mac (renewedSources 1 (by decide)).macRows).card ≤
      hostnameCacheMax ∧
      (CappedMap.keys HostnameByIp.ip (renewedSources 1 (by decide)).ipRows).card ≤
        hostnameCacheMax ∧
      (hostnameLookup (hostnameCacheRefresh true 0 (renewedSources 1 (by decide)).files {})
        (clientRow 0 []).mac [] =
          (renewedSources 1 (by decide)).documentedName (clientRow 0 []).mac [] ↔
        (renewedSources 1 (by decide)).NamedEarly (clientRow 0 []).mac) := by
  have hone : 1 ≤ hostnameCacheMax := by decide
  have hmacs : (CappedMap.keys HostnameByMac.mac (renewedSources 1 hone).macRows).card ≤
      hostnameCacheMax := by
    rw [macRows_renewedSources]
    exact (card_keys_renewed Nat.one_pos (clientRow · "host".toList) rfl).trans hone
  have hips :
      (CappedMap.keys HostnameByIp.ip (renewedSources 1 hone).ipRows).card ≤ hostnameCacheMax := by
    rw [ipRows_renewedSources]
    exact (card_keys_renewed Nat.one_pos (fun n =>
      (⟨(clientLease n []).ip, "host".toList⟩ : HostnameByIp)) rfl).trans
      hone
  exact ⟨hmacs, hips,
    (renewedSources 1 hone).hostnameLookup_eq_iff hmacs hips 0 {} (clientRow 0 []).mac []⟩

end Lanspeed
