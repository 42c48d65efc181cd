import Lanspeed.Lib.Machine
import Mathlib.Algebra.Order.Ring.Nat

/-!
# The refresh loop of the status page

The status page asks the daemon for its replies again and again: `schedule` sets a timer, the timer
sends a request, and the reply schedules the next one. The buttons of the page stop the timer, set
it anew or send requests of their own, while other requests are in flight. Whatever the order of
these events, the browser holds no timer that the page has lost and the loop goes on unless it is
paused (`refresh_loop_goes_on`), and the timer sends no more than one request a second
(`polls_apart`). Requests do not pile up behind the clicks (`requests_le_clicks`). They overlap only
where something asks for one while another is in flight: a click on refresh, a resume, a choice of
the interval, or the page itself at the end of a daemon reload (`replies_in_order`).
-/

namespace Lanspeed

/-! ## The page -/

/-- `MIN_REFRESH_MS`. -/
def minRefreshMs : ℕ := 1000

/-- The delay that `window.setTimeout` takes a number for: it is converted to a signed 32-bit
integer. -/
def timeoutDelay (ms : ℕ) : ℕ := (Int32.ofNat ms).toInt.toNat

/-- A timer that the browser holds for the page. -/
structure PageTimer where
  id  : ℕ
  due : ℕ
deriving DecidableEq, Repr

/-- What the page keeps, and what the browser does for it. A request is the three calls that
`reload` sends together. -/
structure StatusPage where
  paused    : Bool
  refreshMs : ℕ
  timer     : Option ℕ := none
  reloading : Bool := false
  error     : Bool := false
  renders   : Bool := true
  now       : ℕ
  timerIds  : ℕ := 0
  timers    : List PageTimer := []
  sent      : ℕ := 0
  inFlight  : List ℕ := []
  polls     : List ℕ := []
  shown     : List ℕ := []
  inits     : ℕ := 0
  settling  : List ℕ := []
deriving DecidableEq, Repr

/-- How the promise of a request is settled: with data that the page can show, with data on which
`refreshLive` throws, or with an error. -/
inductive Answer where
  | data
  | unrenderable
  | failed
deriving DecidableEq, Repr

/-- What may happen to the page. A choice of the interval that is not a number is `none`. -/
inductive PageEvent where
  | timer (id : ℕ)
  | answer (request : ℕ) (answer : Answer)
  | clickRefresh
  | clickPause
  | chooseInterval (ms : Option ℕ)
  | clickReload
  | initDone
  | settled (due : ℕ)
deriving DecidableEq, Repr

/-- The clicks in an event. -/
def PageEvent.clicks : PageEvent → ℕ
  | .clickRefresh => 1
  | .clickPause => 1
  | .chooseInterval _ => 1
  | .clickReload => 1
  | .timer _ => 0
  | .answer _ _ => 0
  | .initDone => 0
  | .settled _ => 0

/-- An event, and the time since the last one. -/
structure Moment where
  elapsed : ℕ
  event   : PageEvent
deriving DecidableEq, Repr

namespace StatusPage

/-- `stopTimer`. -/
def stopTimer (s : StatusPage) : StatusPage :=
  match s.timer with
  | none => s
  | some id => { s with timer := none, timers := s.timers.filter (·.id ≠ id) }

/-- `schedule`. -/
def schedule (s : StatusPage) : StatusPage :=
  let s := s.stopTimer
  if s.paused then s
  else
    let interval := max minRefreshMs s.refreshMs
    { s with
      timer    := some s.timerIds
      timerIds := s.timerIds + 1
      timers   := ⟨s.timerIds, s.now + timeoutDelay interval⟩ :: s.timers }

/-- `reload`, up to the replies. -/
def reload (force : Bool) (s : StatusPage) : StatusPage :=
  let s := if force then s.stopTimer else s
  { s with sent := s.sent + 1, inFlight := (s.sent + 1) :: s.inFlight }

/-- The replies to a request: the handlers of `reload`. Where `refreshLive` throws, the second
handler calls it again and the page schedules nothing. -/
def settle (s : StatusPage) (request : ℕ) : Answer → StatusPage
  | .data => schedule { s with error := false, renders := true, shown := request :: s.shown }
  | .unrenderable => { s with error := true, renders := false, shown := request :: s.shown }
  | .failed => if s.renders then schedule { s with error := true } else { s with error := true }

/-- The button that pauses and resumes. -/
def clickPause (s : StatusPage) : StatusPage :=
  let s := { s with paused := !s.paused }
  if s.paused then s.stopTimer else s.schedule

/-- The select of the interval. -/
def chooseInterval (s : StatusPage) : Option ℕ → StatusPage
  | none => s
  | some ms => if ms < minRefreshMs then s else schedule { s with refreshMs := ms }

/-- `render`. -/
def render (paused : Bool) (refreshMs now : ℕ) : StatusPage :=
  schedule { paused := paused, refreshMs := refreshMs, now := now }

/-- The handlers of the page; an event that cannot happen changes nothing. -/
def handle (s : StatusPage) : PageEvent → StatusPage
  | .timer id =>
    if s.timers.any fun t => t.id = id ∧ t.due ≤ s.now then
      -- `viewState.timer` still has the number of the timer.
      reload false { s with timers := s.timers.filter (·.id ≠ id), polls := s.now :: s.polls }
    else s
  | .answer request answer =>
    if request ∈ s.inFlight then
      settle { s with inFlight := s.inFlight.erase request } request answer
    else s
  | .clickRefresh => s.reload true
  | .clickPause => s.clickPause
  | .chooseInterval ms => s.chooseInterval ms
  | .clickReload => if s.reloading then s else { s with reloading := true, inits := s.inits + 1 }
  | .initDone =>
    if s.inits = 0 then s
    else { s with inits := s.inits - 1, settling := (s.now + 4000) :: s.settling }
  | .settled due =>
    if due ∈ s.settling ∧ due ≤ s.now then
      reload true { s with settling := s.settling.erase due, reloading := false }
    else s

/-- Time passes. -/
def elapse (s : StatusPage) (ms : ℕ) : StatusPage := { s with now := s.now + ms }

/-- Time passes, and then an event happens. -/
def step (s : StatusPage) (m : Moment) : StatusPage := (s.elapse m.elapsed).handle m.event

/-! ## Timers -/

/-- Every timer that the browser holds is the one that the page can stop. -/
def OwnsTimers (s : StatusPage) : Prop := ∀ t ∈ s.timers, s.timer = some t.id

variable {s : StatusPage}

/-- Stopping the timer leaves none. -/
theorem stopTimer_eq (h : s.OwnsTimers) : s.stopTimer = { s with timer := none, timers := [] } := by
  rw [stopTimer]
  cases htimer : s.timer with
  | none =>
    have hnil : s.timers = [] := by
      apply List.eq_nil_iff_forall_not_mem.mpr
      intro t ht
      exact absurd ((h t ht).symm.trans htimer) (Option.some_ne_none _)
    obtain ⟨paused, refreshMs, timer⟩ := s
    subst htimer hnil
    rfl
  | some id =>
    have hnil : s.timers.filter (fun t => t.id ≠ id) = [] := by
      apply List.filter_eq_nil_iff.mpr
      intro t ht
      have hid : t.id = id := Option.some.inj ((h t ht).symm.trans htimer)
      simp [hid]
    dsimp only
    rw [hnil]

/-- Scheduling replaces the timer. -/
theorem schedule_eq (h : s.OwnsTimers) :
    s.schedule =
      if s.paused then { s with timer := none, timers := [] }
      else
        { s with
          timer    := some s.timerIds
          timerIds := s.timerIds + 1
          timers   := [⟨s.timerIds, s.now + timeoutDelay (max minRefreshMs s.refreshMs)⟩] } := by
  rw [schedule, stopTimer_eq h]

/-- A forced reload stops the timer. -/
theorem reload_true_eq (h : s.OwnsTimers) :
    s.reload true =
      { s with timer := none, timers := [], sent := s.sent + 1,
               inFlight := (s.sent + 1) :: s.inFlight } := by
  rw [reload, if_pos rfl, stopTimer_eq h]

/-- A timer that has fired was the only one. -/
theorem filter_timers_eq_nil (h : s.OwnsTimers) {t : PageTimer} (ht : t ∈ s.timers) :
    s.timers.filter (fun u => u.id ≠ t.id) = [] := by
  apply List.filter_eq_nil_iff.mpr
  intro u hu
  have hid : u.id = t.id := Option.some.inj ((h u hu).symm.trans (h t ht))
  simp [hid]

/-- What an event does to a page that owns its timers. -/
inductive Effect (s : StatusPage) : PageEvent → StatusPage → Prop
  | ignored (e : PageEvent) : Effect s e s
  | fired {t : PageTimer} (ht : t ∈ s.timers) (hdue : t.due ≤ s.now) :
      Effect s (.timer t.id)
        { s with
          timers := [], sent := s.sent + 1, inFlight := (s.sent + 1) :: s.inFlight,
          polls := s.now :: s.polls }
  | answered {request : ℕ} (hsent : request ∈ s.inFlight) (answer : Answer) :
      Effect s (.answer request answer)
        (settle { s with inFlight := s.inFlight.erase request } request answer)
  | refreshed :
      Effect s .clickRefresh
        { s with timer := none, timers := [], sent := s.sent + 1,
                 inFlight := (s.sent + 1) :: s.inFlight }
  | paused (hrunning : s.paused = false) :
      Effect s .clickPause { s with paused := true, timer := none, timers := [] }
  | resumed (hpaused : s.paused = true) : Effect s .clickPause (schedule { s with paused := false })
  | chosen {ms : ℕ} (hms : minRefreshMs ≤ ms) :
      Effect s (.chooseInterval (some ms)) (schedule { s with refreshMs := ms })
  | reloads (hidle : s.reloading = false) :
      Effect s .clickReload { s with reloading := true, inits := s.inits + 1 }
  | initDone (hinits : s.inits ≠ 0) :
      Effect s .initDone { s with inits := s.inits - 1, settling := (s.now + 4000) :: s.settling }
  | reloaded {due : ℕ} (hsettling : due ∈ s.settling) :
      Effect s (.settled due)
        { s with
          timer := none, timers := [], sent := s.sent + 1, inFlight := (s.sent + 1) :: s.inFlight
          settling := s.settling.erase due, reloading := false }

/-- What an event does to a page that owns its timers is one of the effects. -/
theorem effect_handle (h : s.OwnsTimers) (e : PageEvent) : Effect s e (s.handle e) := by
  cases e with
  | timer id =>
    rw [handle]
    split_ifs with hfires
    · simp only [List.any_eq_true, decide_eq_true_eq] at hfires
      obtain ⟨t, ht, rfl, hdue⟩ := hfires
      have hfired := Effect.fired ht hdue
      rwa [← filter_timers_eq_nil h ht] at hfired
    · exact .ignored _
  | answer request answer =>
    rw [handle]
    split_ifs with hsent
    · exact .answered hsent answer
    · exact .ignored _
  | clickRefresh =>
    rw [handle, reload_true_eq h]
    exact .refreshed
  | clickPause =>
    rw [handle, clickPause]
    cases hpaused : s.paused with
    | true => exact .resumed hpaused
    | false =>
      have hstop : stopTimer { s with paused := true } = _ := stopTimer_eq h
      exact hstop ▸ .paused hpaused
  | chooseInterval ms =>
    cases ms with
    | none => exact .ignored _
    | some ms =>
      rw [handle, chooseInterval]
      split_ifs with hms
      · exact .ignored _
      · exact .chosen (Nat.not_lt.mp hms)
  | clickReload =>
    rw [handle]
    split_ifs with hreloading
    · exact .ignored _
    · exact .reloads (eq_false_of_ne_true hreloading)
  | initDone =>
    rw [handle]
    split_ifs with hinits
    · exact .ignored _
    · exact .initDone hinits
  | settled due =>
    rw [handle]
    split_ifs with hsettling
    · have hreload :
          reload true { s with settling := s.settling.erase due, reloading := false } = _ :=
        reload_true_eq h
      exact hreload ▸ .reloaded hsettling.1
    · exact .ignored _

/-- What holds of the timers between two events: the browser holds at most one, it is the page's,
and a paused page has none. -/
structure TimersOfPage (s : StatusPage) : Prop where
  owns      : s.OwnsTimers
  length_le : s.timers.length ≤ 1
  paused    : s.paused = true → s.timers = []

/-- A page without timers owns them. -/
theorem TimersOfPage.of_nil (h : s.timers = []) : s.TimersOfPage where
  owns := by simp [OwnsTimers, h]
  length_le := by simp [h]
  paused _ := h

/-- Scheduling leaves no timer but the page's own. -/
theorem timersOfPage_schedule (h : s.OwnsTimers) : s.schedule.TimersOfPage := by
  rw [schedule_eq h]
  split_ifs with hpaused
  · exact .of_nil rfl
  · exact ⟨by simp [OwnsTimers], Nat.le_refl 1, fun hp => absurd hp hpaused⟩

/-- A request that settles leaves no timer but the page's own. -/
theorem timersOfPage_settle (h : s.TimersOfPage) (request : ℕ) (answer : Answer) :
    (settle s request answer).TimersOfPage := by
  cases answer with
  | data => exact timersOfPage_schedule h.owns
  | unrenderable => exact ⟨h.owns, h.length_le, h.paused⟩
  | failed =>
    rw [settle]
    split_ifs
    · exact timersOfPage_schedule h.owns
    · exact ⟨h.owns, h.length_le, h.paused⟩

/-- Every event leaves no timer but the page's own. -/
theorem timersOfPage_handle (h : s.TimersOfPage) (e : PageEvent) : (s.handle e).TimersOfPage := by
  have heffect := effect_handle h.owns e
  generalize s.handle e = s' at heffect ⊢
  cases heffect with
  | ignored => exact h
  | fired => exact .of_nil rfl
  | answered =>
    apply timersOfPage_settle
    exact ⟨h.owns, h.length_le, h.paused⟩
  | refreshed => exact .of_nil rfl
  | paused => exact .of_nil rfl
  | resumed => exact timersOfPage_schedule h.owns
  | chosen => exact timersOfPage_schedule h.owns
  | reloads => exact ⟨h.owns, h.length_le, h.paused⟩
  | initDone => exact ⟨h.owns, h.length_le, h.paused⟩
  | reloaded => exact .of_nil rfl

/-- The page that is rendered has no timer but its own. -/
theorem timersOfPage_render (paused : Bool) (refreshMs now : ℕ) :
    (render paused refreshMs now).TimersOfPage :=
  timersOfPage_schedule (by simp [OwnsTimers])

/-- Time passes without a trace in the timers. -/
theorem TimersOfPage.step (h : s.TimersOfPage) (m : Moment) : (s.step m).TimersOfPage :=
  timersOfPage_handle (s := s.elapse m.elapsed) ⟨h.owns, h.length_le, h.paused⟩ m.event

theorem TimersOfPage.run (h : s.TimersOfPage) (ms : List Moment) :
    (Machine.run StatusPage.step s ms).TimersOfPage :=
  Machine.run_invariant StatusPage.step (fun _ m h => h.step m) h ms

/-! ## The loop goes on -/

/-- The loop is alive: the page can show what it has, and it is paused, or it waits for a timer or
for a reply. -/
structure Alive (s : StatusPage) : Prop where
  renders : s.renders = true
  waits   : s.paused = true ∨ s.timers ≠ [] ∨ s.inFlight ≠ []

/-- Scheduling keeps the loop alive. -/
theorem alive_schedule (h : s.OwnsTimers) (hrenders : s.renders = true) : s.schedule.Alive := by
  rw [schedule_eq h]
  split_ifs with hpaused
  · exact ⟨hrenders, .inl hpaused⟩
  · exact ⟨hrenders, .inr (.inl (List.cons_ne_nil _ _))⟩

/-- Every event keeps the loop alive, unless the page cannot show the data that it brings. -/
theorem alive_handle (howns : s.OwnsTimers) (h : s.Alive) {e : PageEvent}
    (hrenders : ∀ request, e ≠ .answer request .unrenderable) : (s.handle e).Alive := by
  have heffect := effect_handle howns e
  generalize s.handle e = s' at heffect ⊢
  cases heffect with
  | ignored => exact h
  | fired => exact ⟨h.renders, .inr (.inr (List.cons_ne_nil _ _))⟩
  | answered hsent answer =>
    cases answer with
    | data => exact alive_schedule howns rfl
    | unrenderable => exact absurd rfl (hrenders _)
    | failed =>
      rw [settle, if_pos h.renders]
      exact alive_schedule howns h.renders
  | refreshed => exact ⟨h.renders, .inr (.inr (List.cons_ne_nil _ _))⟩
  | paused => exact ⟨h.renders, .inl rfl⟩
  | resumed => exact alive_schedule howns h.renders
  | chosen => exact alive_schedule howns h.renders
  | reloads => exact ⟨h.renders, h.waits⟩
  | initDone => exact ⟨h.renders, h.waits⟩
  | reloaded => exact ⟨h.renders, .inr (.inr (List.cons_ne_nil _ _))⟩

/-! ## The daemon reload -/

/-- The button is locked exactly while one reload is on its way: its call is in flight, or the page
waits for the daemon to come up again. -/
def ReloadLocked (s : StatusPage) : Prop :=
  s.inits + s.settling.length = if s.reloading then 1 else 0

/-- Scheduling does not touch a reload that is under way. -/
theorem schedule_reloading (h : s.OwnsTimers) :
    s.schedule.inits = s.inits ∧ s.schedule.settling = s.settling ∧
      s.schedule.reloading = s.reloading := by
  rw [schedule_eq h]
  split_ifs <;> exact ⟨rfl, rfl, rfl⟩

/-- Scheduling keeps the reloads one at a time. -/
theorem reloadLocked_schedule (howns : s.OwnsTimers) (h : s.ReloadLocked) :
    s.schedule.ReloadLocked := by
  obtain ⟨hinits, hsettling, hreloading⟩ := schedule_reloading howns
  rwa [ReloadLocked, hinits, hsettling, hreloading]

/-- Every event keeps the reloads one at a time. -/
theorem reloadLocked_handle (howns : s.OwnsTimers) (h : s.ReloadLocked) (e : PageEvent) :
    (s.handle e).ReloadLocked := by
  have heffect := effect_handle howns e
  generalize s.handle e = s' at heffect ⊢
  rw [ReloadLocked] at h
  cases heffect with
  | ignored => exact h
  | fired => exact h
  | answered hsent answer =>
    cases answer with
    | data =>
      exact reloadLocked_schedule
        (s := { s with inFlight := _, error := _, renders := _, shown := _ }) howns h
    | unrenderable => exact h
    | failed =>
      rw [settle]
      split_ifs
      · exact reloadLocked_schedule (s := { s with inFlight := _, error := _ }) howns h
      · exact h
  | refreshed => exact h
  | paused => exact h
  | resumed => exact reloadLocked_schedule (s := { s with paused := _ }) howns h
  | chosen => exact reloadLocked_schedule (s := { s with refreshMs := _ }) howns h
  | reloads hidle =>
    rw [hidle] at h
    have hnone : s.inits + s.settling.length = 0 := h
    show s.inits + 1 + s.settling.length = 1
    omega
  | initDone hinits =>
    show s.inits - 1 + (s.settling.length + 1) = _
    rw [← h]
    omega
  | reloaded hsettling =>
    have hlength := List.length_erase_of_mem hsettling
    have hpos := List.length_pos_of_mem hsettling
    show s.inits + (s.settling.erase _).length = 0
    split_ifs at h <;> omega

/-! ## The requests of the timer -/

theorem timeoutDelay_of_lt {ms : ℕ} (h : ms < 2 ^ 31) : timeoutDelay ms = ms := by
  rw [timeoutDelay, Int32.toInt_ofNat_of_lt h, Int.toNat_natCast]

/-- The timer has sent its requests apart, and the next one it sends is apart from them. -/
structure PollsApart (begun : ℕ) (s : StatusPage) : Prop where
  refreshMs : s.refreshMs < 2 ^ 31
  past      : begun ≤ s.now
  apart     : s.polls.Pairwise fun later earlier => earlier + minRefreshMs ≤ later
  polls     : ∀ p ∈ s.polls, begun + minRefreshMs ≤ p ∧ p ≤ s.now
  next      : ∀ t ∈ s.timers, begun + minRefreshMs ≤ t.due ∧ ∀ p ∈ s.polls, p + minRefreshMs ≤ t.due

/-- Scheduling keeps the polls apart. -/
theorem pollsApart_schedule {begun : ℕ} (howns : s.OwnsTimers) (h : s.PollsApart begun) :
    s.schedule.PollsApart begun := by
  obtain ⟨hms, hbegun, hapart, hpolls, -⟩ := h
  have hdelay : timeoutDelay (max minRefreshMs s.refreshMs) = max minRefreshMs s.refreshMs :=
    timeoutDelay_of_lt (max_lt (show minRefreshMs < 2 ^ 31 by decide) hms)
  have hmin : minRefreshMs ≤ max minRefreshMs s.refreshMs := le_max_left _ _
  rw [schedule_eq howns, hdelay]
  split_ifs
  · exact ⟨hms, hbegun, hapart, hpolls, by simp⟩
  · refine ⟨hms, hbegun, hapart, hpolls, ?_⟩
    rintro t ht
    obtain rfl := List.mem_singleton.mp ht
    refine ⟨by dsimp only; omega, fun p hp => ?_⟩
    have hpast := (hpolls p hp).2
    dsimp only
    omega

/-- Every event keeps the polls apart, where the chosen intervals are below `2 ^ 31`. -/
theorem pollsApart_handle {begun : ℕ} (howns : s.OwnsTimers)
    (h : s.PollsApart begun) {e : PageEvent}
    (he : ∀ ms, e = .chooseInterval (some ms) → ms < 2 ^ 31) : (s.handle e).PollsApart begun := by
  have heffect := effect_handle howns e
  generalize s.handle e = s' at heffect ⊢
  obtain ⟨hms, hbegun, hapart, hpolls, hnext⟩ := h
  cases heffect with
  | ignored => exact ⟨hms, hbegun, hapart, hpolls, hnext⟩
  | fired ht hdue =>
    -- The request is sent at the time of the timer or later.
    obtain ⟨hfirst, hlater⟩ := hnext _ ht
    have hafter : ∀ p ∈ s.polls, p + minRefreshMs ≤ s.now := fun p hp => (hlater p hp).trans hdue
    refine ⟨hms, hbegun, List.pairwise_cons.mpr ⟨hafter, hapart⟩, ?_, by simp⟩
    exact List.forall_mem_cons.mpr ⟨⟨hfirst.trans hdue, Nat.le_refl _⟩, hpolls⟩
  | answered hsent answer =>
    cases answer with
    | data => exact pollsApart_schedule howns ⟨hms, hbegun, hapart, hpolls, hnext⟩
    | unrenderable => exact ⟨hms, hbegun, hapart, hpolls, hnext⟩
    | failed =>
      rw [settle]
      split_ifs
      · exact pollsApart_schedule howns ⟨hms, hbegun, hapart, hpolls, hnext⟩
      · exact ⟨hms, hbegun, hapart, hpolls, hnext⟩
  | refreshed => exact ⟨hms, hbegun, hapart, hpolls, by simp⟩
  | paused => exact ⟨hms, hbegun, hapart, hpolls, by simp⟩
  | resumed => exact pollsApart_schedule howns ⟨hms, hbegun, hapart, hpolls, hnext⟩
  | chosen => exact pollsApart_schedule howns ⟨he _ rfl, hbegun, hapart, hpolls, hnext⟩
  | reloads => exact ⟨hms, hbegun, hapart, hpolls, hnext⟩
  | initDone => exact ⟨hms, hbegun, hapart, hpolls, hnext⟩
  | reloaded => exact ⟨hms, hbegun, hapart, hpolls, by simp⟩

/-- Times that are apart, behind a first time and not behind a last one, are no more than there is
room for. -/
theorem length_mul_le_of_apart {apart first last : ℕ} {times : List ℕ} (hle : first ≤ last)
    (h : times.Pairwise fun later earlier => earlier + apart ≤ later)
    (hbounds : ∀ t ∈ times, first + apart ≤ t ∧ t ≤ last) :
    first + apart * times.length ≤ last := by
  induction times generalizing last with
  | nil => simpa using hle
  | cons t times ih =>
    obtain ⟨hlater, hrest⟩ := List.pairwise_cons.mp h
    obtain ⟨ht, htimes⟩ := List.forall_mem_cons.mp hbounds
    have hlast : first + apart * times.length ≤ t - apart := by
      apply ih (by omega) hrest
      intro u hu
      have hu' := hlater u hu
      have hfirst := (htimes u hu).1
      omega
    rw [List.length_cons, Nat.mul_succ]
    omega

/-! ## The requests in flight -/

/-- The requests that are in flight or are to be sent. -/
def requests (s : StatusPage) : ℕ :=
  s.timers.length + s.inFlight.length + s.inits + s.settling.length

/-- Scheduling leaves at most one timer beside the requests that are on their way. -/
theorem requests_schedule_le (h : s.OwnsTimers) :
    s.schedule.requests ≤ 1 + s.inFlight.length + s.inits + s.settling.length := by
  rw [schedule_eq h]
  split_ifs <;> simp [requests]

/-- A click adds one request at most, and what happens by itself adds none. -/
theorem requests_handle_le (h : s.TimersOfPage) (e : PageEvent) :
    (s.handle e).requests ≤ s.requests + e.clicks := by
  have heffect := effect_handle h.owns e
  generalize s.handle e = s' at heffect ⊢
  cases heffect with
  | ignored => exact Nat.le_add_right _ _
  | fired ht =>
    have hpos := List.length_pos_of_mem ht
    simp only [requests, PageEvent.clicks, List.length_nil, List.length_cons]
    omega
  | answered hsent answer =>
    have hlength := List.length_erase_of_mem hsent
    have hpos := List.length_pos_of_mem hsent
    have hscheduled : ∀ s' : StatusPage, s'.OwnsTimers →
        s'.inFlight.length = s.inFlight.length - 1 →
        s'.inits = s.inits → s'.settling = s.settling → s'.schedule.requests ≤ s.requests := by
      intro s' howns hinFlight hinits hsettling
      have hle := requests_schedule_le howns
      rw [hinFlight, hinits, hsettling] at hle
      have hs :
          s.requests = s.timers.length + s.inFlight.length + s.inits + s.settling.length := rfl
      omega
    show requests _ ≤ s.requests
    cases answer with
    | data => exact hscheduled _ h.owns hlength rfl rfl
    | unrenderable =>
      simp only [settle, requests]
      omega
    | failed =>
      rw [settle]
      split_ifs
      · exact hscheduled _ h.owns hlength rfl rfl
      · simp only [requests]
        omega
  | refreshed =>
    simp only [requests, PageEvent.clicks, List.length_nil, List.length_cons]
    omega
  | paused =>
    simp only [requests, PageEvent.clicks, List.length_nil]
    omega
  | resumed =>
    have hle := requests_schedule_le (s := { s with paused := false }) h.owns
    simp only [requests, PageEvent.clicks] at hle ⊢
    omega
  | @chosen ms =>
    have hle := requests_schedule_le (s := { s with refreshMs := ms }) h.owns
    simp only [requests, PageEvent.clicks] at hle ⊢
    omega
  | reloads =>
    simp only [requests, PageEvent.clicks]
    omega
  | initDone hinits =>
    simp only [requests, PageEvent.clicks, List.length_cons]
    omega
  | reloaded hsettling =>
    have hlength := List.length_erase_of_mem hsettling
    have hpos := List.length_pos_of_mem hsettling
    simp only [requests, PageEvent.clicks, List.length_nil, List.length_cons]
    omega

/-! ## The order of the replies -/

/-- The event asks for a request, at once or by a timer, while another one is in flight: a click on
refresh, a resume, a choice of the interval, or the end of a daemon reload. -/
def Overlaps (s : StatusPage) : PageEvent → Prop
  | .clickRefresh => s.inFlight ≠ []
  | .clickPause => s.paused = true ∧ s.inFlight ≠ []
  | .chooseInterval _ => s.inFlight ≠ []
  | .settled _ => s.inFlight ≠ []
  | .timer _ => False
  | .answer _ _ => False
  | .clickReload => False
  | .initDone => False

instance (s : StatusPage) : DecidablePred s.Overlaps
  | .clickRefresh => inferInstanceAs (Decidable (_ ≠ _))
  | .clickPause => inferInstanceAs (Decidable (_ ∧ _))
  | .chooseInterval _ => inferInstanceAs (Decidable (_ ≠ _))
  | .settled _ => inferInstanceAs (Decidable (_ ≠ _))
  | .timer _ => inferInstanceAs (Decidable False)
  | .answer _ _ => inferInstanceAs (Decidable False)
  | .clickReload => inferInstanceAs (Decidable False)
  | .initDone => inferInstanceAs (Decidable False)

/-- The page waits for one thing at a time, and what comes is newer than what it has shown. -/
structure InOrder (s : StatusPage) : Prop where
  one_request : s.timers.length + s.inFlight.length ≤ 1
  shown       : s.shown.Pairwise (· > ·)
  shown_le    : ∀ q ∈ s.shown, q ≤ s.sent
  newer       : ∀ r ∈ s.inFlight, r ≤ s.sent ∧ ∀ q ∈ s.shown, q < r

/-- A request that is sent while none is waited for. -/
theorem InOrder.send (h : s.InOrder) :
    ∀ r ∈ [s.sent + 1], r ≤ s.sent + 1 ∧ ∀ q ∈ s.shown, q < r := by
  intro r hr
  obtain rfl := List.mem_singleton.mp hr
  exact ⟨Nat.le_refl _, fun q hq => Nat.lt_succ_of_le (h.shown_le q hq)⟩

/-- Scheduling keeps the replies in order where nothing is in flight. -/
theorem inOrder_schedule (howns : s.OwnsTimers) (hnone : s.inFlight = [])
    (hshown : s.shown.Pairwise (· > ·))
    (hsent : ∀ q ∈ s.shown, q ≤ s.sent) : s.schedule.InOrder := by
  rw [schedule_eq howns]
  split_ifs
  · exact ⟨by simp [hnone], hshown, hsent, by simp [hnone]⟩
  · exact ⟨by simp [hnone], hshown, hsent, by simp [hnone]⟩

/-- The reply that the page waits for is the newest one. -/
theorem inOrder_settle (howns : s.OwnsTimers) (h : s.InOrder) {request : ℕ}
    (hsent : request ∈ s.inFlight) (answer : Answer) :
    (settle { s with inFlight := s.inFlight.erase request } request answer).InOrder := by
  obtain ⟨hone, hshown, hshownLe, hnewer⟩ := h
  have hpos := List.length_pos_of_mem hsent
  have htimers : s.timers = [] := List.length_eq_zero_iff.mp (by omega)
  have hlast : s.inFlight.erase request = [] := by
    rw [← List.length_eq_zero_iff, List.length_erase_of_mem hsent]
    omega
  obtain ⟨hrequest, hnewest⟩ := hnewer request hsent
  have hshown' : (request :: s.shown).Pairwise (· > ·) := List.pairwise_cons.mpr ⟨hnewest, hshown⟩
  have hshownLe' : ∀ q ∈ request :: s.shown, q ≤ s.sent :=
    List.forall_mem_cons.mpr ⟨hrequest, hshownLe⟩
  cases answer with
  | data => exact inOrder_schedule howns hlast hshown' hshownLe'
  | unrenderable =>
    exact ⟨by simp [settle, htimers, hlast], hshown', hshownLe', by simp [settle, hlast]⟩
  | failed =>
    rw [settle]
    split_ifs
    · exact inOrder_schedule howns hlast hshown hshownLe
    · exact ⟨by simp [htimers, hlast], hshown, hshownLe, by simp [hlast]⟩

/-- Every event that does not overlap a request keeps the replies in order. -/
theorem inOrder_handle (howns : s.OwnsTimers) (h : s.InOrder) {e : PageEvent}
    (halone : ¬ s.Overlaps e) :
    (s.handle e).InOrder := by
  have heffect := effect_handle howns e
  generalize s.handle e = s' at heffect ⊢
  have hsend := h.send
  obtain ⟨hone, hshown, hshownLe, hnewer⟩ := h
  have hsent : ∀ q ∈ s.shown, q ≤ s.sent + 1 := fun q hq => Nat.le_succ_of_le (hshownLe q hq)
  cases heffect with
  | ignored => exact ⟨hone, hshown, hshownLe, hnewer⟩
  | fired ht =>
    have hnone : s.inFlight = [] := by
      have hpos := List.length_pos_of_mem ht
      exact List.length_eq_zero_iff.mp (by omega)
    exact ⟨by simp [hnone], hshown, hsent, by simpa [hnone] using hsend⟩
  | answered hin answer => exact inOrder_settle howns ⟨hone, hshown, hshownLe, hnewer⟩ hin answer
  | refreshed =>
    have hnone : s.inFlight = [] := not_not.mp halone
    exact ⟨by simp [hnone], hshown, hsent, by simpa [hnone] using hsend⟩
  | paused => exact ⟨(Nat.add_le_add_right (Nat.zero_le _) _).trans hone, hshown, hshownLe, hnewer⟩
  | resumed hpaused =>
    have hnone : s.inFlight = [] := not_not.mp fun hne => halone ⟨hpaused, hne⟩
    exact inOrder_schedule howns hnone hshown hshownLe
  | chosen => exact inOrder_schedule howns (not_not.mp halone) hshown hshownLe
  | reloads => exact ⟨hone, hshown, hshownLe, hnewer⟩
  | initDone => exact ⟨hone, hshown, hshownLe, hnewer⟩
  | reloaded =>
    have hnone : s.inFlight = [] := not_not.mp halone
    exact ⟨by simp [hnone], hshown, hsent, by simpa [hnone] using hsend⟩

/-! ## Runs -/

section Runs

variable (paused : Bool) (refreshMs now : ℕ) (ms : List Moment)

/-- The page after a list of events. -/
def run : StatusPage := Machine.run StatusPage.step (render paused refreshMs now) ms

/-- Whatever happens, the browser holds no timer that the page has lost, a paused page has none, and
the button locks while a daemon reload is on its way and no longer. As long as the page can show
what comes, it is paused or waits for a timer or a reply. -/
theorem refresh_loop_goes_on :
    (run paused refreshMs now ms).TimersOfPage ∧ (run paused refreshMs now ms).ReloadLocked ∧
      ((∀ m ∈ ms, ∀ request, m.event ≠ .answer request .unrenderable) →
        (run paused refreshMs now ms).Alive) := by
  have hrender := timersOfPage_render paused refreshMs now
  refine ⟨hrender.run ms, ?_, fun hrenders => ?_⟩
  · have hstart : (render paused refreshMs now).ReloadLocked :=
      reloadLocked_schedule (by simp [OwnsTimers]) rfl
    have hboth := Machine.run_invariant (I := fun s : StatusPage => s.TimersOfPage ∧ s.ReloadLocked)
      StatusPage.step
      (fun s m h =>
        ⟨h.1.step m, reloadLocked_handle (s := s.elapse m.elapsed) h.1.owns h.2 m.event⟩)
      ⟨hrender, hstart⟩ ms
    exact hboth.2
  · have hstart : (render paused refreshMs now).Alive := alive_schedule (by simp [OwnsTimers]) rfl
    have hboth := Machine.run_invariant_along (I := fun s : StatusPage => s.TimersOfPage ∧ s.Alive)
      (P := fun _ m => ∀ request, m.event ≠ .answer request .unrenderable) StatusPage.step
      (fun s m h hm =>
        ⟨h.1.step m, alive_handle (s := s.elapse m.elapsed) h.1.owns ⟨h.2.renders, h.2.waits⟩ hm⟩)
      ⟨hrender, hstart⟩ (Machine.along_of_forall_mem _ hrenders _)
    exact hboth.2

/-- Whatever the user does, the timer sends its requests a second apart, and so no more of them
than seconds have passed. The intervals are below `2 ^ 31`, so that `setTimeout` takes them as
they are. -/
theorem polls_apart (hms : refreshMs < 2 ^ 31)
    (hchosen : ∀ m ∈ ms, ∀ v, m.event = .chooseInterval (some v) → v < 2 ^ 31) :
    (run paused refreshMs now ms).polls.Pairwise
      (fun later earlier => earlier + minRefreshMs ≤ later) ∧
      now + minRefreshMs * (run paused refreshMs now ms).polls.length ≤
        (run paused refreshMs now ms).now := by
  have hstart : (render paused refreshMs now).PollsApart now :=
    pollsApart_schedule (by simp [OwnsTimers]) ⟨hms, Nat.le_refl _, .nil, by simp, by simp⟩
  have hstep : ∀ (s : StatusPage) (m : Moment), s.TimersOfPage ∧ s.PollsApart now →
      (∀ v, m.event = .chooseInterval (some v) → v < 2 ^ 31) →
      (s.step m).TimersOfPage ∧ (s.step m).PollsApart now := by
    intro s m h hm
    obtain ⟨hrefresh, hpast, hapart, hpolls, hnext⟩ := h.2
    have hlater : ∀ p ∈ s.polls, now + minRefreshMs ≤ p ∧ p ≤ s.now + m.elapsed :=
      fun p hp => ⟨(hpolls p hp).1, (hpolls p hp).2.trans (Nat.le_add_right _ _)⟩
    exact ⟨h.1.step m, pollsApart_handle (s := s.elapse m.elapsed) h.1.owns
      ⟨hrefresh, hpast.trans (Nat.le_add_right _ _), hapart, hlater, hnext⟩ hm⟩
  have hend := (Machine.run_invariant_along StatusPage.step hstep
    ⟨timersOfPage_render paused refreshMs now, hstart⟩ (Machine.along_of_forall_mem _ hchosen _)).2
  exact ⟨hend.apart, length_mul_le_of_apart hend.past hend.apart hend.polls⟩

/-- The timer sends a request, and the user chooses a shorter interval while it is in flight. -/
theorem polls_apart_chosen :
    let ms : List Moment := [⟨3000, .timer 0⟩, ⟨10, .chooseInterval (some 1000)⟩, ⟨1000, .timer 1⟩]
    (run false 3000 0 ms).polls.Pairwise (fun later earlier => earlier + minRefreshMs ≤ later) ∧
      0 + minRefreshMs * (run false 3000 0 ms).polls.length ≤ (run false 3000 0 ms).now :=
  polls_apart false 3000 0 [⟨3000, .timer 0⟩, ⟨10, .chooseInterval (some 1000)⟩, ⟨1000, .timer 1⟩]
    (by decide) (by simp)

/-- The page waits for no more replies and timers than one and the clicks of the user. -/
theorem requests_le_clicks :
    (run paused refreshMs now ms).timers.length + (run paused refreshMs now ms).inFlight.length ≤
      1 + (ms.map fun m => m.event.clicks).sum := by
  have hstart : (render paused refreshMs now).requests ≤ 1 :=
    requests_schedule_le (by simp [OwnsTimers])
  have hrun := Machine.run_subadditive StatusPage.step (fun _ m h => TimersOfPage.step h m) requests
    (fun m => m.event.clicks)
    (fun s m h => requests_handle_le (s := s.elapse m.elapsed) ⟨h.owns,
      h.length_le, h.paused⟩ m.event)
    (timersOfPage_render paused refreshMs now) ms
  have hend : (run paused refreshMs now ms).requests ≤ _ := hrun
  simp only [requests] at hend hstart
  omega

/-- Where no request is in flight at a click on refresh, at a resume, at a choice of the interval
and at the end of a daemon reload, the page waits for one thing at a time and shows the replies in
the order of the requests, none of them twice. -/
theorem replies_in_order
    (h : Machine.Along StatusPage.step (fun s m => ¬ s.Overlaps m.event)
      (render paused refreshMs now) ms) :
    (run paused refreshMs now ms).shown.Pairwise (· > ·) ∧
      (run paused refreshMs now ms).timers.length +
      (run paused refreshMs now ms).inFlight.length ≤ 1 := by
  have hstart : (render paused refreshMs now).InOrder :=
    inOrder_schedule (by simp [OwnsTimers]) rfl .nil (by simp)
  have hend := (Machine.run_invariant_along (I := fun s : StatusPage => s.TimersOfPage ∧ s.InOrder)
    StatusPage.step (fun s m h hm => ⟨h.1.step m, inOrder_handle (s := s.elapse m.elapsed) h.1.owns
      ⟨h.2.one_request, h.2.shown, h.2.shown_le, h.2.newer⟩ hm⟩)
    ⟨timersOfPage_render paused refreshMs now, hstart⟩ h).2
  exact ⟨hend.shown, hend.one_request⟩

/-- The user asks for a request after the reply to the first one. -/
theorem replies_in_order_clicked :
    let ms : List Moment :=
      [⟨3000, .timer 0⟩, ⟨20, .answer 1 .data⟩, ⟨100, .clickRefresh⟩, ⟨20, .answer 2 .data⟩]
    (run false 3000 0 ms).shown.Pairwise (· > ·) ∧
      (run false 3000 0 ms).timers.length + (run false 3000 0 ms).inFlight.length ≤ 1 :=
  replies_in_order false 3000 0
    [⟨3000, .timer 0⟩, ⟨20, .answer 1 .data⟩, ⟨100, .clickRefresh⟩,
      ⟨20, .answer 2 .data⟩] (by decide)

-- A reply is overtaken by that to a click, and replaces it on the page.
example :
    (run false 3000 0
      [⟨3000, .timer 0⟩, ⟨20, .clickRefresh⟩, ⟨20, .answer 2 .data⟩,
        ⟨20, .answer 1 .data⟩]).shown = [1, 2] := by
  decide

end Runs

end StatusPage

end Lanspeed
