import Beale.Sessions.Captures

/-!
# The activity of sessions

A session says three times whether it is being worked on: by its status, by the statuses of its
attempts and by its activity intervals. Its calls change the three together, but `transition` and
`importCapture` take the id of any attempt, and every call takes the caller's times.

- `activity_sound_iff`: the sessions of a run are sound exactly if every change keeps them so.
-/

namespace Beale.Sessions

open Beale.Library
open Client (exceptBind_ok exceptGuard_ok)

variable {env : SessionPlatform}

/-! ## Intervals -/

variable (env) in
/-- Both times can be read, and the first is not after the second. -/
def notAfter (a b : JsString) : Prop := ∃ x ∈ env.dateParse a, ∃ y ∈ env.dateParse b, x ≤ y

variable (env) in
/-- Intervals that are ordered and disjoint. Only the last one may be open. -/
structure Ordered (intervals : List AppServerSessionActivityInterval) : Prop where
  ends : ∀ interval ∈ intervals, ∀ e ∈ interval.endedAt, notAfter env interval.startedAt e
  next : intervals.IsChain fun a b => ∃ e ∈ a.endedAt, notAfter env e b.startedAt

variable {l : List AppServerSessionActivityInterval} {interval : AppServerSessionActivityInterval}

theorem ordered_concat
    : Ordered env (l ++ [interval]) ↔
      Ordered env l ∧ (∀ e ∈ interval.endedAt, notAfter env interval.startedAt e) ∧
        ∀ previous ∈ l.getLast?, ∃ e ∈ previous.endedAt, notAfter env e interval.startedAt := by
  constructor
  · rintro ⟨hends, hnext⟩
    obtain ⟨hl, -, hlast⟩ := List.isChain_append.mp hnext
    refine ⟨⟨fun i hi => hends i (List.mem_append_left _ hi), hl⟩, ?_, ?_⟩
    · exact hends interval (List.mem_append_right _ (List.mem_singleton_self _))
    · exact fun previous hprev => hlast previous hprev interval rfl
  · rintro ⟨⟨hends, hl⟩, hend, hlast⟩
    refine ⟨fun i hi => ?_, List.isChain_append.mpr ⟨hl, .singleton _, ?_⟩⟩
    · rcases List.mem_append.mp hi with hi | hi
      · exact hends i hi
      · rw [List.mem_singleton.mp hi]
        exact hend
    · intro previous hprev i hi
      cases Option.some.inj hi
      exact hlast previous hprev

/-- Only the last interval is open. -/
theorem Ordered.closed (h : Ordered env (l ++ [interval])) : ∀ i ∈ l, i.endedAt ≠ none := by
  induction l using List.reverseRecOn generalizing interval with
  | nil => nofun
  | append_singleton l previous ih =>
    obtain ⟨hl, -, hlast⟩ := ordered_concat.mp h
    intro i hi
    rcases List.mem_append.mp hi with hi | hi
    · exact ih hl i hi
    · obtain ⟨e, he, -⟩ := hlast previous (by simp)
      rw [List.mem_singleton.mp hi, Option.mem_def.mp he]
      nofun

theorem closeLast_concat (time : JsString) (l : List AppServerSessionActivityInterval)
    (interval : AppServerSessionActivityInterval) : closeLast time (l ++ [interval]) =
      l ++ [if interval.endedAt = none then { interval with endedAt := some time } else interval] := by
  induction l with
  | nil => rfl
  | cons first l ih =>
    cases l with
    | nil => rfl
    | cons second l => exact congrArg (first :: ·) ih

/-! ## Activity -/

/-- What a session says about its activity. -/
structure Activity where
  status : AppServerSessionStatus
  attempts : List AppServerSessionStatus
  intervals : Option (List AppServerSessionActivityInterval)

def OnlyLastActive (attempts : List AppServerSessionStatus) : Prop :=
  ∃ earlier, attempts = earlier ++ [.active] ∧ .active ∉ earlier

theorem onlyLastActive_concat {earlier : List AppServerSessionStatus} {last : AppServerSessionStatus} :
    OnlyLastActive (earlier ++ [last]) ↔ last = .active ∧ .active ∉ earlier := by
  constructor
  · rintro ⟨earlier', heq, hnot⟩
    obtain ⟨rfl, hlast⟩ := List.append_inj' heq rfl
    exact ⟨List.singleton_inj.mp hlast, hnot⟩
  · rintro ⟨rfl, hnot⟩
    exact ⟨earlier, rfl, hnot⟩

namespace Activity

variable (env) in
/-- The three records agree, and the intervals are in order. -/
structure Sound (a : Activity) : Prop where
  attempts : a.status = .active ↔ OnlyLastActive a.attempts
  intervals : ∃ l, a.intervals = some l ∧ Ordered env l ∧
    ((∃ interval ∈ l, interval.endedAt = none) ↔ a.status = .active)

variable (env) in
/-- What sound runs keep: there is a last attempt and a last interval, and all others are over. -/
structure Settled (a : Activity) : Prop where
  attempts : ∃ earlier last, a.attempts = earlier ++ [last] ∧ .active ∉ earlier ∧
    (last = .active ↔ a.status = .active)
  intervals : ∃ earlier last, a.intervals = some (earlier ++ [last]) ∧
    Ordered env (earlier ++ [last]) ∧ (last.endedAt = none ↔ a.status = .active)

theorem Settled.sound {a : Activity} (h : Settled env a) : Sound env a := by
  obtain ⟨⟨earlier, last, hatts, hnot, hlast⟩, before, interval, hints, hord, hopen⟩ := h
  refine ⟨?_, _, hints, hord, ?_⟩
  · rw [hatts, onlyLastActive_concat, ← hlast]
    exact (and_iff_left hnot).symm
  · rw [← hopen]
    constructor
    · rintro ⟨i, hi, hnone⟩
      rcases List.mem_append.mp hi with hi | hi
      · exact absurd hnone (hord.closed i hi)
      · rw [← List.mem_singleton.mp hi]
        exact hnone
    · exact fun hnone => ⟨interval, by simp, hnone⟩

end Activity

/-- What a call does to the activity of a session: it begins an attempt, or it moves the session and
one of its attempts, if the call names one, to a status. -/
inductive ActivityChange where
  | begin (now : JsString)
  | move (status : AppServerSessionStatus) (target : Option Nat) (now : JsString)

namespace Activity

/-- An interval is closed, if it is open, and a new one is opened. -/
def reopen (now : JsString) (l : List AppServerSessionActivityInterval) :
    List AppServerSessionActivityInterval := closeLast now l ++ [⟨now, none⟩]

def after (a : Activity) : ActivityChange → Activity
  | .begin now => ⟨.active, a.attempts ++ [.active], a.intervals.map (reopen now)⟩
  | .move status target now =>
    { status
      attempts := target.elim a.attempts (a.attempts.set · status)
      intervals :=
        if a.status = .active ∧ status ≠ .active then a.intervals.map (closeLast now)
        else if a.status ≠ .active ∧ status = .active then a.intervals.map (reopen now)
        else a.intervals }

/-- What the code checks before a change: an attempt begins in a session that is not active, and the
attempt that is moved is one of the session. -/
def Allows (a : Activity) : ActivityChange → Prop
  | .begin _ => a.status ≠ .active
  | .move _ target _ => ∀ k ∈ target, k < a.attempts.length

def lastInterval (a : Activity) : Option AppServerSessionActivityInterval :=
  a.intervals.bind List.getLast?

def IsLast (a : Activity) (target : Option Nat) : Prop := ∃ k ∈ target, k + 1 = a.attempts.length

variable (env) in
/-- The time is not before the end of the last interval. -/
def Follows (a : Activity) (now : JsString) : Prop :=
  ∀ interval ∈ a.lastInterval, ∀ e ∈ interval.endedAt, notAfter env e now

variable (env) in
/-- The time is not before the start of the last interval. -/
def Closes (a : Activity) (now : JsString) : Prop :=
  ∀ interval ∈ a.lastInterval, notAfter env interval.startedAt now

variable (env) in
/-- The change leaves the activity sound: what is active before or after it moves with the last
attempt, and intervals end and begin at times that are not before the last one. -/
def Keeps (a : Activity) : ActivityChange → Prop
  | .begin now => a.Follows env now
  | .move status target now =>
    (a.status = .active ∨ status = .active → a.IsLast target ∨ a.status = status ∧ target = none) ∧
      (a.status = .active → status ≠ .active → a.Closes env now) ∧
      (a.status ≠ .active → status = .active → a.Follows env now)

/-! ## A change keeps the activity sound -/

variable {earlier : List AppServerSessionStatus} {last status : AppServerSessionStatus}
variable {before : List AppServerSessionActivityInterval} {interval : AppServerSessionActivityInterval}

variable {k : Nat}

theorem set_isLast (h : k + 1 = (earlier ++ [last]).length) :
    (earlier ++ [last]).set k status = earlier ++ [status] := by
  have hk : k = earlier.length := by simpa using h
  subst hk
  rw [List.set_append_right _ _ (Nat.le_refl _), Nat.sub_self]
  rfl

theorem set_earlier (hk : k < (earlier ++ [last]).length) (h : k + 1 ≠ (earlier ++ [last]).length) :
    k < earlier.length ∧ (earlier ++ [last]).set k status = earlier.set k status ++ [last] := by
  rw [List.length_append, List.length_singleton] at hk h
  have hlt : k < earlier.length := by omega
  exact ⟨hlt, List.set_append_left _ _ hlt⟩

theorem active_notMem_set (h : .active ∉ earlier) (hst : status ≠ .active) :
    .active ∉ earlier.set k status := by
  intro hmem
  rcases List.mem_or_eq_of_mem_set hmem with hmem | hmem
  · exact h hmem
  · exact hst hmem.symm

/-- A closed interval stays as it is when a new one is opened after it. -/
theorem reopen_concat (now : JsString) (hclose : interval.endedAt ≠ none) :
    reopen now (before ++ [interval]) = (before ++ [interval]) ++ [⟨now, none⟩] := by
  rw [reopen, closeLast_concat, if_neg hclose]

theorem reopen_ordered {now : JsString} (h : Ordered env (before ++ [interval]))
    (hclose : interval.endedAt ≠ none) : Ordered env ((before ++ [interval]) ++ [⟨now, none⟩]) ↔
      ∀ e ∈ interval.endedAt, notAfter env e now := by
  rw [ordered_concat]
  have hlast : (before ++ [interval]).getLast? = some interval := by simp
  constructor
  · rintro ⟨-, -, hnext⟩ e he
    obtain ⟨e', he', hnot⟩ := hnext interval hlast
    rw [Option.mem_def.mp he] at he'
    cases Option.some.inj he'
    exact hnot
  · intro hfollows
    refine ⟨h, nofun, fun previous hprev => ?_⟩
    rw [hlast] at hprev
    cases Option.some.inj hprev
    obtain ⟨e, he⟩ := Option.ne_none_iff_exists'.mp hclose
    exact ⟨e, he, hfollows e he⟩

theorem closeLast_ordered {now : JsString} (h : Ordered env (before ++ [interval])) :
    Ordered env (before ++ [{ interval with endedAt := some now }]) ↔
      notAfter env interval.startedAt now := by
  obtain ⟨hbef, -, hnext⟩ := ordered_concat.mp h
  rw [ordered_concat]
  constructor
  · rintro ⟨-, hend, -⟩
    exact hend now rfl
  · intro hcloses
    refine ⟨hbef, fun e he => ?_, hnext⟩
    cases Option.some.inj he
    exact hcloses

structure SettledAt (env : SessionPlatform) (a : Activity) (earlier : List AppServerSessionStatus)
    (last : AppServerSessionStatus) (before : List AppServerSessionActivityInterval)
    (interval : AppServerSessionActivityInterval) : Prop where
  attempts : a.attempts = earlier ++ [last]
  earlier : .active ∉ earlier
  last : last = .active ↔ a.status = .active
  intervals : a.intervals = some (before ++ [interval])
  ordered : Ordered env (before ++ [interval])
  isOpen : interval.endedAt = none ↔ a.status = .active

variable {a : Activity}

theorem Settled.exists_at (h : Settled env a) :
    ∃ earlier last before interval, SettledAt env a earlier last before interval := by
  obtain ⟨⟨earlier, last, hatts, hnot, hlast⟩, before, interval, hints, hord, hopen⟩ := h
  exact ⟨earlier, last, before, interval, hatts, hnot, hlast, hints, hord, hopen⟩

namespace SettledAt

variable {a : Activity} {now : JsString}

section

variable (h : SettledAt env a earlier last before interval)
include h

theorem follows_iff : a.Follows env now ↔ ∀ e ∈ interval.endedAt, notAfter env e now := by
  have hlast : a.lastInterval = some interval := by simp [lastInterval, h.intervals]
  simp [Follows, hlast]

theorem closes_iff : a.Closes env now ↔ notAfter env interval.startedAt now := by
  have hlast : a.lastInterval = some interval := by simp [lastInterval, h.intervals]
  simp [Closes, hlast]

theorem opened (hinactive : a.status ≠ .active) :
    a.intervals.map (reopen now) = some ((before ++ [interval]) ++ [⟨now, none⟩]) ∧
      (Ordered env ((before ++ [interval]) ++ [⟨now, none⟩]) ↔ a.Follows env now) := by
  have hclose : interval.endedAt ≠ none := fun hnone => hinactive (h.isOpen.mp hnone)
  rw [h.follows_iff, h.intervals, Option.map_some, reopen_concat now hclose]
  exact ⟨rfl, reopen_ordered h.ordered hclose⟩

theorem closed (hactive : a.status = .active) :
    a.intervals.map (closeLast now) = some (before ++ [{ interval with endedAt := some now }]) ∧
      (Ordered env (before ++ [{ interval with endedAt := some now }]) ↔ a.Closes env now) := by
  rw [h.closes_iff, h.intervals, Option.map_some, closeLast_concat, if_pos (h.isOpen.mpr hactive)]
  exact ⟨rfl, closeLast_ordered h.ordered⟩

end

end SettledAt

/-- The attempts after a move. -/
def movedAttempts (a : Activity) (status : AppServerSessionStatus) (target : Option Nat) :
    List AppServerSessionStatus := target.elim a.attempts (a.attempts.set · status)

namespace SettledAt

variable {a : Activity} {now : JsString} {target : Option Nat}

section

variable (h : SettledAt env a earlier last before interval)
  (hallows : ∀ k ∈ target, k < a.attempts.length)
include h hallows

theorem attempts_settled (hkeeps : a.status = .active ∨ status = .active →
      a.IsLast target ∨ a.status = status ∧ target = none) :
    ∃ earlier' last', movedAttempts a status target = earlier' ++ [last'] ∧ .active ∉ earlier' ∧
      (last' = .active ↔ status = .active) := by
  have hsame : (a.status = .active ↔ status = .active) →
      (last = .active ↔ status = .active) := h.last.trans
  have hboth (hnot : ¬(a.status = .active ∨ status = .active)) :
      a.status = .active ↔ status = .active :=
    iff_of_false (fun hactive => hnot (.inl hactive)) fun hactive => hnot (.inr hactive)
  cases target with
  | none =>
    refine ⟨earlier, last, h.attempts, h.earlier, hsame ?_⟩
    by_cases hsome : a.status = .active ∨ status = .active
    · rcases hkeeps hsome with ⟨k, hk, -⟩ | ⟨heq, -⟩
      · cases hk
      · rw [heq]
    · exact hboth hsome
  | some k =>
    show ∃ _ _, a.attempts.set k status = _ ∧ _
    have hlt := hallows k rfl
    rw [h.attempts] at hlt ⊢
    by_cases hlast : k + 1 = (earlier ++ [last]).length
    · exact ⟨earlier, status, set_isLast hlast, h.earlier, Iff.rfl⟩
    · have hnone : ¬(a.status = .active ∨ status = .active) := by
        intro hsome
        rcases hkeeps hsome with ⟨k', hk', hk⟩ | ⟨-, htarget⟩
        · cases Option.some.inj hk'
          exact hlast (h.attempts ▸ hk)
        · cases htarget
      exact ⟨earlier.set k status, last, (set_earlier hlt hlast).2,
        active_notMem_set h.earlier fun hactive => hnone (.inr hactive), hsame (hboth hnone)⟩

theorem attempts_keep (hsound : status = .active ↔ OnlyLastActive (movedAttempts a status target)) :
    a.status = .active ∨ status = .active → a.IsLast target ∨ a.status = status ∧ target = none := by
  intro hsome
  cases target with
  | none =>
    refine .inr ⟨?_, rfl⟩
    have hiff : status = .active ↔ a.status = .active := by
      rw [hsound, ← h.last, show movedAttempts a status none = earlier ++ [last] from h.attempts,
        onlyLastActive_concat, and_iff_left h.earlier]
    rcases hsome with hactive | hactive
    · rw [hactive, hiff.mpr hactive]
    · rw [hactive, hiff.mp hactive]
  | some k =>
    rw [show movedAttempts a status (some k) = a.attempts.set k status from rfl] at hsound
    have hlt := hallows k rfl
    by_cases hlast : k + 1 = a.attempts.length
    · exact .inl ⟨k, rfl, hlast⟩
    · rw [h.attempts] at hlt hlast hsound
      obtain ⟨hk, hset⟩ := set_earlier hlt hlast
      rw [hset, onlyLastActive_concat] at hsound
      exfalso
      by_cases hactive : status = .active
      · exact (hsound.mp hactive).2 (List.mem_iff_getElem.mpr ⟨k, by simpa using hk, by simp [hactive]⟩)
      · have hlast' := h.last.mpr (hsome.resolve_right hactive)
        exact hactive (hsound.mpr ⟨hlast', active_notMem_set h.earlier hactive⟩)

end

end SettledAt

variable {change : ActivityChange}

theorem Settled.after (hdone : Settled env a)
    (hallows : a.Allows change) (hkeeps : a.Keeps env change) : Settled env (a.after change) := by
  obtain ⟨earlier, last, before, interval, h⟩ := hdone.exists_at
  cases change with
  | begin now =>
    obtain ⟨hints, hord⟩ := h.opened hallows
    refine ⟨⟨a.attempts, .active, rfl, ?_, by simp [Activity.after]⟩, before ++ [interval], ⟨now, none⟩,
      hints, hord.mpr hkeeps, by simp [Activity.after]⟩
    rw [h.attempts, List.mem_append, List.mem_singleton]
    rintro (hmem | hlast)
    · exact h.earlier hmem
    · exact hallows (h.last.mp hlast.symm)
  | move status target now =>
    obtain ⟨hatts, hcloses, hfollows⟩ := hkeeps
    refine ⟨h.attempts_settled hallows hatts, ?_⟩
    show ∃ _ _, (if a.status = .active ∧ status ≠ .active then _ else
      if a.status ≠ .active ∧ status = .active then _ else _) = some _ ∧ _ ∧ (_ ↔ status = .active)
    by_cases hactive : a.status = .active
    · by_cases hst : status = .active
      · rw [if_neg (by simp [hst]), if_neg (by simp [hactive])]
        exact ⟨before, interval, h.intervals, h.ordered, by rw [h.isOpen, hactive, hst]⟩
      · obtain ⟨hints, hord⟩ := h.closed hactive
        rw [if_pos ⟨hactive, hst⟩]
        exact ⟨before, _, hints, hord.mpr (hcloses hactive hst), by simp [hst]⟩
    · rw [if_neg (by simp [hactive])]
      by_cases hst : status = .active
      · obtain ⟨hints, hord⟩ := h.opened hactive
        rw [if_pos ⟨hactive, hst⟩]
        exact ⟨before ++ [interval], _, hints, hord.mpr (hfollows hactive hst), by simp [hst]⟩
      · rw [if_neg (by simp [hst])]
        exact ⟨before, interval, h.intervals, h.ordered, by rw [h.isOpen]; exact iff_of_false hactive hst⟩

theorem Settled.keeps (hdone : Settled env a)
    (hallows : a.Allows change) (hsound : Sound env (a.after change)) : a.Keeps env change := by
  obtain ⟨earlier, last, before, interval, h⟩ := hdone.exists_at
  obtain ⟨hatts, l, hints, hord, -⟩ := hsound
  cases change with
  | begin now =>
    obtain ⟨hopened, hiff⟩ := h.opened hallows
    rw [show (a.after (.begin now)).intervals = a.intervals.map (reopen now) from rfl, hopened] at hints
    cases Option.some.inj hints
    exact hiff.mp hord
  | move status target now =>
    refine ⟨h.attempts_keep hallows hatts, fun hactive hst => ?_, fun hactive hst => ?_⟩
    · obtain ⟨hclose, hiff⟩ := h.closed hactive
      rw [show (a.after (.move status target now)).intervals = a.intervals.map (closeLast now) from
        if_pos ⟨hactive, hst⟩, hclose] at hints
      cases Option.some.inj hints
      exact hiff.mp hord
    · obtain ⟨hopened, hiff⟩ := h.opened hactive
      rw [show (a.after (.move status target now)).intervals = a.intervals.map (reopen now) from
        (if_neg (by simp [hactive])).trans (if_pos ⟨hactive, hst⟩), hopened] at hints
      cases Option.some.inj hints
      exact hiff.mp hord

end Activity

/-! ## The activity of a record -/

def activityOf (session : AppServerSessionRecord) : Activity :=
  ⟨session.status, session.attempts.map (·.status), session.activityIntervals⟩

@[simp] theorem activityOf_stored (session : AppServerSessionRecord) :
    activityOf (storedSessionDocument session) = activityOf session := by
  simp [activityOf, storedSessionDocument, Function.comp_def]

@[simp] theorem activityOf_written (updated : AppServerSessionRecord) (clock : JsString) :
    activityOf (written updated clock) = activityOf updated := rfl

variable {session updated : AppServerSessionRecord}

theorem ensureSessionActivityIntervals_some (h : session.activityIntervals = some l) :
    ensureSessionActivityIntervals session = l := by
  rw [ensureSessionActivityIntervals, h]
  rfl

section

variable (h : (activityOf session).Settled env)
include h

theorem Activity.Settled.ensured :
    session.activityIntervals = some (ensureSessionActivityIntervals session) := by
  obtain ⟨before, last, hints, -⟩ := h.intervals
  have hsome : session.activityIntervals = some (before ++ [last]) := hints
  rw [ensureSessionActivityIntervals_some hsome, hsome]

theorem startSessionActivity_intervals (now : JsString) :
    (startSessionActivity session now).activityIntervals =
      (activityOf session).intervals.map (Activity.reopen now) := by
  show some _ = session.activityIntervals.map _
  rw [h.ensured]
  rfl

theorem closeSessionActivity_intervals (now : JsString) :
    (closeSessionActivity session now).activityIntervals =
      (activityOf session).intervals.map (closeLast now) := by
  show some _ = session.activityIntervals.map _
  rw [h.ensured]
  rfl

/-- Nothing is open in a session that is not active, so that closing changes nothing. -/
theorem closeSessionActivity_inactive (hinactive : session.status ≠ .active) (now : JsString) :
    (closeSessionActivity session now).activityIntervals = session.activityIntervals := by
  obtain ⟨before, last, hints, -, hopen⟩ := h.intervals
  have hclose : last.endedAt ≠ none := fun hnone => hinactive (hopen.mp hnone)
  rw [closeSessionActivity_intervals h, hints, Option.map_some, closeLast_concat, if_neg hclose]
  exact hints.symm

end

variable {input : BeginAppServerSessionAttemptInput} {clock : JsString}

theorem beginAttempt_activity (h : (activityOf session).Settled env)
    (hok : beginAttemptUpdate input clock session = .ok updated) : activityOf updated =
      (activityOf session).after (.begin (input.startedAt.getD clock)) := by
  obtain ⟨-, summary, id, rfl⟩ := beginAttemptUpdate_ok hok
  have hints := startSessionActivity_intervals h (input.startedAt.getD clock)
  simp only [activityOf, Activity.after, List.map_append, List.map_cons, List.map_nil] at hints ⊢
  rw [hints]

theorem map_modify_status (attempts : List AppServerSessionAttempt) (index : Nat)
    {f : AppServerSessionAttempt → AppServerSessionAttempt} {status : AppServerSessionStatus}
    (hf : ∀ a, (f a).status = status) :
    (attempts.modify index f).map (·.status) = (attempts.map (·.status)).set index status := by
  refine List.ext_getElem? fun i => ?_
  rw [List.getElem?_map, List.getElem?_modify, List.getElem?_set, List.getElem?_map]
  by_cases hi : index = i
  · subst hi
    by_cases hlt : index < attempts.length
    · simp [hlt, hf]
    · simp [hlt]
  · cases attempts[i]? with
    | none => simp [hi]
    | some a => simp [hi]

theorem transition_activity {input : AppServerSessionTransitionInput}
    (h : (activityOf session).Settled env)
    (hok : transitionUpdate input clock session = .ok updated) : activityOf updated =
      (activityOf session).after
        (.move input.status (transitionTarget session input.attemptId) (input.time.getD clock)) := by
  obtain ⟨-, -, hst, hints, summary, endedAt, hatts⟩ := transitionUpdate_ok hok
  have htimed : (timedRecord input clock session).activityIntervals = ((activityOf session).after
      (.move input.status (transitionTarget session input.attemptId) (input.time.getD clock))).intervals := by
    unfold timedRecord
    show _ = ite (session.status = .active ∧ input.status ≠ .active) _ _
    split
    · exact closeSessionActivity_intervals h _
    · show _ = ite (session.status ≠ .active ∧ input.status = .active) _ _
      split
      · exact startSessionActivity_intervals h _
      · rfl
  have hmoved : updated.attempts.map (·.status) = ((activityOf session).after
      (.move input.status (transitionTarget session input.attemptId) (input.time.getD clock))).attempts := by
    rw [hatts]
    show _ = (transitionTarget session input.attemptId).elim _ _
    cases transitionTarget session input.attemptId with
    | none => rfl
    | some index => exact map_modify_status session.attempts index fun _ => rfl
  show Activity.mk updated.status (updated.attempts.map (·.status)) updated.activityIntervals = _
  rw [hst, hints, htimed, hmoved]
  rfl

def captureStatus (capture : List (JsString × Json)) : AppServerSessionStatus :=
  let agent := (Json.members? (capture.lookup (js "agent"))).getD []
  importedStatus (optionalText (agent.lookup (js "status")))
    (optionalText (Json.path? (agent.lookup (js "goal")) [js "status"]))

def captureTime (capture : List (JsString × Json)) (clock : Text) : JsString :=
  ((optionalText (capture.lookup (js "capturedAt"))).getD clock).1

theorem captureStatus_ne_active (capture : List (JsString × Json)) : captureStatus capture ≠ .active := by
  unfold captureStatus importedStatus
  dsimp only
  split
  · nofun
  · split
    · nofun
    · split
      · nofun
      · nofun

theorem imported_activity (h : (activityOf session).Settled env)
    (index : Nat) (attemptId : Text) (capture : List (JsString × Json)) (fresh : Nat → Text)
    (clock : Text) : activityOf (importedRecord session index attemptId capture fresh clock) =
      (activityOf session).after
        (.move (captureStatus capture) (some index) (captureTime capture clock)) := by
  have hinactive := captureStatus_ne_active capture
  have hints : (closeSessionActivity session (captureTime capture clock)).activityIntervals =
      ((activityOf session).after
        (.move (captureStatus capture) (some index) (captureTime capture clock))).intervals := by
    show _ = ite (session.status = .active ∧ captureStatus capture ≠ .active) _ _
    by_cases hactive : session.status = .active
    · rw [if_pos ⟨hactive, hinactive⟩]
      exact closeSessionActivity_intervals h _
    · rw [if_neg (fun hboth => hactive hboth.1), if_neg (fun hboth => hinactive hboth.2)]
      exact closeSessionActivity_inactive h hactive _
  have hatts := map_modify_status session.attempts index
    (f := fun attempt => { attempt with
      capture := some (compactImportedCapture capture session.id attemptId (captureTime capture clock))
      status := captureStatus capture
      summary := (importedRecord session index attemptId capture fresh clock).summary
      endedAt := some (captureTime capture clock) }) (fun _ => rfl)
  show Activity.mk (captureStatus capture) (List.map _ _)
    (closeSessionActivity session (captureTime capture clock)).activityIntervals = _
  rw [hints]
  exact congrArg (Activity.mk _ · _) hatts

theorem recovered_activity (h : (activityOf session).Settled env)
    (hactive : session.status = .active) (reason recoveredAt : JsString) (summary : Text) :
    activityOf (recoveredRecord reason recoveredAt summary session) =
      (activityOf session).after (.move .paused (some (session.attempts.length - 1)) recoveredAt) := by
  have hints : (closeSessionActivity session recoveredAt).activityIntervals =
      ((activityOf session).after
        (.move .paused (some (session.attempts.length - 1)) recoveredAt)).intervals := by
    refine (closeSessionActivity_intervals h _).trans (if_pos ⟨hactive, ?_⟩).symm
    nofun
  have hatts : (session.attempts.map (recoverAttempt reason recoveredAt summary)).map (·.status) =
      (session.attempts.map (·.status)).set (session.attempts.length - 1) .paused := by
    obtain ⟨earlier, last, hstatuses, hnot, hlast⟩ := h.attempts
    have hmap : (session.attempts.map (recoverAttempt reason recoveredAt summary)).map (·.status) =
        (session.attempts.map (·.status)).map fun status =>
          if status = .active then .paused else status := by
      rw [List.map_map, List.map_map]
      refine List.map_congr_left fun a _ => ?_
      by_cases ha : a.status = .active
      · simp [recoverAttempt, ha]
      · simp [recoverAttempt, ha]
    have hstatuses : session.attempts.map (·.status) = earlier ++ [last] := hstatuses
    have hlen : session.attempts.length - 1 + 1 = (earlier ++ [last]).length := by
      rw [← hstatuses, List.length_map]
      have hpos := congrArg List.length hstatuses
      simp only [List.length_map, List.length_append, List.length_singleton] at hpos
      omega
    have hearlier :
        earlier.map (fun status => if status = .active then .paused else status) = earlier := by
      have hsame : ∀ status ∈ earlier, (if status = .active then .paused else status) = id status := by
        intro status hmem
        refine if_neg ?_
        rintro rfl
        exact hnot hmem
      exact (List.map_congr_left hsame).trans (List.map_id _)
    rw [hmap, hstatuses, Activity.set_isLast hlen, List.map_append, hearlier, hlast.mpr hactive]
    rfl
  show Activity.mk .paused (List.map _ (List.map _ _))
    (closeSessionActivity session recoveredAt).activityIntervals = _
  rw [hints, hatts]
  rfl

/-! ## Calls that are accepted -/

def transitionTexts (input : AppServerSessionTransitionInput) : Bool :=
  (textOf? input.summary).isSome && input.configuration.all fun configuration =>
    configuration.prompt.all (textOf? · |>.isSome) && configuration.model.all (textOf? · |>.isSome)

variable (env) in
/-- The call passes its checks on the session, and makes the change of its activity. -/
inductive Accepts (db : SessionTables) (clock : Text) :
    SessionCall → AppServerSessionRecord → ActivityChange → Prop
  | beginAttempt {sessionId : JsString} {input : BeginAppServerSessionAttemptInput}
      {session : AppServerSessionRecord} (hget : getSessionCore db sessionId = .ok session)
      (hrevision : input.expectedRevision.any (· ≠ session.revision) = false)
      (hinactive : session.status ≠ .active) (hsummary : (textOf? input.summary).isSome = true)
      (hid : (textOf? input.attemptId).isSome = true) :
      Accepts db clock (.beginAttempt sessionId input) session
        (.begin (input.startedAt.getD clock.1))
  | transition {sessionId : JsString} {input : AppServerSessionTransitionInput}
      {session : AppServerSessionRecord} (hget : getSessionCore db sessionId = .ok session)
      (hrevision : input.expectedRevision.any (· ≠ session.revision) = false)
      (htexts : transitionTexts input = true) :
      Accepts db clock (.transition sessionId input) session
        (.move input.status (transitionTarget session input.attemptId) (input.time.getD clock.1))
  | importCapture {sessionId : JsString} {input : ImportAppServerSessionCaptureInput}
      {session : AppServerSessionRecord} {capture : List (JsString × Json)} {index : Nat}
      (hdecode : decodeCapture input.capture = .ok capture)
      (hget : getSessionCore db sessionId = .ok session)
      (hrevision : input.expectedRevision.any (· ≠ session.revision) = false)
      (htarget : importTarget input session = .ok index)
      (hprofile : validateCaptureResearchProfile env capture session = .ok ()) :
      Accepts db clock (.importCapture sessionId input) session
        (.move (captureStatus capture) (some index) (captureTime capture clock))
  | recoverInterrupted {input : RecoverInput} {session : AppServerSessionRecord}
      (hworkspace : textOf? input.workspaceId = some session.workspaceId)
      (hget : db.sessions.get? session.id = some session) (hactive : session.status = .active)
      (htime : (textOf? (input.time.getD clock.1)).isSome = true) :
      Accepts db clock (.recoverInterrupted input) session
        (.move .paused (some (session.attempts.length - 1)) (input.time.getD clock.1))

theorem importTarget_lt {input : ImportAppServerSessionCaptureInput}
    {index : Nat} (h : importTarget input session = .ok index) : index < session.attempts.length :=
  (List.findIdx?_eq_some_iff_getElem.mp (importTarget_ok.mp h)).1

theorem transitionTarget_lt {attemptId : Option JsString} {index : Nat}
    (h : transitionTarget session attemptId = some index) : index < session.attempts.length := by
  unfold transitionTarget at h
  split at h
  · exact (List.findIdx?_eq_some_iff_getElem.mp h).1
  · split at h
    · cases h
    · next hempty =>
      cases h
      have hpos := List.length_pos_iff.mpr fun hnil => hempty (List.isEmpty_iff.mpr hnil)
      omega

variable {db : SessionTables} {call : SessionCall} {change : ActivityChange}

theorem Accepts.allows {clock : Text}
    (h : Accepts env db clock call session change) (hdone : (activityOf session).Settled env) :
    (activityOf session).Allows change := by
  have hlen : (activityOf session).attempts.length = session.attempts.length := List.length_map _
  cases h with
  | beginAttempt _ _ hinactive _ _ => exact hinactive
  | transition _ _ _ =>
    intro k hk
    rw [hlen]
    exact transitionTarget_lt hk
  | importCapture _ _ _ htarget _ =>
    intro k hk
    cases Option.some.inj hk
    rw [hlen]
    exact importTarget_lt htarget
  | recoverInterrupted _ _ _ _ =>
    intro k hk
    cases Option.some.inj hk
    obtain ⟨earlier, last, hatts, -⟩ := hdone.attempts
    have hpos := congrArg List.length hatts
    rw [hlen, List.length_append, List.length_singleton] at hpos
    rw [hlen]
    omega

theorem beginAttemptUpdate_exists :
    (∃ updated, beginAttemptUpdate input clock session = .ok updated) ↔ session.status ≠ .active ∧
      (textOf? input.summary).isSome = true ∧ (textOf? input.attemptId).isSome = true := by
  simp only [beginAttemptUpdate, exceptGuard_ok]
  constructor
  · rintro ⟨updated, hinactive, h⟩
    obtain ⟨summary, hsummary, h⟩ := exceptBind_ok.mp h
    obtain ⟨id, hid, -⟩ := exceptBind_ok.mp h
    exact ⟨hinactive, (requiredString_isOk _ _).mp ⟨summary, hsummary⟩,
      (requiredString_isOk _ _).mp ⟨id, hid⟩⟩
  · rintro ⟨hinactive, hsummary, hid⟩
    obtain ⟨summary, hsummary⟩ := (requiredString_isOk _ (js "Attempt summary")).mpr hsummary
    obtain ⟨id, hid⟩ := (requiredString_isOk _ (js "Attempt id")).mpr hid
    exact ⟨_, hinactive, exceptBind_ok.mpr ⟨summary, hsummary, exceptBind_ok.mpr ⟨id, hid, rfl⟩⟩⟩

theorem configure_exists {c : TransitionConfiguration} :
    (∃ configured, configure session c = .ok configured) ↔
      (c.prompt.all (textOf? · |>.isSome) && c.model.all (textOf? · |>.isSome)) = true := by
  have hfield (field : Option JsString) (label : JsString) (default : Text) :
      (∃ text, field.elim (.ok default) (requiredString · label) = .ok text) ↔
        field.all (textOf? · |>.isSome) = true := by
    cases field with
    | none => exact ⟨fun _ => rfl, fun _ => ⟨default, rfl⟩⟩
    | some value => exact requiredString_isOk value label
  rw [Bool.and_eq_true, ← hfield c.prompt (js "Session prompt") session.prompt,
    ← hfield c.model (js "Session model") session.model]
  constructor
  · rintro ⟨configured, h⟩
    obtain ⟨prompt, hprompt, h⟩ := exceptBind_ok.mp h
    obtain ⟨model, hmodel, -⟩ := exceptBind_ok.mp h
    exact ⟨⟨prompt, hprompt⟩, model, hmodel⟩
  · rintro ⟨⟨prompt, hprompt⟩, model, hmodel⟩
    exact ⟨_, exceptBind_ok.mpr ⟨prompt, hprompt, exceptBind_ok.mpr ⟨model, hmodel, rfl⟩⟩⟩

theorem transitionUpdate_exists {input : AppServerSessionTransitionInput} :
    (∃ updated, transitionUpdate input clock session = .ok updated) ↔ transitionTexts input = true := by
  rw [transitionTexts, Bool.and_eq_true, ← requiredString_isOk input.summary (js "Lifecycle summary")]
  have hconfigure (timed : AppServerSessionRecord) :
      (∃ configured, input.configuration.elim (.ok timed) (configure timed) = .ok configured) ↔
        (input.configuration.all fun configuration => configuration.prompt.all (textOf? · |>.isSome) &&
          configuration.model.all (textOf? · |>.isSome)) = true := by
    cases input.configuration with
    | none => exact ⟨fun _ => rfl, fun _ => ⟨timed, rfl⟩⟩
    | some c => exact configure_exists
  rw [← hconfigure (timedRecord input clock session)]
  constructor
  · rintro ⟨updated, h⟩
    obtain ⟨summary, hsummary, h⟩ := exceptBind_ok.mp h
    obtain ⟨configured, hconfigured, -⟩ := exceptBind_ok.mp h
    exact ⟨⟨summary, hsummary⟩, configured, hconfigured⟩
  · rintro ⟨⟨summary, hsummary⟩, configured, hconfigured⟩
    exact ⟨_, exceptBind_ok.mpr ⟨summary, hsummary,
      exceptBind_ok.mpr ⟨configured, hconfigured, rfl⟩⟩⟩

/-! ## What a call does to the activity of the sessions -/

theorem step_of_ok {db' : SessionTables} {clock : Text}
    (h : apply env db call clock = .ok db') : step env db (call, clock) = db' := by
  unfold step
  rw [h]

variable {next : AppServerSessionRecord}

/-- A document after a transaction is the one that was written, or the one there was. -/
theorem committed_get? (id : Text) : (committed env db next).sessions.get? id =
      if id = next.id then some (storedSessionDocument next) else db.sessions.get? id :=
  JsMap.get?_set db.sessions next.id id _

variable {sessionId : JsString}

theorem get?_of_getSessionCore (hstore : Stored db)
    (h : getSessionCore db sessionId = .ok session) :
    db.sessions.get? session.id = some session := by
  obtain ⟨id, -, hget⟩ := getSessionCore_ok.mp h
  rw [(hstore id session hget).1]
  exact hget

section Transaction

variable {db : SessionTables} {call : SessionCall} {clock : Text} {sessionId : JsString}
variable {expectedRevision : Option Nat}
variable {update : AppServerSessionRecord → Except JsString AppServerSessionRecord}

/-- A transaction that succeeds stores the record that its change makes. -/
theorem step_mutate
    (happly : apply env db call clock = mutate env db sessionId expectedRevision clock.1 update)
    {session updated : AppServerSessionRecord} (hget : getSessionCore db sessionId = .ok session)
    (hrevision : expectedRevision.any (· ≠ session.revision) = false)
    (hupd : update session = .ok updated) (hid : updated.id = session.id) :
    (step env db (call, clock)).sessions.get? session.id =
      some (storedSessionDocument (written updated clock.1)) := by
  have hok : apply env db call clock = .ok (committed env db (written updated clock.1)) :=
    happly.trans (mutate_ok.mpr ⟨session, updated, hget, hrevision, hupd, rfl⟩)
  rw [step_of_ok hok, committed_get?]
  exact if_pos hid.symm

theorem step_mutate_cases (hstore : Stored db)
    (happly : apply env db call clock = mutate env db sessionId expectedRevision clock.1 update)
    (hid : ∀ session updated, update session = .ok updated → updated.id = session.id) {id : Text}
    {next : AppServerSessionRecord} (hget : (step env db (call, clock)).sessions.get? id = some next) :
    db.sessions.get? id = some next ∨ ∃ session updated, getSessionCore db sessionId = .ok session ∧
      expectedRevision.any (· ≠ session.revision) = false ∧ update session = .ok updated ∧
      db.sessions.get? id = some session ∧
      next = storedSessionDocument (written updated clock.1) := by
  unfold step at hget
  cases hok : apply env db call clock with
  | error message =>
    simp only [hok] at hget
    exact .inl hget
  | ok db' =>
    simp only [hok] at hget
    obtain ⟨session, updated, hsess, hrevision, hupd, rfl⟩ := mutate_ok.mp (happly ▸ hok)
    rw [committed_get?] at hget
    split at hget
    · next heq =>
      refine .inr ⟨session, updated, hsess, hrevision, hupd, ?_, (Option.some.inj hget).symm⟩
      rw [heq, show (written updated clock.1).id = session.id from hid session updated hupd]
      exact get?_of_getSessionCore hstore hsess
    · exact .inl hget

end Transaction

variable {recoveredAt : JsString}

/-- The recovery of sessions, one after another, changes these and no others. -/
theorem recover_each {input : RecoverInput} {reason : JsString}
    {l : List AppServerSessionRecord} (hl : (l.map (·.id)).Nodup) {t t' : SessionTables}
    (h : l.foldlM (recoverSession env input recoveredAt reason) t = .ok t') :
    (∀ session ∈ l, (textOf? recoveredAt).isSome = true ∧ ∃ summary,
      t'.sessions.get? session.id =
        some (storedSessionDocument (recoveredRecord reason recoveredAt summary session))) ∧
    ∀ id, (∀ session ∈ l, session.id ≠ id) → t'.sessions.get? id = t.sessions.get? id := by
  induction l generalizing t with
  | nil =>
    cases h
    exact ⟨fun session hmem => absurd hmem List.not_mem_nil, fun _ _ => rfl⟩
  | cons first l ih =>
    rw [List.foldlM_cons] at h
    obtain ⟨t₁, hfirst, h⟩ := exceptBind_ok.mp h
    obtain ⟨htime, summary, events, rfl⟩ := recoverSession_ok hfirst
    rw [List.map_cons, List.nodup_cons] at hl
    obtain ⟨hrecov, hsame⟩ := ih hl.2 h
    constructor
    · intro session hmem
      rcases List.mem_cons.mp hmem with rfl | hmem
      · refine ⟨htime, summary, ?_⟩
        rw [hsame]
        · exact JsMap.get?_set_self _ _ _
        · exact fun other hother heq => hl.1 (List.mem_map.mpr ⟨other, hother, heq⟩)
      · exact hrecov session hmem
    · intro id hid
      rw [hsame id fun session hmem => hid session (List.mem_cons_of_mem _ hmem)]
      exact (JsMap.get?_set _ _ _ _).trans (if_neg fun heq => hid first List.mem_cons_self heq.symm)

theorem recover_exists {input : RecoverInput} (reason : JsString)
    (h : (textOf? recoveredAt).isSome = true) (l : List AppServerSessionRecord) (t : SessionTables) :
    ∃ t', l.foldlM (recoverSession env input recoveredAt reason) t = .ok t' := by
  induction l generalizing t with
  | nil => exact ⟨t, rfl⟩
  | cons first l ih =>
    obtain ⟨t₁, hfirst⟩ := recoverSession_exists t input reason first h
    obtain ⟨t', hrest⟩ := ih t₁
    exact ⟨t', by rw [List.foldlM_cons]; exact exceptBind_ok.mpr ⟨t₁, hfirst, hrest⟩⟩

/-- The sessions that a recovery is about. -/
def interrupted (db : SessionTables) (workspaceId : Text) : List AppServerSessionRecord :=
  db.sessions.values.filter fun session => session.workspaceId = workspaceId ∧ session.status = .active

theorem mem_interrupted (hstore : Stored db) {workspaceId : Text}
    : session ∈ interrupted db workspaceId ↔
      db.sessions.get? session.id = some session ∧ session.workspaceId = workspaceId ∧
        session.status = .active := by
  rw [interrupted, List.mem_filter, decide_eq_true_eq]
  refine and_congr_left fun _ => ?_
  constructor
  · intro hmem
    obtain ⟨id, hget⟩ := JsMap.exists_get?_of_mem_values hmem
    rw [(hstore id session hget).1]
    exact hget
  · exact JsMap.mem_values_of_get?

theorem interrupted_nodup (hstore : Stored db) (workspaceId : Text) :
    ((interrupted db workspaceId).map (·.id)).Nodup := by
  have hkeys : db.sessions.values.map (·.id) = db.sessions.entries.map Prod.fst := by
    rw [JsMap.values, List.map_map]
    exact List.map_congr_left fun e he => (hstore e.1 e.2 (JsMap.get?_of_mem he)).1
  have hnodup : (db.sessions.values.map (·.id)).Nodup := hkeys ▸ db.sessions.nodup
  exact hnodup.sublist (List.filter_sublist.map _)

theorem beginAttempt_id
    (h : beginAttemptUpdate input clock session = .ok updated) : updated.id = session.id := by
  obtain ⟨-, summary, id, rfl⟩ := beginAttemptUpdate_ok h
  rfl

theorem importCapture_apply {clock : Text}
    {input : ImportAppServerSessionCaptureInput} {capture : List (JsString × Json)}
    (hdecode : decodeCapture input.capture = .ok capture) :
    apply env db (.importCapture sessionId input) clock =
      mutate env db sessionId input.expectedRevision clock.1 (importUpdate env input capture clock) := by
  show decodeCapture input.capture >>= _ = _
  rw [hdecode]
  rfl

theorem Accepts.step (hstore : Stored db) {clock : Text}
    (hdone : (activityOf session).Settled env) (h : Accepts env db clock call session change) :
    ∃ next, (step env db (call, clock)).sessions.get? session.id = some next ∧
      activityOf next = (activityOf session).after change := by
  cases h with
  | beginAttempt hget hrevision hinactive hsummary hid =>
    obtain ⟨updated, hupd⟩ := beginAttemptUpdate_exists.mpr ⟨hinactive, hsummary, hid⟩
    refine ⟨_, step_mutate rfl hget hrevision hupd (beginAttempt_id hupd), ?_⟩
    rw [activityOf_stored, activityOf_written, beginAttempt_activity hdone hupd]
  | transition hget hrevision htexts =>
    obtain ⟨updated, hupd⟩ := transitionUpdate_exists.mpr htexts
    refine ⟨_, step_mutate rfl hget hrevision hupd (transitionUpdate_ok hupd).id, ?_⟩
    rw [activityOf_stored, activityOf_written, transition_activity hdone hupd]
  | importCapture hdecode hget hrevision htarget hprofile =>
    obtain ⟨id, -, hstoredGet⟩ := getSessionCore_ok.mp hget
    have hatt := List.getElem?_eq_getElem (importTarget_lt htarget)
    have hbare := (hstore id session hstoredGet).2 _ (List.getElem_mem (importTarget_lt htarget))
    have hupd : importUpdate env _ _ clock session = .ok _ := importUpdate_ok.mpr
      ⟨_, _, htarget, hatt, by rw [hbare]; rfl, hprofile, rfl⟩
    refine ⟨_, step_mutate (importCapture_apply hdecode) hget hrevision hupd rfl, ?_⟩
    rw [activityOf_stored, activityOf_written, imported_activity hdone]
  | @recoverInterrupted input _ hworkspace hget hactive htime =>
    obtain ⟨workspaceId, hid⟩ := (requiredString_isOk input.workspaceId (js "Workspace id")).mpr
      (by rw [hworkspace]; rfl)
    have hsame := Option.some.inj ((requiredString_ok.mp hid).symm.trans hworkspace)
    obtain ⟨t', hrecover⟩ := recover_exists
      (((input.reason.bind textOf?).map (·.1)).getD (js "workspace_open")) htime
      (interrupted db workspaceId) db
    have hok : apply env db (.recoverInterrupted input) clock = .ok t' :=
      exceptBind_ok.mpr ⟨workspaceId, hid, hrecover⟩
    have hmem : session ∈ interrupted db workspaceId :=
      (mem_interrupted hstore).mpr ⟨hget, hsame.symm, hactive⟩
    obtain ⟨-, summary, hnext⟩ := (recover_each (interrupted_nodup hstore workspaceId) hrecover).1 session hmem
    refine ⟨_, by rw [step_of_ok hok]; exact hnext, ?_⟩
    rw [activityOf_stored, recovered_activity hdone hactive]

theorem step_activity (hstore : Stored db)
    (hdone : ∀ id session, db.sessions.get? id = some session → (activityOf session).Settled env)
    {clock : Text} {id : Text} (hget : (step env db (call, clock)).sessions.get? id = some next) :
    (∃ session change, db.sessions.get? id = some session ∧ Accepts env db clock call session change ∧
        activityOf next = (activityOf session).after change) ∨
      (∃ session, db.sessions.get? id = some session ∧ activityOf next = activityOf session) ∨
      ∃ now, activityOf next = ⟨.active, [.active], some [⟨now, none⟩]⟩ := by
  cases call with
  | beginAttempt sessionId input =>
    rcases step_mutate_cases hstore rfl (fun _ _ => beginAttempt_id) hget with hsame |
      ⟨session, updated, hsess, hrevision, hupd, hthere, rfl⟩
    · exact .inr (.inl ⟨next, hsame, rfl⟩)
    · obtain ⟨hinactive, hsummary, hid⟩ := beginAttemptUpdate_exists.mp ⟨updated, hupd⟩
      refine .inl ⟨session, _, hthere, .beginAttempt hsess hrevision hinactive hsummary hid, ?_⟩
      rw [activityOf_stored, activityOf_written, beginAttempt_activity (hdone id session hthere) hupd]
  | transition sessionId input =>
    rcases step_mutate_cases hstore rfl (fun _ _ h => (transitionUpdate_ok h).id) hget with hsame |
      ⟨session, updated, hsess, hrevision, hupd, hthere, rfl⟩
    · exact .inr (.inl ⟨next, hsame, rfl⟩)
    · refine .inl ⟨session, _, hthere,
        .transition hsess hrevision (transitionUpdate_exists.mp ⟨updated, hupd⟩), ?_⟩
      rw [activityOf_stored, activityOf_written, transition_activity (hdone id session hthere) hupd]
  | importCapture sessionId input =>
    cases hdecode : decodeCapture input.capture with
    | error message =>
      have hfail : apply env db (.importCapture sessionId input) clock = .error message := by
        show decodeCapture input.capture >>= _ = _
        rw [hdecode]
        rfl
      simp only [step, hfail] at hget
      exact .inr (.inl ⟨next, hget, rfl⟩)
    | ok capture =>
      have hid : ∀ session updated, importUpdate env input capture clock session = .ok updated →
          updated.id = session.id := by
        intro session updated hupd
        obtain ⟨_, _, -, -, -, -, rfl⟩ := importUpdate_ok.mp hupd
        rfl
      rcases step_mutate_cases hstore (importCapture_apply hdecode) hid hget with hsame |
        ⟨session, updated, hsess, hrevision, hupd, hthere, rfl⟩
      · exact .inr (.inl ⟨next, hsame, rfl⟩)
      · obtain ⟨index, attempt, htarget, -, -, hprofile, rfl⟩ := importUpdate_ok.mp hupd
        refine .inl ⟨session, _, hthere,
          .importCapture hdecode hsess hrevision htarget hprofile, ?_⟩
        rw [activityOf_stored, activityOf_written, imported_activity (hdone id session hthere)]
  | create input =>
    unfold step at hget
    cases hok : apply env db (.create input) clock with
    | error message =>
      simp only [hok] at hget
      exact .inr (.inl ⟨next, hget, rfl⟩)
    | ok db' =>
      simp only [hok] at hget
      obtain ⟨record, -, rfl, hst, ⟨attempt, hatts, hatt⟩, hints⟩ := create_ok hok
      rw [JsMap.get?_set] at hget
      split at hget
      · refine .inr (.inr ⟨input.createdAt.getD clock.1, ?_⟩)
        rw [← Option.some.inj hget, activityOf_stored, activityOf, hst, hatts, hints]
        simp [hatt]
      · exact .inr (.inl ⟨next, hget, rfl⟩)
  | appendEvent sessionId event =>
    unfold step at hget
    cases hok : apply env db (.appendEvent sessionId event) clock with
    | error message =>
      simp only [hok] at hget
      exact .inr (.inl ⟨next, hget, rfl⟩)
    | ok db' =>
      simp only [hok] at hget
      obtain ⟨session, title, events, hsess, rfl⟩ := appendEvent_ok hok
      rw [JsMap.get?_set] at hget
      split at hget
      · next heq =>
        refine .inr (.inl ⟨session, heq ▸ get?_of_getSessionCore hstore hsess, ?_⟩)
        rw [← Option.some.inj hget, activityOf_stored]
        rfl
      · exact .inr (.inl ⟨next, hget, rfl⟩)
  | recoverInterrupted input =>
    unfold step at hget
    cases hok : apply env db (.recoverInterrupted input) clock with
    | error message =>
      simp only [hok] at hget
      exact .inr (.inl ⟨next, hget, rfl⟩)
    | ok db' =>
      simp only [hok] at hget
      obtain ⟨workspaceId, hworkspace, hrecover⟩ := exceptBind_ok.mp hok
      obtain ⟨hrecov, hsame⟩ := recover_each (interrupted_nodup hstore workspaceId) hrecover
      by_cases hmem : ∃ session ∈ interrupted db workspaceId, session.id = id
      · obtain ⟨session, hmem, rfl⟩ := hmem
        obtain ⟨hthere, hws', hactive⟩ := (mem_interrupted hstore).mp hmem
        obtain ⟨htime, summary, hnext⟩ := hrecov session hmem
        refine .inl ⟨session, _, hthere, .recoverInterrupted
          (hws' ▸ requiredString_ok.mp hworkspace) hthere hactive htime, ?_⟩
        rw [hnext] at hget
        rw [← Option.some.inj hget, activityOf_stored,
          recovered_activity (hdone _ session hthere) hactive]
      · rw [hsame id fun session hsess heq => hmem ⟨session, hsess, heq⟩] at hget
        exact .inr (.inl ⟨next, hget, rfl⟩)

/-! ## Runs -/

variable (env) in
def SoundAfter (db : SessionTables) (i : SessionCall × Text) : Prop :=
  ∀ id session, (step env db i).sessions.get? id = some session → (activityOf session).Sound env

variable (env) in
def KeepsSound (db : SessionTables) (i : SessionCall × Text) : Prop :=
  ∀ session change, Accepts env db i.2 i.1 session change → (activityOf session).Keeps env change

variable (env) in
/-- What sound runs keep of the tables. -/
structure SettledSessions (db : SessionTables) : Prop where
  stored : Stored db
  settled : ∀ id session, db.sessions.get? id = some session → (activityOf session).Settled env

theorem settledSessions_new : SettledSessions env .new := by
  refine ⟨stored_new, fun id session hget => ?_⟩
  rw [show SessionTables.new.sessions.get? id = none from JsMap.get?_empty id] at hget
  cases hget

/-- The activity of a new session. -/
theorem settled_created (now : JsString) :
    Activity.Settled env ⟨.active, [.active], some [⟨now, none⟩]⟩ := by
  refine ⟨⟨[], .active, rfl, nofun, Iff.rfl⟩, [], ⟨now, none⟩, rfl, ⟨?_, .singleton _⟩, by simp⟩
  intro interval hinterval e he
  cases List.mem_singleton.mp hinterval
  cases he

theorem step_stored (h : Stored db) (i : SessionCall × Text) : Stored (step env db i) := by
  unfold step
  cases hok : apply env db i.1 i.2 with
  | error message => exact h
  | ok db' => exact (apply_captures h hok).stored

theorem Accepts.stored (hstore : Stored db) {clock : Text}
    (h : Accepts env db clock call session change) : db.sessions.get? session.id = some session := by
  cases h with
  | beginAttempt hget _ _ _ _ | transition hget _ _ | importCapture _ hget _ _ _ =>
    exact get?_of_getSessionCore hstore hget
  | recoverInterrupted _ hget _ _ => exact hget

/-- The sessions after a call are settled if its changes meet the condition. -/
theorem step_settled (h : SettledSessions env db) {i : SessionCall × Text}
    (hkeeps : KeepsSound env db i) : SettledSessions env (step env db i) := by
  refine ⟨step_stored h.stored i, fun id next hget => ?_⟩
  rcases step_activity h.stored h.settled hget with ⟨session, change, hthere, haccepts, hnext⟩ |
    ⟨session, hthere, hnext⟩ | ⟨now, hnext⟩
  · have hdone := h.settled id session hthere
    rw [hnext]
    exact hdone.after (haccepts.allows hdone) (hkeeps session change haccepts)
  · rw [hnext]
    exact h.settled id session hthere
  · rw [hnext]
    exact settled_created now

/-- In settled tables, the sessions after a call are sound exactly if its changes meet the
condition. -/
theorem soundAfter_iff (h : SettledSessions env db) (i : SessionCall × Text) :
    SoundAfter env db i ↔ KeepsSound env db i := by
  constructor
  · intro hsound session change haccepts
    have hdone := h.settled _ session (haccepts.stored h.stored)
    obtain ⟨next, hget, hnext⟩ := haccepts.step h.stored hdone
    exact hdone.keeps (haccepts.allows hdone) (hnext ▸ hsound _ next hget)
  · exact fun hkeeps id session hget => ((step_settled h hkeeps).settled id session hget).sound

/-- In a run of calls the sessions are sound in every state exactly if every change that is
accepted moves what is active with the last attempt, at a time that is not before the last one. -/
theorem activity_sound_iff (env : SessionPlatform) (calls : List (SessionCall × Text)) :
    RunMeets (step env) (SoundAfter env) .new calls ↔ RunMeets (step env) (KeepsSound env) .new calls :=
  runMeets_iff_of_invariant (I := SettledSessions env) (fun _ i h => soundAfter_iff h i)
    (fun _ _ h hkeeps => step_settled h hkeeps) settledSessions_new calls

/-- The four seconds of a run. -/
def second (n : Fin 4) : Text :=
  match n with
  | 0 => importTime
  | 1 => ⟨js "2026-07-01T00:00:01.000Z", by decide⟩
  | 2 => ⟨js "2026-07-01T00:00:02.000Z", by decide⟩
  | 3 => ⟨js "2026-07-01T00:00:03.000Z", by decide⟩

/-- A platform that reads the times of the run. -/
def clockPlatform : SessionPlatform :=
  { plainPlatform with
    dateParse := fun text =>
      ((List.finRange 4).find? fun n => (second n).1 = text).map fun n => 1782864000000 + 1000 * n.val }

/-- A session is completed and resumed with a second attempt, and then the capture of the first
attempt is imported. -/
def lateCapture : List (SessionCall × Text) :=
  [(.create {
      id := js "session", workspaceId := js "workspace", attemptId := js "first"
      title := js "Title", prompt := js "Prompt", provider := none, model := js "model"
      reasoningEffort := js "high", workflowId := none, profile := none, metadata := []
      attemptMetadata := [], createdAt := none }, second 0),
    (.transition (js "session") {
      status := .completed, summary := js "Done.", attemptId := some (js "first")
      expectedRevision := none, disposition := none, metadata := [], configuration := none
      time := none }, second 1),
    (.beginAttempt (js "session") {
      attemptId := js "second", parentAttemptId := some (js "first"), summary := js "Resumed."
      expectedRevision := none, startedAt := none, metadata := [] }, second 2),
    (.importCapture (js "session")
      ⟨js "first", captureOf (js "complete"), none, fun _ => second 3⟩, second 3)]

/-- The session is completed while its last attempt is active. -/
theorem late_capture_unsound :
    ((runSteps (step clockPlatform) .new lateCapture).sessions.get? ⟨js "session", by decide⟩).map
        (fun session => (session.status, session.attempts.map (·.status))) =
      some (.completed, [.completed, .active]) ∧
    ¬RunMeets (step clockPlatform) (SoundAfter clockPlatform) .new lateCapture := by
  have hstatuses : ((runSteps (step clockPlatform) .new lateCapture).sessions.get?
      ⟨js "session", by decide⟩).map (fun session => (session.status, session.attempts.map (·.status))) =
      some (.completed, [.completed, .active]) := by decide +kernel
  refine ⟨hstatuses, fun hmeets => ?_⟩
  obtain ⟨-, -, -, hsound, -⟩ := hmeets
  obtain ⟨session, hget, hsession⟩ := Option.map_eq_some_iff.mp hstatuses
  obtain ⟨hstatus, hattempts⟩ := Prod.mk.inj hsession
  have hiff := (hsound _ session hget).attempts
  rw [show (activityOf session).status = .completed from hstatus,
    show (activityOf session).attempts = [.completed] ++ [.active] from hattempts,
    onlyLastActive_concat] at hiff
  exact absurd (hiff.mpr ⟨rfl, by simp⟩) nofun

end Beale.Sessions
