import Beale.Track.Boundary

/-!
# The attempts on a claim's revision

An attempt is counted when it is reserved. The books of a run compare the counts with the
attempts that were finished, and with what was counted before each reservation.
-/

namespace Beale.Track

open Beale.Library Beale.Findings

def attemptsOn (attempts : Attempts) (key : AttemptKey) (revision : Nat) : Nat :=
  match attempts.get? key with
  | some row => if row.claimRevision = revision then row.attemptsOnRevision else 0
  | none => 0

def lastAssigning (log : List Reservation) (key : AttemptKey) : Option Reservation :=
  log.reverse.find? fun r => r.assignments.any fun a => (a.role, a.claimId) = key

def FunnelEvent.settles? : FunnelEvent → Option JsString
  | .finish sessionId _ => some sessionId
  | .cancel sessionId => some sessionId
  | _ => none

namespace Funnel

/-- Whether an event is carried out: a finish is rolled back where its date is out of range. -/
def carriesOut (workspaceId : JsString) (f : Funnel) : FunnelEvent → Bool
  | .finish sessionId now => (finishSession f.findings.store workspaceId f.tables sessionId now).isOk
  | _ => true

def finishes (workspaceId : JsString) (f : Funnel) (event : FunnelEvent) (key : AttemptKey)
    (revision : Nat) : Bool :=
  match event with
  | .finish sessionId _ => f.carriesOut workspaceId event &&
      (f.tables.attempts.get? key).any fun row =>
        row.activeSessionId = some sessionId && row.claimRevision = revision
  | _ => false

def finishedAttempts (env : TrackPlatform) (workspaceId : JsString) (key : AttemptKey)
    (revision : Nat) : Funnel → List FunnelEvent → Nat
  | _, [] => 0
  | f, event :: rest => (f.finishes workspaceId event key revision).toNat +
      finishedAttempts env workspaceId key revision (f.step env workspaceId event) rest

end Funnel

/-- What the attempts of a funnel keep, beside the numbers of the finished ones. -/
structure AttemptsKept (env : TrackPlatform) (workspaceId : JsString) (f : Funnel)
    (finished : AttemptKey → Nat → Nat) : Prop where
  /-- A cancelled reservation has not been counted. -/
  restored : ∀ key row sessionId, f.tables.attempts.get? key = some row →
    row.activeSessionId = some sessionId → ∃ r, lastAssigning f.log key = some r ∧
      r.call.sessionId = sessionId ∧
      (∃ a ∈ r.assignments, (a.role, a.claimId) = key ∧ a.claimRevision = row.claimRevision) ∧
      attemptsOn (cancelSession f.tables sessionId).attempts key row.claimRevision =
        attemptsOn r.before.attempts key row.claimRevision
  /-- A chain analyst is given no revision with two finished attempts. -/
  tried : ∀ call, ∀ a ∈ (f.reservation env workspaceId call).assignments, a.role = .chainAnalyst →
    finished (a.role, a.claimId) a.claimRevision < 2
  /-- What a session does not hold it does not settle. -/
  apart : ∀ event sessionId key, event.settles? = some sessionId →
    heldBy f.tables.attempts key sessionId = false →
    (f.step env workspaceId event).tables.attempts.get? key = f.tables.attempts.get? key
  /-- Settling again changes nothing. -/
  once : ∀ event again, event.settles?.isSome = true → again.settles? = event.settles? →
    f.carriesOut workspaceId event = true →
    (f.step env workspaceId event).step env workspaceId again = f.step env workspaceId event

variable {env : TrackPlatform} {workspaceId sessionId : JsString} {attempts : Attempts}
  {tables tables' : FunnelTables} {key : AttemptKey} {row : AttemptRow}

/-! ## Settling -/

variable {f : Funnel} {event : FunnelEvent}

theorem step_settles (env : TrackPlatform) (workspaceId : JsString) (f : Funnel)
    (h : event.settles? = some sessionId) :
    f.carriesOut workspaceId event = false ∧ f.step env workspaceId event = f ∨
    f.carriesOut workspaceId event = true ∧ ∃ tables n, n ≤ 1 ∧
      f.step env workspaceId event = { f with tables } ∧
      Releases (·.activeSessionId = some sessionId) n f.tables.attempts tables.attempts ∧
      ∀ key revision, f.finishes workspaceId event key revision = true → n = 0 ∧
        ∃ row, f.tables.attempts.get? key = some row ∧ row.activeSessionId = some sessionId ∧
          row.claimRevision = revision := by
  cases event with
  | finding event => cases h
  | reserve call => cases h
  | finish session now =>
    cases h
    cases hfinish : finishSession f.findings.store workspaceId f.tables sessionId now with
    | error e => exact .inl ⟨by rw [Funnel.carriesOut, hfinish]; rfl, by simp only [Funnel.step, hfinish]⟩
    | ok tables =>
      refine .inr ⟨by rw [Funnel.carriesOut, hfinish]; rfl, tables, 0, by omega, ?_,
        finishSession_releases hfinish, fun key revision hfin => ⟨rfl, ?_⟩⟩
      · simp only [Funnel.step, hfinish]
      · simpa [Option.any_eq_true] using (Bool.and_eq_true_iff.mp hfin).2
  | cancel session =>
    cases h
    exact .inr ⟨rfl, _, 1, le_refl _, rfl, cancelSession_releases, nofun⟩

/-- A session that holds nothing settles nothing. -/
theorem step_of_idle (h : event.settles? = some sessionId)
    (hidle : ∀ key, heldBy f.tables.attempts key sessionId = false) :
    f.step env workspaceId event = f := by
  cases event with
  | finding event => cases h
  | reserve call => cases h
  | finish session now =>
    cases h
    have hnil : activeRows f.tables.attempts sessionId = [] := by
      refine List.eq_nil_iff_forall_not_mem.mpr fun item hitem => ?_
      have hheld := mem_activeRows.mp (List.mem_map_of_mem hitem)
      rw [hidle] at hheld
      cases hheld
    simp only [Funnel.step, finishSession, hnil]
    rfl
  | cancel session =>
    cases h
    have hsame : (cancelSession f.tables sessionId).attempts = f.tables.attempts := by
      ext1
      refine (List.map_congr_left fun item hitem => ?_).trans (List.map_id _)
      have hact : item.2.activeSessionId ≠ some sessionId := fun hact => by
        have hheld := heldBy_eq_true.mpr ⟨item.2, JsMap.get?_of_mem hitem, hact⟩
        rw [hidle] at hheld
        cases hheld
      simp only [if_neg hact]
      rfl
    show { f with tables := { f.tables with attempts := (cancelSession f.tables sessionId).attempts } } = f
    rw [hsame]

variable {attempts' : Attempts}

/-- The rows of other sessions are left, and none of the session's is held afterwards. -/
theorem Releases.settled {n : Nat}
    (h : Releases (·.activeSessionId = some sessionId) n attempts attempts') :
    heldBy attempts' key sessionId = false ∧
      (heldBy attempts key sessionId = false → attempts'.get? key = attempts.get? key) := by
  have hkey := h key
  unfold heldBy
  cases hold : attempts.get? key <;> cases hnew : attempts'.get? key <;> rw [hold, hnew] at hkey <;> cases hkey
  · exact ⟨rfl, fun _ => rfl⟩
  · next hrel =>
    rcases hrel with ⟨hact, -, hnone, -⟩ | ⟨hact, rfl⟩
    · simp [hact, hnone]
    · simp [hact]

/-! ## The books -/

/-- Whether a revision of a claim is assigned. -/
def isOpen (attempts : Attempts) (key : AttemptKey) (revision : Nat) : Bool :=
  (attempts.get? key).any fun row => row.activeSessionId.isSome && row.claimRevision = revision

/-- What is known of the attempts after every step. -/
structure AttemptBooks (f : Funnel) (finished : AttemptKey → Nat → Nat) : Prop where
  kept : Kept f.findings
  current : ∀ key row, f.tables.attempts.get? key = some row → ∃ claim,
    f.findings.store.claims.get? key.2 = some claim ∧ row.claimRevision ≤ claim.revision
  counted : ∀ key revision,
    (∀ row, f.tables.attempts.get? key = some row → row.claimRevision ≤ revision) →
    finished key revision + (isOpen f.tables.attempts key revision).toNat ≤
      attemptsOn f.tables.attempts key revision
  given : ∀ key row sessionId, f.tables.attempts.get? key = some row →
    row.activeSessionId = some sessionId → ∃ r, lastAssigning f.log key = some r ∧
      r.call.sessionId = sessionId ∧
      (∃ a ∈ r.assignments, (a.role, a.claimId) = key ∧ a.claimRevision = row.claimRevision) ∧
      row.attemptsOnRevision = attemptsOn r.before.attempts key row.claimRevision + 1

variable {finished finished' : AttemptKey → Nat → Nat}

theorem new_attemptBooks : AttemptBooks .new fun _ _ => 0 where
  kept := Pool.keeps_new logged_empty
  current _ _ h := by cases h
  counted _ _ _ := Nat.le_refl _
  given _ _ _ h := by cases h

variable {held : AttemptRow → Prop}

/-- A release: what was open is finished, or is counted no longer. -/
theorem AttemptBooks.release (h : AttemptBooks f finished) {n : Nat}
    (hn : n ≤ 1) (hrel : Releases held n f.tables.attempts tables.attempts)
    (hfin : ∀ key revision, finished' key revision ≤ finished key revision ∨
      n = 0 ∧ finished' key revision = finished key revision + 1 ∧
        ∃ row, f.tables.attempts.get? key = some row ∧ held row ∧ row.claimRevision = revision) :
    AttemptBooks { f with tables } finished' where
  kept := h.kept
  current key row' hrow' := by
    obtain ⟨row, hold, hone⟩ := hrel.row hrow'
    obtain ⟨claim, hclaim, hle⟩ := h.current key row hold
    rcases hone with ⟨-, -, -, hrev, -⟩ | ⟨-, rfl⟩
    · exact ⟨claim, hclaim, hrev ▸ hle⟩
    · exact ⟨claim, hclaim, hle⟩
  counted key revision hle := by
    have hkey := hrel key
    have hcount := h.counted key revision
    have hthis := hfin key revision
    unfold isOpen attemptsOn at *
    dsimp only at *
    cases hold : f.tables.attempts.get? key <;> cases hnew : tables.attempts.get? key <;>
      simp only [hold, hnew] at * <;> cases hkey
    · simp at hthis hcount ⊢
      omega
    · next row row' hone =>
      have hrow := hle row' rfl
      rcases hone with ⟨hheld, hact, hnone, hrev, hatt⟩ | ⟨hheld, rfl⟩
      · have hcount := hcount fun _ hsame => by cases hsame; exact hrev ▸ hrow
        by_cases heq : row.claimRevision = revision
        · simp [hact, hnone, hrev, heq, hatt] at hcount hthis ⊢
          omega
        · simp [hnone, hrev, heq] at hcount hthis ⊢
          omega
      · have hcount := hcount fun _ hsame => by cases hsame; exact hrow
        have hsame : finished' key revision ≤ finished key revision := by
          rcases hthis with hthis | ⟨-, -, other, hother, hheld', -⟩
          · exact hthis
          · cases hother
            exact absurd hheld' hheld
        omega
  given key row' sessionId hrow' hact := by
    obtain ⟨row, hold, ⟨-, -, hnone, -⟩ | ⟨-, rfl⟩⟩ := hrel.row hrow'
    · cases hact.symm.trans hnone
    · exact h.given key _ sessionId hold hact

theorem attemptsOn_releases
    (h : Releases held 0 attempts attempts') (key : AttemptKey) (revision : Nat) :
    attemptsOn attempts' key revision = attemptsOn attempts key revision := by
  have hkey := h key
  unfold attemptsOn
  cases hold : attempts.get? key <;> cases hnew : attempts'.get? key <;> rw [hold, hnew] at hkey <;> cases hkey
  next hone =>
    rcases hone with ⟨-, -, -, hrev, hatt⟩ | ⟨-, rfl⟩
    · simp only [hrev, hatt, Nat.sub_zero]
    · rfl

/-! ## Reservations -/

variable {epoch : Int} {now : JsString} {selected : List (TrackWorkerRole × FindingSummary)}

theorem assigned_attempts (role : TrackWorkerRole) (claim : FindingSummary) :
    (assigned attempts sessionId epoch now role claim).attemptsOnRevision =
      attemptsOn attempts (role, claim.id) claim.revision + 1 := by
  unfold assigned attemptsOn
  cases attempts.get? (role, claim.id) with
  | none => rfl
  | some row =>
    dsimp only
    split <;> rfl

theorem selectedFor_claim {db : Database} {call : ReserveCall} {role : TrackWorkerRole}
    {claim : FindingSummary} (h : (role, claim) ∈ selectedFor env db workspaceId tables call) :
    (∃ row, db.claims.get? claim.id = some row ∧ row.revision = claim.revision) ∧
      eligible (supersede tables.attempts call.sessionId call.epoch)
        (toISOString call.checkedAt.1) role claim = true := by
  obtain ⟨hclaim, -, heligible⟩ :=
    mem_eligiblePools.mp (mem_pairs.mp ((selectWorkers_subperm _ _ _).subset h))
  obtain ⟨item, hitem, rfl⟩ := List.mem_map.mp (List.mem_filter.mp hclaim).1
  have hentry := (List.mem_filter.mp ((List.perm_insertionSort _ _).mem_iff.mp hitem)).1
  exact ⟨⟨item.2, JsMap.get?_of_mem hentry, rfl⟩, heligible⟩

theorem lastAssigning_concat (log : List Reservation) (r : Reservation) (key : AttemptKey) :
    lastAssigning (log ++ [r]) key =
      if ∃ a ∈ r.assignments, (a.role, a.claimId) = key then some r else lastAssigning log key := by
  unfold lastAssigning
  rw [List.reverse_append, List.reverse_singleton, List.singleton_append, List.find?_cons]
  split
  · next h => rw [if_pos (by simpa using h)]
  · next h => rw [if_neg (by simpa using h)]

theorem reservation_cases (env : TrackPlatform) (workspaceId : JsString) (f : Funnel)
    (call : ReserveCall) :
    let r := f.reservation env workspaceId call
    let selected := selectedFor env f.findings.store workspaceId f.tables call
    r.assignments = [] ∧ r.after = f.tables ∨
    r.assignments = (selected.map fun item => ⟨item.1, item.2.id, item.2.revision, item.2.surfaceId⟩) ∧
      r.after.attempts = insertAssigned (supersede f.tables.attempts call.sessionId call.epoch)
        call.sessionId call.epoch (toISOString call.assignedAt.1) selected := by
  unfold Reservation.assignments Funnel.reservation
  dsimp only
  rcases reserveForSession_cases env f.findings.store workspaceId f.tables call with
    ⟨-, hres⟩ | ⟨-, cutoffs, -, hres⟩
  · rw [hres]
    exact .inl ⟨rfl, rfl⟩
  · rw [hres]
    exact .inr ⟨rfl, rfl⟩

theorem AttemptBooks.reserve (h : AttemptBooks f finished) (call : ReserveCall) :
    AttemptBooks (f.step env workspaceId (.reserve call)) finished := by
  have hstep : f.step env workspaceId (.reserve call) =
      { f with
        tables := (f.reservation env workspaceId call).after
        log := f.log ++ [f.reservation env workspaceId call] } := rfl
  rcases reservation_cases env workspaceId f call with ⟨hnone, hafter⟩ | ⟨hassigned, hafter⟩
  · rw [hstep, hafter]
    refine ⟨h.kept, h.current, h.counted, fun key row sessionId hrow hact => ?_⟩
    rw [lastAssigning_concat, hnone, if_neg nofun]
    exact h.given key row sessionId hrow hact
  · have hprior : AttemptBooks { f with tables := { f.tables with
        attempts := supersede f.tables.attempts call.sessionId call.epoch } } finished :=
      h.release (Nat.zero_le 1) supersede_releases fun _ _ => .inl (Nat.le_refl _)
    have hrows := fun key => JsMap.get?_foldl_set (fun item => (item.1, item.2.id))
      (fun item => assigned (supersede f.tables.attempts call.sessionId call.epoch) call.sessionId
        call.epoch (toISOString call.assignedAt.1) item.1 item.2)
      (selectedFor env f.findings.store workspaceId f.tables call)
      (supersede f.tables.attempts call.sessionId call.epoch) key
    change ∀ key, (∃ item ∈ selectedFor env f.findings.store workspaceId f.tables call,
      _ ∧ (insertAssigned _ _ _ _ _).get? key = _) ∨ _ ∧ (insertAssigned _ _ _ _ _).get? key = _ at hrows
    rw [← hafter] at hrows
    rw [hstep]
    refine ⟨h.kept, fun key row hrow => ?_, fun key revision hle => ?_, fun key row sessionId hrow hact => ?_⟩
    · rcases hrows key with ⟨item, hitem, rfl, hget⟩ | ⟨-, hget⟩
      · cases hget.symm.trans hrow
        obtain ⟨⟨claim, hclaim, hrev⟩, -⟩ := selectedFor_claim hitem
        exact ⟨claim, hclaim, hrev.ge⟩
      · exact hprior.current key row (hget.symm.trans hrow)
    · have hcount := hprior.counted key revision
      rcases hrows key with ⟨item, hitem, rfl, hget⟩ | ⟨-, hget⟩
      · -- the claim's own revision is not behind that of the prior row
        obtain ⟨⟨claim, hclaim, hrev⟩, -⟩ := selectedFor_claim hitem
        have hnow := hle _ hget
        have hbehind : ∀ row, (supersede f.tables.attempts call.sessionId call.epoch).get?
            (item.1, item.2.id) = some row → row.claimRevision ≤ item.2.revision := fun row hrow => by
          obtain ⟨claim', hclaim', hle'⟩ := hprior.current _ row hrow
          cases hclaim'.symm.trans hclaim
          exact hrev ▸ hle'
        have hcount := hcount fun row hrow => (hbehind row hrow).trans hnow
        rw [isOpen, attemptsOn, hget]
        show _ + (decide (item.2.revision = revision)).toNat ≤
          if item.2.revision = revision then (assigned _ _ _ _ _ _).attemptsOnRevision else 0
        rw [assigned_attempts]
        split
        · next heq =>
          subst heq
          rw [decide_eq_true rfl]
          exact Nat.succ_le_succ ((Nat.le_add_right _ _).trans hcount)
        · next hne =>
          have hnil : attemptsOn (supersede f.tables.attempts call.sessionId call.epoch)
              (item.1, item.2.id) revision = 0 := by
            unfold attemptsOn
            split
            · next row hrow =>
              have hle' := hbehind row hrow
              exact if_neg (by change item.2.revision ≤ revision at hnow; omega)
            · rfl
          rw [decide_eq_false hne]
          exact (Nat.le_add_right _ _).trans (hcount.trans hnil.le)
      · unfold isOpen attemptsOn at hcount ⊢
        simp only [hget] at hle ⊢
        exact hcount hle
    · rw [lastAssigning_concat, hassigned]
      rcases hrows key with ⟨item, hitem, rfl, hget⟩ | ⟨hnone, hget⟩
      · cases hget.symm.trans hrow
        cases hact
        rw [if_pos ⟨_, List.mem_map_of_mem hitem, rfl⟩]
        refine ⟨_, rfl, rfl, ⟨_, hassigned ▸ List.mem_map_of_mem hitem, rfl, rfl⟩, ?_⟩
        rw [assigned_attempts, attemptsOn_releases supersede_releases]
        rfl
      · rw [if_neg]
        · exact hprior.given key row sessionId (hget.symm.trans hrow) hact
        · rintro ⟨a, ha, hkey⟩
          obtain ⟨item, hitem, rfl⟩ := List.mem_map.mp ha
          exact hnone item hitem hkey

/-! ## Every run -/

theorem step_attemptBooks (env : TrackPlatform) (workspaceId : JsString) (h : AttemptBooks f finished)
    (event : FunnelEvent) :
    AttemptBooks (f.step env workspaceId event) fun key revision =>
      finished key revision + (f.finishes workspaceId event key revision).toNat := by
  have hsettled : ∀ sessionId, event.settles? = some sessionId →
      AttemptBooks (f.step env workspaceId event) fun key revision =>
        finished key revision + (f.finishes workspaceId event key revision).toNat := by
    intro sessionId hsettles
    rcases step_settles env workspaceId f hsettles with
      ⟨hout, hsame⟩ | ⟨-, tables, n, hn, hstep, hrel, hfin⟩
    · have hnone : ∀ key revision, f.finishes workspaceId event key revision = false := by
        intro key revision
        cases event <;> first | rfl | exact (congrArg (· && _) hout).trans (Bool.false_and _)
      simp only [hsame, hnone]
      exact h
    · rw [hstep]
      refine h.release hn hrel fun key revision => ?_
      cases hone : f.finishes workspaceId event key revision with
      | false => exact .inl (Nat.le_refl _)
      | true => exact .inr ⟨(hfin key revision hone).1, rfl, (hfin key revision hone).2⟩
  cases event with
  | finding event =>
    refine ⟨step_kept h.kept event, fun key row hrow => ?_, h.counted, h.given⟩
    obtain ⟨claim, hclaim, hle⟩ := h.current key row hrow
    rcases Findings.step_cases h.kept event with hquiet | ⟨k, call, op, body, next, -, -, hadvance⟩
    · exact ⟨claim, by rw [Funnel.step, hquiet]; exact hclaim, hle⟩
    · obtain ⟨claim', hclaim', hle', -⟩ := hadvance.later _ claim hclaim
      exact ⟨claim', hclaim', hle.trans hle'⟩
  | reserve call => exact h.reserve call
  | finish sessionId now => exact hsettled sessionId rfl
  | cancel sessionId => exact hsettled sessionId rfl

theorem run_attemptBooks (env : TrackPlatform) (workspaceId : JsString) (h : AttemptBooks f finished)
    (events : List FunnelEvent) :
    AttemptBooks (runSteps (Funnel.step env workspaceId) f events) fun key revision =>
      finished key revision + Funnel.finishedAttempts env workspaceId key revision f events := by
  induction events generalizing f finished with
  | nil => exact h
  | cons event rest ih =>
    have hrest := ih (step_attemptBooks env workspaceId h event)
    simp only [Nat.add_assoc] at hrest
    exact hrest

theorem AttemptBooks.attemptsKept (h : AttemptBooks f finished) :
    AttemptsKept env workspaceId f finished where
  restored key row sessionId hrow hact := by
    obtain ⟨r, hlast, hsess, hgiven, hcount⟩ := h.given key row sessionId hrow hact
    refine ⟨r, hlast, hsess, hgiven, ?_⟩
    rw [attemptsOn, cancelSession, JsMap.get?_mapValues, hrow]
    simp [hact, hcount]
  tried call a ha hrole := by
    rcases reservation_cases env workspaceId f call with ⟨hnone, -⟩ | ⟨hassigned, -⟩
    · rw [hnone] at ha
      cases ha
    rw [hassigned] at ha
    obtain ⟨item, hitem, rfl⟩ := List.mem_map.mp ha
    obtain ⟨⟨claim, hclaim, hrev⟩, heligible⟩ := selectedFor_claim hitem
    by_contra htwo
    have hcount := h.counted (item.1, item.2.id) item.2.revision fun row hrow => by
      obtain ⟨claim', hclaim', hle⟩ := h.current _ row hrow
      cases hclaim'.symm.trans hclaim
      exact hrev ▸ hle
    have hsuperseded : Releases _ 0 f.tables.attempts (supersede f.tables.attempts call.sessionId call.epoch) :=
      supersede_releases
    rw [← attemptsOn_releases hsuperseded] at hcount
    have htried : 2 ≤ attemptsOn (supersede f.tables.attempts call.sessionId call.epoch)
        (item.1, item.2.id) item.2.revision :=
      (not_lt.mp htwo).trans ((Nat.le_add_right _ _).trans hcount)
    unfold attemptsOn at htried
    unfold eligible at heligible
    split at htried
    · next row hrow =>
      rw [hrow] at heligible
      split at htried
      · next hsame =>
        have hrole : item.1 = .chainAnalyst := hrole
        simp [hsame, hrole, htried] at heligible
      · omega
    · omega
  apart event sessionId key hsettles hheld := by
    rcases step_settles env workspaceId f hsettles with
      ⟨-, hsame⟩ | ⟨-, tables, n, -, hstep, hrel, -⟩
    · rw [hsame]
    · rw [hstep]
      exact hrel.settled.2 hheld
  once event again hsettles hagain hout := by
    obtain ⟨sessionId, hsettles⟩ := Option.isSome_iff_exists.mp hsettles
    rcases step_settles env workspaceId f hsettles with
      ⟨hnot, -⟩ | ⟨-, tables, n, -, hstep, hrel, -⟩
    · cases hout.symm.trans hnot
    · refine step_of_idle (hagain.trans hsettles) fun key => ?_
      rw [hstep]
      exact hrel.settled.1

/-- In every run, the attempts are kept beside the finished ones. -/
theorem reached_attemptsKept (env : TrackPlatform) (workspaceId : JsString)
    (events : List FunnelEvent) :
    AttemptsKept env workspaceId (runSteps (Funnel.step env workspaceId) .new events)
      fun key revision => Funnel.finishedAttempts env workspaceId key revision .new events := by
  have hbooks := run_attemptBooks env workspaceId new_attemptBooks events
  simp only [Nat.zero_add] at hbooks
  exact hbooks.attemptsKept

end Beale.Track
