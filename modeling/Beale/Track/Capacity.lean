import Beale.Track.Reservations
import Mathlib.Data.List.Perm.Subperm

/-!
# The capacity of a track epoch

- `step_capacityKept`, `reached_capacityKept`: the capacity is kept while every reservation fits.
- `retried_reservation_exceeds_capacity`: a reservation that is tried again.
-/

namespace Beale.Track

open Beale.Library Beale.Findings

variable {env : TrackPlatform} {workspaceId : JsString}

/-- The number of workers of the latest reservation that was made for a session and an epoch. -/
def limitOf (log : List Reservation) (sessionId : JsString) (epoch : Int) : Int :=
  ((log.reverse.find? fun r => r.acceptedFor sessionId && r.call.epoch = epoch).map
    (·.call.maxWorkers)).getD 0

/-- The assignments of every epoch fit, and no claim is assigned twice. -/
structure CapacityKept (f : Funnel) : Prop where
  bounded : ∀ sessionId epoch, (active f.tables.attempts sessionId epoch).length ≤
    capacity (limitOf f.log sessionId epoch)
  exclusive : ∀ sessionId epoch, ((active f.tables.attempts sessionId epoch).map Prod.snd).Nodup

/-- The claims that wait for a worker when a call is made. -/
def waiting (env : TrackPlatform) (workspaceId : JsString) (f : Funnel) (call : ReserveCall) :
    List (TrackWorkerRole × FindingSummary) :=
  pairs (poolsFor env f.findings.store workspaceId f.tables.attempts call
    (cutoffFor f.findings.store workspaceId f.tables call))

/-- A reservation is made only where what it adds fits beside the assignments its epoch still has,
and none of their claims waits for a worker. -/
def FitsAgain (env : TrackPlatform) (workspaceId : JsString) (f : Funnel) : FunnelEvent → Prop
  | .reserve call => mayReserve f.tables call = true →
    (active f.tables.attempts call.sessionId call.epoch).length +
        min (capacity call.maxWorkers) (waiting env workspaceId f call).length ≤
      capacity call.maxWorkers ∧
    ∀ item ∈ waiting env workspaceId f call,
      item.2.id ∉ (active f.tables.attempts call.sessionId call.epoch).map Prod.snd
  | _ => True

instance FitsAgain.decidable (f : Funnel) (event : FunnelEvent) :
    Decidable (FitsAgain env workspaceId f event) := by
  cases event with
  | finding event => exact isTrue trivial
  | reserve call => exact inferInstanceAs (Decidable (_ → _ ∧ _))
  | finish sessionId now => exact isTrue trivial
  | cancel sessionId => exact isTrue trivial

/-! ## Steps -/

theorem CapacityKept.of_subset {f f' : Funnel} (h : CapacityKept f)
    (hact : ∀ sessionId epoch, active f'.tables.attempts sessionId epoch ⊆
      active f.tables.attempts sessionId epoch)
    (hlimit : ∀ sessionId epoch, limitOf f'.log sessionId epoch = limitOf f.log sessionId epoch) :
    CapacityKept f' where
  bounded sessionId epoch := by
    have hsubperm := List.subperm_of_subset (active_nodup f'.tables.attempts sessionId epoch)
      (hact sessionId epoch)
    rw [hlimit]
    exact hsubperm.length_le.trans (h.bounded sessionId epoch)
  exclusive sessionId epoch := by
    refine List.Nodup.map_on (fun key hkey key' hkey' heq => ?_) (active_nodup _ _ _)
    exact List.inj_on_of_nodup_map (h.exclusive sessionId epoch) (hact _ _ hkey) (hact _ _ hkey') heq

theorem limitOf_concat (log : List Reservation) (r : Reservation) (sessionId : JsString)
    (epoch : Int) :
    limitOf (log ++ [r]) sessionId epoch =
      if r.acceptedFor sessionId = true ∧ r.call.epoch = epoch then r.call.maxWorkers
      else limitOf log sessionId epoch := by
  unfold limitOf
  rw [List.reverse_append, List.reverse_singleton, List.singleton_append, List.find?_cons]
  split
  next h =>
    rw [if_pos (by simpa using h)]
    rfl
  next h => rw [if_neg (by simpa using h)]

theorem waiting_ids_nodup (f : Funnel) (call : ReserveCall) :
    ((waiting env workspaceId f call).map (·.2.id)).Nodup := by
  unfold waiting poolsFor
  refine pairs_ids_nodup ?_ _ _ _
  exact (readFindings_ids_nodup env.toFindingPlatform f.findings.store workspaceId).sublist
    (List.filter_sublist.map _)

theorem reserve_capacityKept {f : Funnel} (h : CapacityKept f) (call : ReserveCall)
    (hfits : FitsAgain env workspaceId f (.reserve call)) :
    CapacityKept (f.step env workspaceId (.reserve call)) := by
  have hstep : f.step env workspaceId (.reserve call) =
      { f with
        tables := (reserveForSession env f.findings.store workspaceId f.tables call).2
        log := f.log ++ [f.reservation env workspaceId call] } := rfl
  rcases reserveForSession_cases env f.findings.store workspaceId f.tables call with
    ⟨-, hres⟩ | ⟨hmay, cutoffs, -, hres⟩
  · -- a call that is turned away changes nothing
    refine h.of_subset (fun sessionId epoch => ?_) fun sessionId epoch => ?_
    · rw [hstep, hres]
      exact List.Subset.refl _
    · rw [hstep]
      refine (limitOf_concat _ _ _ _).trans (if_neg fun hacc => ?_)
      have hturned : (f.reservation env workspaceId call).outcome.isOk = false := by
        show (reserveForSession env f.findings.store workspaceId f.tables call).1.isOk = false
        rw [hres]
        rfl
      have hok := hacc.1
      unfold Reservation.acceptedFor at hok
      rw [hturned] at hok
      cases hok
  · obtain ⟨hfit, hapart⟩ := hfits hmay
    have hwait : (selectedFor env f.findings.store workspaceId f.tables call).Subperm
        (waiting env workspaceId f call) := selectWorkers_subperm _ _ _
    have hcount : (selectedFor env f.findings.store workspaceId f.tables call).length ≤
        min (capacity call.maxWorkers) (waiting env workspaceId f call).length :=
      le_min (selectWorkers_length _ _ _) hwait.length_le
    have hmem : ∀ {sessionId epoch key},
        key ∈ active (f.step env workspaceId (.reserve call)).tables.attempts sessionId epoch →
        sessionId = call.sessionId ∧ epoch = call.epoch ∧
          (key ∈ (selectedFor env f.findings.store workspaceId f.tables call).map
              (fun item => (item.1, item.2.id)) ∨
            key ∈ active f.tables.attempts call.sessionId call.epoch) := by
      intro sessionId epoch key hkey
      rw [hstep, hres] at hkey
      rcases mem_active_insertAssigned hkey with ⟨hsess, hepoch, hsel⟩ | hold
      · exact ⟨hsess, hepoch, .inl hsel⟩
      · obtain ⟨hsess, hepoch, hold⟩ := mem_active_supersede hold
        exact ⟨hsess, hepoch, .inr hold⟩
    have hselected_ids : ((selectedFor env f.findings.store workspaceId f.tables call).map
        (·.2.id)).Nodup := by
      obtain ⟨taken, hperm, hsublist⟩ := hwait
      rw [← (hperm.map _).nodup_iff]
      exact (waiting_ids_nodup f call).sublist (hsublist.map _)
    constructor
    · intro sessionId epoch
      by_cases hown : sessionId = call.sessionId ∧ epoch = call.epoch
      · obtain ⟨rfl, rfl⟩ := hown
        have hsubset : active (f.step env workspaceId (.reserve call)).tables.attempts
            call.sessionId call.epoch ⊆
            (selectedFor env f.findings.store workspaceId f.tables call).map
                (fun item => (item.1, item.2.id)) ++
              active f.tables.attempts call.sessionId call.epoch := by
          intro key hkey
          exact List.mem_append.mpr (hmem hkey).2.2
        have hlen := (List.subperm_of_subset (active_nodup _ _ _) hsubset).length_le
        have hlimit : limitOf (f.step env workspaceId (.reserve call)).log call.sessionId call.epoch =
            call.maxWorkers := by
          have houtcome : (f.reservation env workspaceId call).outcome.isOk = true := by
            show (reserveForSession env f.findings.store workspaceId f.tables call).1.isOk = true
            rw [hres]
            rfl
          have hacc : (f.reservation env workspaceId call).acceptedFor call.sessionId = true := by
            unfold Reservation.acceptedFor
            rw [houtcome, Bool.true_and, decide_eq_true_eq]
            rfl
          rw [hstep]
          exact (limitOf_concat _ _ _ _).trans (if_pos ⟨hacc, rfl⟩)
        rw [hlimit]
        rw [List.length_append, List.length_map] at hlen
        omega
      · -- every other epoch is superseded
        have hempty : active (f.step env workspaceId (.reserve call)).tables.attempts sessionId epoch =
            [] := by
          refine List.eq_nil_iff_forall_not_mem.mpr fun key hkey => hown ?_
          exact ⟨(hmem hkey).1, (hmem hkey).2.1⟩
        rw [hempty]
        exact Nat.zero_le _
    · intro sessionId epoch
      refine List.Nodup.map_on (fun key hkey key' hkey' heq => ?_) (active_nodup _ _ _)
      have happart : ∀ {key key' : TrackWorkerRole × JsString},
          key ∈ (selectedFor env f.findings.store workspaceId f.tables call).map
            (fun item => (item.1, item.2.id)) →
          key' ∈ active f.tables.attempts call.sessionId call.epoch → key.2 ≠ key'.2 := by
        intro key key' hkey hkey' heq
        obtain ⟨item, hitem, rfl⟩ := List.mem_map.mp hkey
        exact hapart item (hwait.subset hitem) (List.mem_map.mpr ⟨key', hkey', heq.symm⟩)
      rcases (hmem hkey).2.2 with hnew | hold
      · rcases (hmem hkey').2.2 with hnew' | hold'
        · obtain ⟨item, hitem, rfl⟩ := List.mem_map.mp hnew
          obtain ⟨item', hitem', rfl⟩ := List.mem_map.mp hnew'
          obtain rfl := List.inj_on_of_nodup_map hselected_ids hitem hitem' heq
          rfl
        · exact (happart hnew hold' heq).elim
      · rcases (hmem hkey').2.2 with hnew' | hold'
        · exact (happart hnew' hold heq.symm).elim
        · exact List.inj_on_of_nodup_map (h.exclusive call.sessionId call.epoch) hold hold' heq

theorem step_capacityKept {f : Funnel} (h : CapacityKept f) (event : FunnelEvent)
    (hfits : FitsAgain env workspaceId f event) : CapacityKept (f.step env workspaceId event) := by
  cases event with
  | finding event => exact ⟨h.bounded, h.exclusive⟩
  | reserve call => exact reserve_capacityKept h call hfits
  | finish sessionId now =>
    unfold Funnel.step
    simp only
    split
    next tables hfinish =>
      exact h.of_subset (fun s e => (finishSession_active hfinish s e).1) fun _ _ => rfl
    next => exact h
  | cancel sessionId =>
    exact h.of_subset (fun s e => cancelSession_releases.active_subset s e) fun _ _ => rfl

theorem new_capacityKept : CapacityKept .new where
  bounded _ _ := Nat.zero_le _
  exclusive _ _ := List.nodup_nil

/-- In every run whose reservations fit, the capacity is kept. -/
theorem reached_capacityKept (env : TrackPlatform) (workspaceId : JsString)
    (events : List FunnelEvent)
    (hfits : RunMeets (Funnel.step env workspaceId) (FitsAgain env workspaceId) .new events) :
    CapacityKept (runSteps (Funnel.step env workspaceId) .new events) :=
  runSteps_invariant_of_meets (I := CapacityKept) (fun _ event h hfits => step_capacityKept h event hfits)
    new_capacityKept hfits

/-! ## A reservation that is tried again -/

/-- A platform to run the funnel on. -/
def plainTrackPlatform : TrackPlatform :=
  { plainPlatform with
    localeCompare := fun left right => if left < right then -1 else if left = right then 0 else 1 }

/-- Client `k` creates a Lead of high impact. -/
def leadCreated (k : Nat) (ids : String) : List FunnelEvent :=
  (started k (callOf ids, .create .hypothesis { titled ids none with rating := some .high } none) 7).map
    .finding

/-- A reservation for two workers. -/
def reserved (sessionId : String) (epoch : Int) : FunnelEvent :=
  .reserve ⟨js sessionId, epoch, 2, ⟨0, by decide⟩, ⟨0, by decide⟩⟩

theorem reached_capacityKept_nextEpoch :
    CapacityKept (runSteps (Funnel.step plainTrackPlatform (js "w")) .new
      (leadCreated 0 "a" ++ leadCreated 1 "b" ++
        [reserved "t" 1, .finish (js "t") ⟨0, by decide⟩, reserved "t" 2])) :=
  reached_capacityKept plainTrackPlatform (js "w") _ (by decide +kernel)

/-- Three Leads, and the same epoch reserved twice. -/
def reservedTwice : Funnel :=
  runSteps (Funnel.step plainTrackPlatform (js "w")) .new
    (leadCreated 0 "a" ++ leadCreated 1 "b" ++ leadCreated 2 "c" ++ [reserved "t" 1, reserved "t" 1])

/-- The second reservation gives out the third Lead, and the epoch has three workers of two. -/
theorem retried_reservation_exceeds_capacity : ¬CapacityKept reservedTwice := by
  intro h
  have hthree : (active reservedTwice.tables.attempts (js "t") 1).length = 3 := by decide +kernel
  have hlimit : limitOf reservedTwice.log (js "t") 1 = 2 := by decide +kernel
  have hbounded := h.bounded (js "t") 1
  rw [hthree, hlimit] at hbounded
  exact absurd hbounded (by decide)

end Beale.Track
