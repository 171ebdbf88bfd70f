import Beale.Findings.Catalog
import Beale.Library.Trace
import Beale.Track.Capacity

/-!
# The boundary of a track epoch

- `reserve_boundaryInv`, `step_boundaryInv`, `reached_boundaryKept`: every reservation keeps the
  boundary of its epoch.
- `later_finding_is_assigned`: a Finding is not bound by it.
-/

namespace Beale.Track

open Beale.Library Beale.Findings

variable {env : TrackPlatform} {workspaceId : JsString}

/-! ## The claims of a cutoff -/

/-- The claims later on: in their places, and in their workspaces. -/
def Grown (db db' : Database) : Prop :=
  db.claims.keys <+: db'.claims.keys ∧ ∀ id row, db.claims.get? id = some row →
    ∃ row', db'.claims.get? id = some row' ∧ row'.workspaceId = row.workspaceId

theorem step_grown {p : Clients} (h : Kept p) (event : Event) :
    Grown p.store (Findings.step env.toFindingPlatform p event).store := by
  rcases Findings.step_cases h event with hquiet | ⟨k, call, op, body, next, -, -, hadvance⟩
  · have hclaims : (Findings.step env.toFindingPlatform p event).store.claims = p.store.claims := by
      rw [hquiet]
    unfold Grown
    rw [hclaims]
    exact ⟨List.prefix_rfl, fun id row hrow => ⟨row, hrow, rfl⟩⟩
  · refine ⟨?_, fun id row hrow => ?_⟩
    · obtain ⟨id, row', t, hwr, -⟩ := hadvance
      rw [hwr.claims]
      exact JsMap.keys_prefix_set _ _ _
    · obtain ⟨row', hrow', -, -, hws, -⟩ := hadvance.later id row hrow
      exact ⟨row', hrow', hws⟩

variable {db : Database}

theorem mem_claimIds {id : JsString} :
    id ∈ claimIds db workspaceId ↔ ∃ row, db.claims.get? id = some row ∧ row.workspaceId = workspaceId := by
  unfold claimIds
  constructor
  · intro h
    obtain ⟨item, hitem, rfl⟩ := List.mem_map.mp h
    obtain ⟨hentry, hws⟩ := List.mem_filter.mp hitem
    exact ⟨item.2, JsMap.get?_of_mem hentry, by simpa using hws⟩
  · rintro ⟨row, hrow, hws⟩
    exact List.mem_map.mpr ⟨(id, row),
      List.mem_filter.mpr ⟨JsMap.mem_of_get? hrow, by simpa using hws⟩, rfl⟩

theorem mem_keys_of_mem_claimIds {id : JsString} (h : id ∈ claimIds db workspaceId) :
    id ∈ db.claims.keys := by
  obtain ⟨row, hrow, -⟩ := mem_claimIds.mp h
  exact List.mem_map.mpr ⟨(id, row), JsMap.mem_of_get? hrow, rfl⟩

/-- A cutoff that the table has reached keeps no later claim. -/
theorem priorLeadIds_of_grown {db' : Database} (h : Grown db db') {cutoff : Nat}
    (hcutoff : cutoff ≤ db.claims.keys.length) :
    priorLeadIds db' workspaceId cutoff ⊆ priorLeadIds db workspaceId cutoff := by
  intro id hid
  obtain ⟨hid', hle⟩ := List.mem_filter.mp hid
  simp only [decide_eq_true_eq] at hle
  obtain ⟨row', hrow', hws'⟩ := mem_claimIds.mp hid'
  obtain ⟨later, hkeys⟩ := h.1
  unfold rowid at hle
  rw [← hkeys] at hle
  by_cases hmem : id ∈ db.claims.keys
  · rw [List.idxOf_append_of_mem hmem] at hle
    cases hrow : db.claims.get? id with
    | none => exact absurd hmem (JsMap.get?_eq_none.mp hrow)
    | some row =>
      obtain ⟨row'', hrow'', hsame⟩ := h.2 id row hrow
      obtain rfl := Option.some.inj (hrow'.symm.trans hrow'')
      refine List.mem_filter.mpr ⟨mem_claimIds.mpr ⟨row, hrow, hsame.symm.trans hws'⟩, ?_⟩
      simpa [rowid, Nat.succ_le_iff] using hle
  · -- a later claim has a later place
    rw [List.idxOf_append_of_notMem hmem] at hle
    omega

theorem latestClaim_le (db : Database) (workspaceId : JsString) :
    latestClaim db workspaceId ≤ db.claims.keys.length := by
  unfold latestClaim
  have hall : ∀ n ∈ (claimIds db workspaceId).map (rowid db), n ≤ db.claims.keys.length := by
    intro n hn
    obtain ⟨id, hid, rfl⟩ := List.mem_map.mp hn
    exact List.idxOf_lt_length_of_mem (mem_keys_of_mem_claimIds hid)
  generalize (claimIds db workspaceId).map (rowid db) = rowids at hall
  have hfold : ∀ n, n ≤ db.claims.keys.length → rowids.foldl max n ≤ db.claims.keys.length := by
    induction rowids with
    | nil => exact fun n hn => hn
    | cons m rest ih =>
      intro n hn
      exact ih (fun n hn => hall n (by simp [hn])) _ (max_le hn (hall m (by simp)))
  exact hfold 0 (Nat.zero_le _)

/-! ## What a reservation owes -/

def IsLead (env : TrackPlatform) (workspaceId : JsString) (db : Database) (id : JsString) : Prop :=
  ∃ claim ∈ readFindings env.toFindingPlatform db workspaceId, claim.id = id ∧ claim.projection = .lead

/-- A reservation gives investigators and chain analysts no Lead that was not there at an earlier
reservation of its epoch. After one of a newer epoch it is turned away and changes nothing. -/
structure BoundaryKept (env : TrackPlatform) (workspaceId : JsString) (earlier : List Reservation)
    (r : Reservation) : Prop where
  prior : ∀ a ∈ r.assignments, a.role = .investigator ∨ a.role = .chainAnalyst →
    IsLead env workspaceId r.store a.claimId →
    ∀ first ∈ earlier ++ [r], first.acceptedFor r.call.sessionId = true →
      first.call.epoch = r.call.epoch → a.claimId ∈ claimIds first.store workspaceId
  stale : ∀ newer ∈ earlier, newer.acceptedFor r.call.sessionId = true →
    r.call.epoch < newer.call.epoch →
    r.outcome = .error (js "Track worker reservation belongs to a newer epoch.") ∧ r.after = r.before

/-- What the cutoffs say about the reservations that were made. -/
structure BoundaryInv (env : TrackPlatform) (workspaceId : JsString) (f : Funnel) : Prop where
  kept : Kept f.findings
  reached : ∀ sessionId cutoff, f.tables.cutoffs.get? sessionId = some cutoff →
    cutoff.claimRowidCutoff ≤ f.findings.store.claims.keys.length
  made : ∀ r ∈ f.log, ∀ sessionId, r.acceptedFor sessionId = true → isBlank sessionId = false ∧
    ∃ cutoff, f.tables.cutoffs.get? sessionId = some cutoff ∧ r.call.epoch ≤ cutoff.epoch ∧
      (r.call.epoch = cutoff.epoch →
        priorLeadIds f.findings.store workspaceId cutoff.claimRowidCutoff ⊆
          claimIds r.store workspaceId)
  log : EachAfter (BoundaryKept env workspaceId) f.log

theorem new_boundaryInv : BoundaryInv env workspaceId .new where
  kept := Pool.keeps_new logged_empty
  reached sessionId cutoff h := by cases h
  made r hr := by cases hr
  log := eachAfter_nil _

theorem selectedFor_prior {tables : FunnelTables} {call : ReserveCall}
    {item : TrackWorkerRole × FindingSummary}
    (h : item ∈ selectedFor env db workspaceId tables call)
    (hrole : item.1 = .investigator ∨ item.1 = .chainAnalyst)
    (hlead : IsLead env workspaceId db item.2.id) :
    item.2.id ∈ priorLeadIds db workspaceId (cutoffFor db workspaceId tables call) := by
  obtain ⟨role, claim⟩ := item
  have hpool := mem_pairs.mp ((selectWorkers_subperm _ _ _).subset h)
  obtain ⟨hclaim, hsuits, -⟩ := mem_eligiblePools.mp hpool
  obtain ⟨lead, hread, hid, hprojection⟩ := hlead
  obtain rfl := List.inj_on_of_nodup_map (readFindings_ids_nodup env.toFindingPlatform db workspaceId)
    hread (List.mem_filter.mp hclaim).1 hid
  rcases hrole with rfl | rfl
  · simp only [suits, Bool.and_eq_true, Bool.or_eq_true, decide_eq_true_eq, Option.all_some] at hsuits
    rcases hsuits.1.1.1.2 with hfinding | ⟨-, hprior⟩
    · rw [hprojection] at hfinding
      cases hfinding
    · exact hprior
  · simp only [suits, Bool.and_eq_true, Bool.or_eq_true, decide_eq_true_eq, Option.all_some] at hsuits
    rcases hsuits.1.1.1.1.1.2 with hfinding | hprior
    · rw [hprojection] at hfinding
      cases hfinding
    · exact hprior

theorem acceptedFor_iff {r : Reservation} {sessionId : JsString} :
    r.acceptedFor sessionId = true ↔ r.outcome.isOk = true ∧ r.call.sessionId = sessionId := by
  unfold Reservation.acceptedFor
  simp

section

variable {f : Funnel} (h : BoundaryInv env workspaceId f)
include h

theorem BoundaryInv.cutoffFor {call : ReserveCall}
    (hmay : mayReserve f.tables call = true) {r : Reservation} (hr : r ∈ f.log)
    (hacc : r.acceptedFor call.sessionId = true) :
    r.call.epoch ≤ call.epoch ∧ (r.call.epoch = call.epoch →
      priorLeadIds f.findings.store workspaceId
        (Track.cutoffFor f.findings.store workspaceId f.tables call) ⊆ claimIds r.store workspaceId) := by
  obtain ⟨-, cutoff, hcutoff, hle, hprior⟩ := h.made r hr call.sessionId hacc
  unfold mayReserve at hmay
  rw [hcutoff] at hmay
  simp only [Bool.and_eq_true, Option.all_some, decide_eq_true_eq] at hmay
  refine ⟨hle.trans hmay.2, fun hepoch => ?_⟩
  -- the epoch has been reserved before, and its cutoff is still there
  have hsame : r.call.epoch = cutoff.epoch := by omega
  unfold Track.cutoffFor
  rw [hcutoff]
  simp only [if_neg (show ¬cutoff.epoch < call.epoch by omega)]
  exact hprior hsame

theorem reserve_boundaryInv (call : ReserveCall) :
    BoundaryInv env workspaceId (f.step env workspaceId (.reserve call)) := by
  have hstep : f.step env workspaceId (.reserve call) =
      { f with
        tables := (f.reservation env workspaceId call).after
        log := f.log ++ [f.reservation env workspaceId call] } := rfl
  rcases reserveForSession_cases env f.findings.store workspaceId f.tables call with
    ⟨hmay, hres⟩ | ⟨hmay, cutoffs, hcutoffs, hres⟩
  · have houtcome : (f.reservation env workspaceId call).outcome =
        .error (if isBlank call.sessionId then js "Track worker session id is required."
          else js "Track worker reservation belongs to a newer epoch.") := congrArg Prod.fst hres
    have hafter : (f.reservation env workspaceId call).after = f.tables := congrArg Prod.snd hres
    rw [hstep, hafter]
    refine ⟨h.kept, h.reached, fun r hr sessionId hacc => ?_, eachAfter_concat.mpr ⟨h.log, ?_, ?_⟩⟩
    · rcases List.mem_append.mp hr with hold | hnew
      · exact h.made r hold sessionId hacc
      · obtain rfl := List.mem_singleton.mp hnew
        rw [acceptedFor_iff, houtcome] at hacc
        cases hacc.1
    · intro a ha
      unfold Reservation.assignments at ha
      rw [houtcome] at ha
      cases ha
    · intro newer hnewer hacc _
      obtain ⟨hblank, -⟩ := h.made newer hnewer _ hacc
      have hblank : isBlank call.sessionId = false := hblank
      rw [houtcome, hblank]
      exact ⟨rfl, hafter⟩
  · have houtcome : (f.reservation env workspaceId call).outcome =
        .ok ((selectedFor env f.findings.store workspaceId f.tables call).map fun item =>
          ⟨item.1, item.2.id, item.2.revision, item.2.surfaceId⟩) := congrArg Prod.fst hres
    have hafter : (f.reservation env workspaceId call).after.cutoffs = cutoffs := by
      show (reserveForSession env f.findings.store workspaceId f.tables call).2.cutoffs = cutoffs
      rw [hres]
    have hblank : isBlank call.sessionId = false := by
      unfold mayReserve at hmay
      simp only [Bool.and_eq_true, Bool.not_eq_true'] at hmay
      exact hmay.1
    -- the epoch's cutoff, as the earlier reservations and this one see it
    have hprior : ∀ r ∈ f.log ++ [f.reservation env workspaceId call],
        r.acceptedFor call.sessionId = true → r.call.epoch ≤ call.epoch ∧
          (r.call.epoch = call.epoch → priorLeadIds f.findings.store workspaceId
            (cutoffFor f.findings.store workspaceId f.tables call) ⊆ claimIds r.store workspaceId) := by
      intro r hr hacc
      rcases List.mem_append.mp hr with hold | hnew
      · exact h.cutoffFor hmay hold hacc
      · obtain rfl := List.mem_singleton.mp hnew
        exact ⟨le_refl _, fun _ => List.filter_subset_self _⟩
    rw [hstep]
    refine ⟨h.kept, fun sessionId cutoff hcutoff => ?_, fun r hr sessionId hacc => ?_,
      eachAfter_concat.mpr ⟨h.log, ?_, ?_⟩⟩
    · simp only [hafter, hcutoffs] at hcutoff
      split at hcutoff
      next hsess =>
        cases hcutoff
        unfold cutoffFor
        split
        next stored hstore =>
          split
          · exact latestClaim_le _ _
          · exact h.reached _ stored hstore
        next => exact latestClaim_le _ _
      next => exact h.reached sessionId cutoff hcutoff
    · simp only [hafter, hcutoffs]
      by_cases hsess : sessionId = call.sessionId
      · subst hsess
        obtain ⟨hle, hsubset⟩ := hprior r hr hacc
        exact ⟨hblank, _, if_pos rfl, hle, hsubset⟩
      · rw [if_neg hsess]
        rcases List.mem_append.mp hr with hold | hnew
        · exact h.made r hold sessionId hacc
        · obtain rfl := List.mem_singleton.mp hnew
          exact absurd (acceptedFor_iff.mp hacc).2.symm hsess
    · intro a ha hrole hlead first hfirst hacc hepoch
      unfold Reservation.assignments at ha
      rw [houtcome] at ha
      obtain ⟨item, hitem, rfl⟩ := List.mem_map.mp ha
      exact (hprior first hfirst hacc).2 hepoch (selectedFor_prior hitem hrole hlead)
    · intro newer hnewer hacc hlt
      have hle := (hprior newer (List.mem_append_left _ hnewer) hacc).1
      have hlt : call.epoch < newer.call.epoch := hlt
      omega

theorem BoundaryInv.of_cutoffs
    {tables : FunnelTables} (hcutoffs : tables.cutoffs = f.tables.cutoffs) :
    BoundaryInv env workspaceId { f with tables := tables } where
  kept := h.kept
  reached := by
    rw [hcutoffs]
    exact h.reached
  made := by
    rw [hcutoffs]
    exact h.made
  log := h.log

theorem step_boundaryInv (event : FunnelEvent) :
    BoundaryInv env workspaceId (f.step env workspaceId event) := by
  cases event with
  | finding event =>
    have hgrown : Grown f.findings.store
        (Findings.step env.toFindingPlatform f.findings event).store := step_grown h.kept event
    refine ⟨step_kept h.kept event, fun sessionId cutoff hcutoff => ?_,
      fun r hr sessionId hacc => ?_, h.log⟩
    · exact (h.reached sessionId cutoff hcutoff).trans hgrown.1.length_le
    · obtain ⟨hblank, cutoff, hcutoff, hle, hprior⟩ := h.made r hr sessionId hacc
      refine ⟨hblank, cutoff, hcutoff, hle, fun hepoch => ?_⟩
      exact List.Subset.trans (priorLeadIds_of_grown hgrown (h.reached sessionId cutoff hcutoff))
        (hprior hepoch)
  | reserve call => exact reserve_boundaryInv h call
  | finish sessionId now =>
    unfold Funnel.step
    simp only
    split
    next tables hfinish => exact h.of_cutoffs (finishSession_active hfinish sessionId 0).2
    next => exact h
  | cancel sessionId => exact h.of_cutoffs rfl

end

/-- In every run, every reservation keeps the boundary of its epoch. -/
theorem reached_boundaryKept (env : TrackPlatform) (workspaceId : JsString)
    (events : List FunnelEvent) :
    EachAfter (BoundaryKept env workspaceId)
      (runSteps (Funnel.step env workspaceId) .new events).log :=
  (runSteps_invariant (I := BoundaryInv env workspaceId) (fun _ event h => step_boundaryInv h event)
    new_boundaryInv events).log

/-! ## A Finding of the epoch itself -/

/-- Client `k` creates an observed Finding of high impact. -/
def findingCreated (k : Nat) (ids : String) : List FunnelEvent :=
  (started k (callOf ids, .create .observed
    { titled ids none with
      rating := some .high
      evidence := [referenceTo .artifact "artifact" false] } none) 7).map .finding

/-- An epoch is reserved, then a Finding is created, then the epoch is reserved again. -/
def reservedAfterFinding : Funnel :=
  runSteps (Funnel.step plainTrackPlatform (js "w")) .new
    (reserved "t" 1 :: findingCreated 0 "a" ++ [reserved "t" 1])

/-- The investigator is given the Finding that was not there when the epoch was first reserved. -/
theorem later_finding_is_assigned :
    ∃ first ∈ reservedAfterFinding.log, ∃ r ∈ reservedAfterFinding.log,
      first.acceptedFor r.call.sessionId = true ∧ first.call.epoch = r.call.epoch ∧
        ∃ a ∈ r.assignments, a.role = .investigator ∧ a.claimId ∉ claimIds first.store (js "w") := by
  decide +kernel

end Beale.Track
