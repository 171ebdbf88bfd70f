import Beale.Findings.AuditLog
import Beale.Track.Funnel

/-!
# Reservations of track workers

- `pairs`, `selectWorkers_subperm`, `selectWorkers_length`: what a reservation selects is eligible,
  and fits.
-/

namespace Beale.Track

open Beale.Library Beale.Findings

/-! ## What is selected -/

def pairs (pools : Pools) : List (TrackWorkerRole × FindingSummary) :=
  [TrackWorkerRole.investigator, .chainAnalyst, .triager, .reporter].flatMap fun role =>
    (pools role).map fun claim => (role, claim)

variable {role : TrackWorkerRole} {claim : FindingSummary}

theorem mem_pairs {pools : Pools} : (role, claim) ∈ pairs pools ↔ claim ∈ pools role := by
  unfold pairs
  cases role <;> simp

theorem pairs_perm_of_cons {pools : Pools}
    {rest : List FindingSummary} (h : pools role = claim :: rest) :
    (pairs pools).Perm ((role, claim) :: pairs (Function.update pools role rest)) := by
  have hnil : ∀ role', role' ≠ role → Function.update pools role rest role' = pools role' :=
    fun role' hne => Function.update_of_ne hne _ _
  unfold pairs
  cases role <;>
    simp only [List.flatMap_cons, List.flatMap_nil, List.append_nil, Function.update_self, h,
      List.map_cons, ne_eq, reduceCtorEq, not_false_eq_true, hnil, List.cons_append]
  · exact .refl _
  · exact List.perm_middle
  · refine (List.Perm.append_left _ List.perm_middle).trans ?_
    exact List.perm_middle
  · refine (List.Perm.append_left _ (List.Perm.append_left _ List.perm_middle)).trans ?_
    refine (List.Perm.append_left _ List.perm_middle).trans ?_
    exact List.perm_middle

section

variable (roles : List TrackWorkerRole) (free : Nat) (pools : Pools)

theorem selectFrom_subperm : (selectFrom roles free pools).Subperm (pairs pools) := by
  induction free generalizing pools with
  | zero => exact List.nil_subperm
  | succ free ih =>
    unfold selectFrom
    cases nextRole roles pools with
    | none => exact List.nil_subperm
    | some role =>
      cases hpool : pools role with
      | nil =>
        simp only [hpool]
        exact List.nil_subperm
      | cons claim rest =>
        simp only [hpool]
        exact ((List.subperm_cons _).mpr (ih _)).trans (pairs_perm_of_cons hpool).symm.subperm

theorem selectFrom_length : (selectFrom roles free pools).length ≤ free := by
  induction free generalizing pools with
  | zero => exact Nat.le_refl _
  | succ free ih =>
    unfold selectFrom
    cases nextRole roles pools with
    | none => exact Nat.zero_le _
    | some role =>
      cases hpool : pools role with
      | nil =>
        simp only [hpool]
        exact Nat.zero_le _
      | cons claim rest =>
        simp only [hpool]
        exact Nat.succ_le_succ (ih _)

end

theorem selectWorkers_subperm (epoch maxWorkers : Int) (pools : Pools) :
    (selectWorkers epoch maxWorkers pools).Subperm (pairs pools) := by
  unfold selectWorkers
  cases hpool : pools .investigator with
  | nil =>
    exact selectFrom_subperm _ _ _
  | cons claim rest =>
    simp only
    split
    · exact ((List.subperm_cons _).mpr (selectFrom_subperm _ _ _)).trans
        (pairs_perm_of_cons hpool).symm.subperm
    · exact selectFrom_subperm _ _ _

theorem selectWorkers_length (epoch maxWorkers : Int) (pools : Pools) :
    (selectWorkers epoch maxWorkers pools).length ≤ capacity maxWorkers := by
  unfold selectWorkers
  cases hpool : pools .investigator with
  | nil =>
    exact selectFrom_length _ _ _
  | cons claim rest =>
    simp only
    split
    next hpos =>
      have hfree := selectFrom_length (rotated epoch) (capacity maxWorkers - 1)
        (Function.update pools .investigator rest)
      have hone : 1 ≤ capacity maxWorkers := by
        unfold capacity
        omega
      simp only [List.length_cons]
      omega
    next => exact selectFrom_length _ _ _

/-! ## What is eligible -/

variable {env : TrackPlatform}

variable {claims : List FindingSummary} {attempts : Attempts} {prior : Option (List JsString)}

theorem mem_eligiblePools {now : JsString} :
    claim ∈ eligiblePools env claims attempts prior now role ↔
      claim ∈ claims ∧ suits env claims prior role claim = true ∧
        eligible attempts now role claim = true := by
  unfold eligiblePools order
  rw [(List.perm_insertionSort _ _).mem_iff, List.mem_filter, Bool.and_eq_true]

theorem suits_review (hrole : role = .triager ∨ role = .reporter)
    (h : suits env claims prior role claim = true) :
    unresolved claim = false ∧ claim.id ∉ provenanceRefresh env claims := by
  have hverif : claim.status = .verified → unresolved claim = false := by
    intro hst
    unfold unresolved
    rw [hst]
    rfl
  rcases hrole with rfl | rfl
  · simp only [suits, Bool.and_eq_true, Bool.not_eq_true', decide_eq_false_iff_not,
      decide_eq_true_eq] at h
    exact ⟨hverif h.1.1.2, h.1.2⟩
  · simp only [suits, Bool.and_eq_true, Bool.not_eq_true', decide_eq_false_iff_not,
      decide_eq_true_eq] at h
    exact ⟨hverif h.1.1.1.1.2, h.1.1.2⟩

theorem suits_work (hrole : role = .investigator ∨ role = .chainAnalyst)
    (h : suits env claims prior role claim = true) :
    unresolved claim = true ∨ claim.id ∈ provenanceRefresh env claims := by
  rcases hrole with rfl | rfl
  · simp only [suits, Bool.and_eq_true, Bool.or_eq_true, decide_eq_true_eq] at h
    exact h.1.1.2
  · simp only [suits, Bool.and_eq_true, Bool.or_eq_true, decide_eq_true_eq] at h
    exact h.1.1.1.2

theorem suits_unique {role' : TrackWorkerRole}
    (h : suits env claims prior role claim = true) (h' : suits env claims prior role' claim = true) :
    role = role' := by
  have hsides : ∀ {r r' : TrackWorkerRole}, r = .investigator ∨ r = .chainAnalyst →
      r' = .triager ∨ r' = .reporter → suits env claims prior r claim = true →
      suits env claims prior r' claim = true → False := by
    intro r r' hr hr' hs hs'
    obtain ⟨hresolved, hfresh⟩ := suits_review hr' hs'
    rcases suits_work hr hs with hun | hrefresh
    · rw [hresolved] at hun
      cases hun
    · exact hfresh hrefresh
  have hchain : suits env claims prior .investigator claim = true →
      suits env claims prior .chainAnalyst claim = true → False := by
    intro hi hc
    simp only [suits, Bool.and_eq_true, decide_eq_true_eq] at hi hc
    exact hi.1.1.1.1.2 hc.1.1.1.1.1.1
  -- a claim with a current packet is reported, and without one it is triaged
  have hpacket : suits env claims prior .triager claim = true →
      suits env claims prior .reporter claim = true → False := by
    intro ht hr
    simp only [suits, Bool.and_eq_true] at ht hr
    have htriage := ht.2
    have hreport := hr.2
    have hreportable := hr.1.2
    unfold isReportable at hreportable
    cases htracking : claim.securityTracking with
    | none =>
      rw [htracking] at htriage
      cases htriage
    | some tracking =>
      rw [htracking] at htriage hreport hreportable
      simp only [Option.any_some, Bool.or_eq_true, Bool.and_eq_true, Bool.not_eq_true'] at htriage hreport
      rcases htriage with hnone | ⟨⟨-, hstale⟩, -⟩
      · simp only [Option.bind_some, Option.isNone_iff_eq_none.mp hnone] at hreportable
        cases hreportable
      · rw [hreport.2] at hstale
        cases hstale
  cases role with
  | investigator =>
    cases role' with
    | investigator => rfl
    | chainAnalyst => exact (hchain h h').elim
    | triager => exact (hsides (.inl rfl) (.inl rfl) h h').elim
    | reporter => exact (hsides (.inl rfl) (.inr rfl) h h').elim
  | chainAnalyst =>
    cases role' with
    | investigator => exact (hchain h' h).elim
    | chainAnalyst => rfl
    | triager => exact (hsides (.inr rfl) (.inl rfl) h h').elim
    | reporter => exact (hsides (.inr rfl) (.inr rfl) h h').elim
  | triager =>
    cases role' with
    | investigator => exact (hsides (.inl rfl) (.inl rfl) h' h).elim
    | chainAnalyst => exact (hsides (.inr rfl) (.inl rfl) h' h).elim
    | triager => rfl
    | reporter => exact (hpacket h h').elim
  | reporter =>
    cases role' with
    | investigator => exact (hsides (.inl rfl) (.inr rfl) h' h).elim
    | chainAnalyst => exact (hsides (.inr rfl) (.inr rfl) h' h).elim
    | triager => exact (hpacket h' h).elim
    | reporter => rfl

theorem pairs_ids_nodup (hids : (claims.map (·.id)).Nodup)
    (attempts : Attempts) (prior : Option (List JsString)) (now : JsString) :
    ((pairs (eligiblePools env claims attempts prior now)).map (·.2.id)).Nodup := by
  have hpool : ∀ role, ((eligiblePools env claims attempts prior now role).map (·.id)).Nodup := by
    intro role
    unfold eligiblePools order
    rw [((List.perm_insertionSort _ _).map _).nodup_iff]
    exact hids.sublist (List.filter_sublist.map _)
  have hdisjoint : ∀ role role', role ≠ role' →
      List.Disjoint ((eligiblePools env claims attempts prior now role).map (·.id))
        ((eligiblePools env claims attempts prior now role').map (·.id)) := by
    intro role role' hne id hid hid'
    obtain ⟨claim, hclaim, rfl⟩ := List.mem_map.mp hid
    obtain ⟨claim', hclaim', heq⟩ := List.mem_map.mp hid'
    obtain ⟨hmem, hsuits, -⟩ := mem_eligiblePools.mp hclaim
    obtain ⟨hmem', hsuits', -⟩ := mem_eligiblePools.mp hclaim'
    obtain rfl := List.inj_on_of_nodup_map hids hmem' hmem heq
    exact hne (suits_unique hsuits hsuits')
  unfold pairs
  simp only [List.flatMap_cons, List.flatMap_nil, List.append_nil, List.map_append, List.map_map,
    Function.comp_def]
  refine List.Nodup.append (hpool _) (.append (hpool _) (.append (hpool _) (hpool _) ?_) ?_) ?_
  · exact hdisjoint _ _ (by decide)
  · exact List.disjoint_append_right.mpr ⟨hdisjoint _ _ (by decide), hdisjoint _ _ (by decide)⟩
  · exact List.disjoint_append_right.mpr ⟨hdisjoint _ _ (by decide),
      List.disjoint_append_right.mpr ⟨hdisjoint _ _ (by decide), hdisjoint _ _ (by decide)⟩⟩

theorem readFindings_ids_nodup (env : FindingPlatform) (db : Database) (workspaceId : JsString) :
    ((readFindings env db workspaceId).map (·.id)).Nodup := by
  unfold readFindings
  rw [List.map_map]
  have hids : ((·.id) ∘ fun item : JsString × ClaimRow => readRow env db item.1 item.2 false) =
      Prod.fst := rfl
  rw [hids, ((List.perm_insertionSort _ _).map _).nodup_iff]
  exact db.claims.nodup.sublist (List.filter_sublist.map _)

/-! ## Assignments -/

def active (attempts : Attempts) (sessionId : JsString) (epoch : Int) :
    List (TrackWorkerRole × JsString) :=
  (attempts.entries.filter fun item => item.2.activeFor sessionId epoch).map Prod.fst

variable {workspaceId sessionId : JsString} {epoch : Int} {key : AttemptKey} {tables tables' : FunnelTables}

theorem mem_active :
    key ∈ active attempts sessionId epoch ↔
      ∃ row, attempts.get? key = some row ∧ row.activeFor sessionId epoch = true := by
  unfold active
  constructor
  · intro h
    obtain ⟨item, hitem, rfl⟩ := List.mem_map.mp h
    obtain ⟨hentry, hact⟩ := List.mem_filter.mp hitem
    exact ⟨item.2, JsMap.get?_of_mem hentry, hact⟩
  · rintro ⟨row, hrow, hact⟩
    exact List.mem_map.mpr ⟨(key, row), List.mem_filter.mpr ⟨JsMap.mem_of_get? hrow, hact⟩, rfl⟩

theorem active_nodup (attempts : Attempts) (sessionId : JsString) (epoch : Int) :
    (active attempts sessionId epoch).Nodup :=
  attempts.nodup.sublist (List.filter_sublist.map _)

theorem activeFor_iff {row : AttemptRow} :
    row.activeFor sessionId epoch = true ↔
      row.activeSessionId = some sessionId ∧ row.assignedEpoch = epoch := by
  unfold AttemptRow.activeFor
  simp

variable {sessionId' : JsString}

theorem mem_active_insertAssigned {now : JsString}
    {epoch' : Int} {selected : List (TrackWorkerRole × FindingSummary)}
    (h : key ∈ active (insertAssigned attempts sessionId epoch now selected) sessionId' epoch') :
    (sessionId' = sessionId ∧ epoch' = epoch ∧ key ∈ selected.map fun item => (item.1, item.2.id)) ∨
      key ∈ active attempts sessionId' epoch' := by
  obtain ⟨row, hrow, hact⟩ := mem_active.mp h
  rcases JsMap.get?_foldl_set _ _ selected attempts key with ⟨item, hitem, hkey, hget⟩ | ⟨-, hget⟩
  · cases hget.symm.trans hrow
    obtain ⟨hsess, hepoch⟩ := activeFor_iff.mp hact
    exact .inl ⟨(Option.some.inj hsess).symm, hepoch.symm, List.mem_map.mpr ⟨item, hitem, hkey⟩⟩
  · exact .inr (mem_active.mpr ⟨row, hget.symm.trans hrow, hact⟩)

/-! ## Releases -/

/-- Whether a session holds a claim. -/
def heldBy (attempts : Attempts) (key : AttemptKey) (sessionId : JsString) : Bool :=
  (attempts.get? key).any fun row => row.activeSessionId = some sessionId

theorem heldBy_eq_true : heldBy attempts key sessionId = true ↔
    ∃ row, attempts.get? key = some row ∧ row.activeSessionId = some sessionId := by
  simp [heldBy, Option.any_eq_true]

theorem mem_activeRows : key ∈ (activeRows attempts sessionId).map Prod.fst ↔
    heldBy attempts key sessionId = true := by
  rw [heldBy_eq_true, activeRows]
  constructor
  · intro h
    obtain ⟨item, hitem, rfl⟩ := List.mem_map.mp h
    obtain ⟨hentry, hact⟩ := List.mem_filter.mp hitem
    exact ⟨item.2, JsMap.get?_of_mem hentry, by simpa using hact⟩
  · rintro ⟨row, hrow, hact⟩
    exact List.mem_map.mpr ⟨(key, row),
      List.mem_filter.mpr ⟨JsMap.mem_of_get? hrow, by simpa using hact⟩, rfl⟩

/-- A row that is released, if it is one of those that are, and is counted `n` times less. -/
def Released (held : AttemptRow → Prop) (n : Nat) (row row' : AttemptRow) : Prop :=
  held row ∧ row.activeSessionId.isSome ∧ row'.activeSessionId = none ∧
      row'.claimRevision = row.claimRevision ∧ row'.attemptsOnRevision = row.attemptsOnRevision - n ∨
    ¬held row ∧ row' = row

/-- Attempts as an operation leaves them that releases some. -/
def Releases (held : AttemptRow → Prop) (n : Nat) (attempts attempts' : Attempts) : Prop :=
  ∀ key, Option.Rel (Released held n) (attempts.get? key) (attempts'.get? key)

variable {held : AttemptRow → Prop} {attempts' : Attempts}

theorem Releases.row {n : Nat} {row' : AttemptRow}
    (h : Releases held n attempts attempts') (hrow' : attempts'.get? key = some row') :
    ∃ row, attempts.get? key = some row ∧ Released held n row row' := by
  have hone := h key
  rw [hrow'] at hone
  cases hold : attempts.get? key <;> rw [hold] at hone <;> cases hone
  exact ⟨_, rfl, ‹_›⟩

theorem releases_mapValues {n : Nat} {f : AttemptRow → AttemptRow}
    (h : ∀ row, Released held n row (f row)) : Releases held n attempts (attempts.mapValues f) := by
  intro key
  rw [JsMap.get?_mapValues]
  cases attempts.get? key with
  | none => exact .none
  | some row => exact .some (h row)

theorem cancelSession_releases : Releases (·.activeSessionId = some sessionId) 1 tables.attempts
    (cancelSession tables sessionId).attempts := by
  refine releases_mapValues fun row => ?_
  by_cases hact : row.activeSessionId = some sessionId
  · rw [if_pos hact]
    exact .inl ⟨hact, by rw [hact]; rfl, rfl, rfl, rfl⟩
  · exact .inr ⟨hact, if_neg hact⟩

theorem supersede_releases {epoch : Int} :
    Releases (fun row => row.activeSessionId.isSome ∧ !row.activeFor sessionId epoch) 0 attempts
      (supersede attempts sessionId epoch) := by
  refine releases_mapValues fun row => ?_
  by_cases hact : row.activeSessionId.isSome ∧ !row.activeFor sessionId epoch
  · rw [if_pos hact]
    exact .inl ⟨hact, hact.1, rfl, rfl, rfl⟩
  · exact .inr ⟨hact, if_neg hact⟩

theorem finishSession_releases {db : Database} {now : Instant}
    (h : finishSession db workspaceId tables sessionId now = .ok tables') :
    Releases (·.activeSessionId = some sessionId) 0 tables.attempts tables'.attempts := by
  obtain ⟨attempts', hfold, h⟩ := Client.exceptBind_ok.mp h
  cases h
  intro key
  -- how far the loop has come does not matter: its list says which rows are left
  have hloop : ∀ (items : List (AttemptKey × AttemptRow)) (attempts : Attempts),
      items.foldlM (finishAssignment db workspaceId now) attempts = .ok attempts' →
      ∃ next, attempts'.get? key = (attempts.get? key).map fun row =>
        if key ∈ items.map Prod.fst then
          { row with activeSessionId := none, nextEligibleAt := next }
        else row := by
    clear hfold
    intro items
    induction items with
    | nil =>
      intro attempts hfold
      cases hfold
      exact ⟨none, by simp⟩
    | cons item rest ih =>
      intro attempts hfold
      rw [List.foldlM_cons] at hfold
      obtain ⟨middle, hone, hrest⟩ := Client.exceptBind_ok.mp hfold
      obtain ⟨next, -, hone⟩ := Client.exceptBind_ok.mp hone
      cases hone
      obtain ⟨next', hget⟩ := ih _ hrest
      rw [JsMap.get?_modify] at hget
      obtain ⟨key', held⟩ := item
      by_cases hkey : key = key'
      · subst hkey
        rw [if_pos rfl, Option.map_map] at hget
        by_cases hmem : key ∈ rest.map Prod.fst
        · exact ⟨next', by simp [hget, hmem, Function.comp_def]⟩
        · exact ⟨next, by simp [hget, hmem, Function.comp_def]⟩
      · rw [if_neg hkey] at hget
        exact ⟨next', by simp only [hget, List.map_cons, List.mem_cons, hkey, false_or]⟩
  obtain ⟨next, hget⟩ := hloop _ _ hfold
  rw [hget]
  cases hrow : tables.attempts.get? key with
  | none => exact .none
  | some row =>
    refine .some ?_
    dsimp only
    by_cases hact : row.activeSessionId = some sessionId
    · rw [if_pos (mem_activeRows.mpr (heldBy_eq_true.mpr ⟨row, hrow, hact⟩))]
      exact .inl ⟨hact, by rw [hact]; rfl, rfl, rfl, rfl⟩
    · refine .inr ⟨hact, if_neg fun hmem => hact ?_⟩
      obtain ⟨held, hget, hheld⟩ := heldBy_eq_true.mp (mem_activeRows.mp hmem)
      cases hget.symm.trans hrow
      exact hheld

theorem mem_active_supersede {epoch' : Int}
    (h : key ∈ active (supersede attempts sessionId epoch) sessionId' epoch') :
    sessionId' = sessionId ∧ epoch' = epoch ∧ key ∈ active attempts sessionId epoch := by
  obtain ⟨row', hrow', hact⟩ := mem_active.mp h
  obtain ⟨hsess, hepoch⟩ := activeFor_iff.mp hact
  obtain ⟨row, hold, ⟨-, -, hnone, -⟩ | ⟨hkept, rfl⟩⟩ := supersede_releases.row hrow'
  · cases hnone.symm.trans hsess
  · have hown : row'.activeFor sessionId epoch = true := by
      by_contra hnot
      exact hkept ⟨by rw [hsess]; rfl, by simpa using hnot⟩
    obtain ⟨hsess', hepoch'⟩ := activeFor_iff.mp hown
    exact ⟨Option.some.inj (hsess.symm.trans hsess'), hepoch.symm.trans hepoch',
      mem_active.mpr ⟨_, hold, hown⟩⟩

/-- What is released leaves fewer assignments. -/
theorem Releases.active_subset {n : Nat}
    (h : Releases held n attempts attempts') (sessionId : JsString) (epoch : Int) :
    active attempts' sessionId epoch ⊆ active attempts sessionId epoch := by
  intro key hkey
  obtain ⟨row', hrow', hact⟩ := mem_active.mp hkey
  obtain ⟨row, hold, ⟨-, -, hnone, -⟩ | ⟨-, rfl⟩⟩ := h.row hrow'
  · cases hnone.symm.trans (activeFor_iff.mp hact).1
  · exact mem_active.mpr ⟨_, hold, hact⟩

theorem finishSession_active {db : Database} {finished : JsString} {now : Instant}
    (h : finishSession db workspaceId tables finished now = .ok tables') (sessionId : JsString)
    (epoch : Int) :
    active tables'.attempts sessionId epoch ⊆ active tables.attempts sessionId epoch ∧
      tables'.cutoffs = tables.cutoffs := by
  refine ⟨(finishSession_releases h).active_subset sessionId epoch, ?_⟩
  obtain ⟨attempts', -, h⟩ := Client.exceptBind_ok.mp h
  cases h
  rfl

/-! ## The machine -/

/-- A reservation that has been tried, with the claims it has read. -/
structure Reservation where
  call : ReserveCall
  store : Database
  before : FunnelTables
  outcome : Except JsString (List TrackWorkerAssignment)
  after : FunnelTables

def Reservation.assignments (r : Reservation) : List TrackWorkerAssignment :=
  match r.outcome with
  | .ok assignments => assignments
  | .error _ => []

def Reservation.acceptedFor (r : Reservation) (sessionId : JsString) : Bool :=
  r.outcome.isOk && r.call.sessionId = sessionId

/-- The funnel of a workspace beside the clients of the claim store. The log has the reservations
that were tried. -/
structure Funnel where
  findings : Clients
  tables : FunnelTables
  log : List Reservation

/-- An operation of the funnel, or a step of the clients of the claim store. -/
inductive FunnelEvent where
  | finding (event : Event)
  | reserve (call : ReserveCall)
  | finish (sessionId : JsString) (now : Instant)
  | cancel (sessionId : JsString)

namespace Funnel

/-- No claims, and no rows. -/
def new : Funnel := ⟨Pool.new Database.empty, .empty, []⟩

def reservation (env : TrackPlatform) (workspaceId : JsString) (f : Funnel) (call : ReserveCall) :
    Reservation :=
  let result := reserveForSession env f.findings.store workspaceId f.tables call
  { call := call
    store := f.findings.store
    before := f.tables
    outcome := result.1
    after := result.2 }

def step (env : TrackPlatform) (workspaceId : JsString) (f : Funnel) : FunnelEvent → Funnel
  | .finding event => { f with findings := Findings.step env.toFindingPlatform f.findings event }
  | .reserve call =>
    let r := reservation env workspaceId f call
    { f with tables := r.after, log := f.log ++ [r] }
  | .finish sessionId now =>
    match finishSession f.findings.store workspaceId f.tables sessionId now with
    | .ok tables => { f with tables := tables }
    | .error _ => f
  | .cancel sessionId => { f with tables := cancelSession f.tables sessionId }

end Funnel

/-! ## What a reservation does -/

/-- The session's newest epoch is not newer than the call's. -/
def mayReserve (tables : FunnelTables) (call : ReserveCall) : Bool :=
  !isBlank call.sessionId &&
    (tables.cutoffs.get? call.sessionId).all fun stored => stored.epoch ≤ call.epoch

def cutoffFor (db : Database) (workspaceId : JsString) (tables : FunnelTables) (call : ReserveCall) :
    Nat :=
  match tables.cutoffs.get? call.sessionId with
  | some stored =>
    if stored.epoch < call.epoch then latestClaim db workspaceId else stored.claimRowidCutoff
  | none => latestClaim db workspaceId

def selectedFor (env : TrackPlatform) (db : Database) (workspaceId : JsString) (tables : FunnelTables)
    (call : ReserveCall) : List (TrackWorkerRole × FindingSummary) :=
  selectWorkers call.epoch call.maxWorkers
    (poolsFor env db workspaceId tables.attempts call (cutoffFor db workspaceId tables call))

theorem reserveForSession_cases (env : TrackPlatform) (db : Database) (workspaceId : JsString)
    (tables : FunnelTables) (call : ReserveCall) :
    (mayReserve tables call = false ∧
      reserveForSession env db workspaceId tables call =
        (.error (if isBlank call.sessionId then js "Track worker session id is required."
          else js "Track worker reservation belongs to a newer epoch."), tables)) ∨
    (mayReserve tables call = true ∧
      ∃ cutoffs, (∀ sessionId, cutoffs.get? sessionId =
          if sessionId = call.sessionId then
            some ⟨call.epoch, cutoffFor db workspaceId tables call⟩
          else tables.cutoffs.get? sessionId) ∧
        reserveForSession env db workspaceId tables call =
          (.ok ((selectedFor env db workspaceId tables call).map fun item =>
              ⟨item.1, item.2.id, item.2.revision, item.2.surfaceId⟩),
            { attempts := insertAssigned (supersede tables.attempts call.sessionId call.epoch)
                call.sessionId call.epoch (toISOString call.assignedAt.1)
                (selectedFor env db workspaceId tables call)
              cutoffs := cutoffs })) := by
  unfold reserveForSession mayReserve selectedFor cutoffFor withCutoff
  by_cases hblank : isBlank call.sessionId = true
  · rw [if_pos hblank]
    exact .inl ⟨by simp [hblank], by rw [if_pos hblank]⟩
  · rw [if_neg hblank]
    have hset : ∀ cutoff : CutoffRow, ∀ sessionId,
        (tables.cutoffs.set call.sessionId cutoff).get? sessionId =
          if sessionId = call.sessionId then some cutoff else tables.cutoffs.get? sessionId :=
      fun cutoff sessionId => JsMap.get?_set _ _ _ _
    cases hstore : tables.cutoffs.get? call.sessionId with
    | none =>
      refine .inr ⟨by simp [hblank], _, hset _, ?_⟩
      simp [JsMap.get?_set_self]
    | some stored =>
      rcases lt_trichotomy stored.epoch call.epoch with hlt | heq | hgt
      · refine .inr ⟨by simp [hblank, hlt.le],
          tables.cutoffs.set call.sessionId ⟨call.epoch, latestClaim db workspaceId⟩, ?_, ?_⟩
        · simp only [if_pos hlt]
          exact hset _
        · simp [hlt, JsMap.get?_set_self]
      · -- a retry goes by the cutoff of the first reservation
        have hkeep : ¬stored.epoch < call.epoch := by omega
        refine .inr ⟨by simp [hblank, heq], tables.cutoffs, fun sessionId => ?_, ?_⟩
        · simp only [if_neg hkeep]
          split
          next hsess => rw [hsess, hstore, ← heq]
          next => rfl
        · simp [hstore, heq]
      · have hkeep : ¬stored.epoch < call.epoch := by omega
        refine .inl ⟨by simp [hblank, hgt], ?_⟩
        have hne : stored.epoch ≠ call.epoch := by omega
        simp [hblank, hkeep, hstore, hne]

end Beale.Track
