import Beale.Library.OrderBy
import Beale.Surfaces.Foundation
import Beale.Track.Angles

/-!
# Which component a track works on next

`reserveNext` of `research-track.ts`: the components that are ready, the first of them by value, and the turn of
another resource after three epochs on one.

- `Streak.reserve`: the row counts the last epochs on one resource.
- `select_spec`: what is selected may be, and nothing that may be is of a better tier.
- `reached_scheduled`: so it is in every run.
-/

namespace Beale.Track

open Beale.Library
open Beale.Surfaces (SurfaceRanking SurfaceScopeAssessment HighValueSurfaceSignal)

structure Collation where
  /-- `left.localeCompare(right)` -/
  localeCompare : JsString → JsString → Ordering
  /-- It is a consistent comparison. -/
  consistent : Std.TransCmp localeCompare

instance (env : Collation) : Std.TransCmp env.localeCompare := env.consistent

inductive TrackStatus where
  | running
  | paused
  | waiting
  | complete
  | stopped
deriving DecidableEq

inductive WorkStatus where
  | unexamined
  | active
  | deferred
  | blocked
  | complete
  | excluded
deriving DecidableEq

structure ProjectedFoundation where
  ranking : Option SurfaceRanking
  highValueSignals : List HighValueSurfaceSignal
  scopeAssessment : Option SurfaceScopeAssessment

/-- The ids are those of rows, and not empty. -/
structure SurfaceProjection where
  id : JsString
  resourceId : Option JsString
  resourceKind : Option JsString
  resourceDirection : Option JsString
  parentId : Option JsString
  foundation : Option ProjectedFoundation
  /-- whether there is one -/
  progressBlocker : Bool
  id_ne : id ≠ []
  resourceId_ne : resourceId ≠ some []

abbrev Projections := JsMap JsString SurfaceProjection

structure SurfaceState where
  surfaceId : JsString
  status : WorkStatus
  epochs : Nat
  noProgressEpochs : Nat
  revisitAfter : Option JsString
  lastWorkedAt : Option JsString
  updatedAt : JsString

/-- A row of `app_server_research_tracks`. -/
structure TrackRow where
  status : TrackStatus
  activeSessionId : Option JsString
  activeSurfaceId : Option JsString
  epochCount : Nat
  lastSurfaceId : Option JsString
  consecutiveSurfaceEpochs : Nat
  lastResourceId : Option JsString
  consecutiveResourceEpochs : Nat
  lastError : Option JsString

/-- The rows of a workspace. -/
structure TrackTables where
  row : Option TrackRow
  surfaces : JsMap JsString SurfaceState

/-! ## The components of a track -/

namespace Scheduling

def byIdOf (surfaces : List SurfaceProjection) : Projections :=
  surfaces.foldl (fun m surface => m.set surface.id surface) .empty

/-- The loop of `scopeEligibleSurfaces`. No surface is visited twice, so `fuel` may be the number of all. -/
def inScope (byId : Projections) : Nat → List JsString → SurfaceProjection → Bool
  | 0, _, _ => true
  | fuel + 1, visited, current =>
    if current.id ∈ visited then true
    else if current.resourceDirection = some (js "out_of_scope") ∨
      (current.foundation.bind (·.scopeAssessment)).any (!·.applicable) then false
    else match current.parentId.bind byId.get? with
      | none => true
      | some parent => inScope byId fuel (current.id :: visited) parent

def scopeEligibleSurfaces (surfaces : List SurfaceProjection) : List SurfaceProjection :=
  surfaces.filter (inScope (byIdOf surfaces) (surfaces.length + 1) [])

def insertSurfaces (surfaces : List SurfaceProjection) (now : JsString) (stored : JsMap JsString SurfaceState) :
    JsMap JsString SurfaceState :=
  surfaces.foldl (fun m surface =>
    if m.has surface.id then m else m.set surface.id ⟨surface.id, .unexamined, 0, 0, none, none, now⟩) stored

/-- What `syncSurfaces` writes of a component whose status was `before`. -/
def syncSurface (now : JsString) (surface : SurfaceProjection) (work : SurfaceState) : Option WorkStatus → SurfaceState
  | none => work
  | some .excluded =>
    { work with status := if surface.progressBlocker then .blocked else .deferred, updatedAt := now }
  | some .blocked =>
    if surface.progressBlocker then work
    else { work with status := .deferred, revisitAfter := none, updatedAt := now }
  | some _ => if surface.progressBlocker then { work with status := .blocked, updatedAt := now } else work

def syncSurfaces (tables : TrackTables) (surfaces : List SurfaceProjection) (now : JsString) : TrackTables :=
  match tables.row with
  | none => tables
  | some row =>
    let eligible := scopeEligibleSurfaces surfaces
    let shown := (insertSurfaces eligible now tables.surfaces).mapValues fun work =>
      if eligible.any (·.id = work.surfaceId) ∨ work.status = .excluded then work
      else { work with status := .excluded, updatedAt := now }
    let isNew := eligible.any fun surface => !tables.surfaces.has surface.id
    { row := some (if isNew ∧ row.status = .complete then
        { row with
          status := .paused
          lastError := some (js "A new eligible security surface appeared. Resume for another pass.") }
        else row)
      surfaces := eligible.foldl (fun m surface => m.modify surface.id fun work =>
        syncSurface now surface work ((tables.surfaces.get? surface.id).map (·.status))) shown }

/-- The components in the order in which `get` lists them. -/
def listed (tables : TrackTables) : List SurfaceState :=
  tables.surfaces.values.insertionSort fun a b =>
    compareLex (compareOn SurfaceState.updatedAt) (compareOn SurfaceState.surfaceId) a b ≠ .gt

/-! ## The choice -/

section Choice

variable (byId : Projections) (works : List SurfaceState) (work : SurfaceState) (now : JsString)

def isActionable : Bool :=
  byId.has work.surfaceId && work.status ∉ [.complete, .blocked, .excluded]

def ready : List SurfaceState :=
  (works.filter (isActionable byId)).filter fun work =>
    work.revisitAfter.all fun time => time.isEmpty || time ≤ now

def foundationOf : Option ProjectedFoundation :=
  (byId.get? work.surfaceId).bind (·.foundation)

def signalCount : Nat := ((foundationOf byId work).map (·.highValueSignals.length)).getD 0

def tier : Nat :=
  match (foundationOf byId work).bind (·.ranking) with
  | none => if signalCount byId work ≠ 0 then 2 else 3
  | some ranking =>
    if 7 ≤ (ranking .impact).score.1 ∧ 5 ≤ (ranking .reachability).score.1 then
      if 5 ≤ (ranking .exposure).score.1 then 0 else 1
    else if 7 ≤ (ranking .impact).score.1 then 4 else 5

/-- The loop of `resourceId`. -/
def rootOf : Nat → List JsString → SurfaceProjection → Option SurfaceProjection
  | 0, _, root => some root
  | fuel + 1, visited, root =>
    match root.parentId with
    | none => some root
    | some parentId =>
      if parentId.isEmpty ∨ root.id ∈ visited then some root
      else (byId.get? parentId).bind (rootOf fuel (root.id :: visited))

def resourceId : JsString :=
  match (byId.get? work.surfaceId).bind (·.resourceId) with
  | some id => id
  | none =>
    match (byId.get? work.surfaceId).bind (rootOf byId (byId.keys.length + 1) []) with
    | some root => root.resourceId.getD root.id
    | none => work.surfaceId

def resourceKind : JsString :=
  (((byId.get? work.surfaceId).bind (·.resourceKind)).or
    ((byId.get? (resourceId byId work)).bind (·.resourceKind))).getD (js "unknown")

/-- `kindEpochs` and `resourceEpochs`. -/
def epochsOf (key : SurfaceState → JsString) : Nat :=
  ((works.filter fun other => byId.has other.surfaceId && key other = key work).map (·.epochs)).sum

variable (env : Collation) (row : TrackRow)

/-- The end of both comparisons. -/
def byTurn : SurfaceState → SurfaceState → Ordering :=
  compareLex (fun a b => env.localeCompare (a.lastWorkedAt.getD []) (b.lastWorkedAt.getD []))
    (compareLex (fun a b => compareOn (signalCount byId) b a) fun a b => env.localeCompare a.surfaceId b.surfaceId)

/-- The comparison of `ranked`. -/
def byValue : SurfaceState → SurfaceState → Ordering := compareLex (compareOn (tier byId)) (byTurn byId env)

/-- The comparison of `alternative`. -/
def byShare : SurfaceState → SurfaceState → Ordering :=
  compareLex (compareOn (tier byId)) (compareLex (compareOn fun work => epochsOf byId works work (resourceKind byId))
    (compareLex (compareOn fun work => epochsOf byId works work (resourceId byId)) (byTurn byId env)))

/-- `[...rows].sort(cmp)[0]` -/
def leastBy (cmp : SurfaceState → SurfaceState → Ordering) (rows : List SurfaceState) : Option SurfaceState :=
  firstBy (fun a b => cmp b a) (fun _ => true) rows

def maxConsecutiveResourceEpochs : Nat := 3

def previousResourceId : Option JsString :=
  row.lastResourceId.or ((works.find? fun work => some work.surfaceId = row.lastSurfaceId).map (resourceId byId))

def resourceStreak : Nat :=
  if row.lastResourceId.isNone then row.consecutiveSurfaceEpochs else row.consecutiveResourceEpochs

def alternative : Option SurfaceState :=
  match previousResourceId byId works row with
  | none => none
  | some previous =>
    if previous ≠ [] ∧ maxConsecutiveResourceEpochs ≤ resourceStreak row then
      leastBy (byShare byId works env) ((ready byId works now).filter (resourceId byId · ≠ previous))
    else none

/-- What is selected where there is no alternative: the component of the last epoch, or the first one. -/
def continued : Option SurfaceState :=
  match (ready byId works now).find? (some ·.surfaceId = row.lastSurfaceId),
      leastBy (byValue byId env) (ready byId works now) with
  | some previous, some best =>
    if previous.noProgressEpochs < 2 ∧ tier byId previous ≤ tier byId best then some previous else some best
  | _, best => best

/-- `selected` -/
def select : Option SurfaceState :=
  (alternative byId works now env row).or (continued byId works now env row)

end Choice

inductive EpochFocus where
  | first
  | continuing

structure TrackAssignment where
  surface : Option SurfaceProjection
  work : SurfaceState
  focus : EpochFocus

/-- The row of a track on which nothing can be selected. -/
def ended (row : TrackRow) (works : List SurfaceState) : TrackRow :=
  if works.all (·.status ∈ [.complete, .excluded]) then { row with status := .complete, lastError := none }
  else if works.any (·.status = .blocked) then { row with status := .waiting, lastError := none }
  else { row with
    status := .paused
    lastError := some (js "No actionable component could be selected; review the current research state.") }

/-- The row after a reservation of `work`. -/
def reserved (byId : Projections) (works : List SurfaceState) (row : TrackRow) (sessionId : JsString)
    (work : SurfaceState) : TrackRow :=
  { row with
    activeSessionId := some sessionId
    activeSurfaceId := some work.surfaceId
    epochCount := row.epochCount + 1
    lastSurfaceId := some work.surfaceId
    consecutiveSurfaceEpochs := if row.lastSurfaceId = some work.surfaceId then row.consecutiveSurfaceEpochs + 1 else 1
    lastResourceId := some (resourceId byId work)
    consecutiveResourceEpochs := if previousResourceId byId works row = some (resourceId byId work) then
      resourceStreak row + 1 else 1 }

/-- `reserveNext`, after `syncSurfaces`. -/
def reserveSynced (env : Collation) (byId : Projections) (tables : TrackTables) (sessionId now : JsString) :
    TrackTables × Except JsString (Option TrackAssignment) :=
  match tables.row with
  | none => (tables, .ok none)
  | some row =>
    if row.status ≠ .running ∨ row.activeSessionId.isSome then (tables, .ok none)
    else if (listed tables).any (isActionable byId) ∧ (ready byId (listed tables) now).isEmpty then (tables, .ok none)
    else match select byId (listed tables) now env row with
      | none => ({ tables with row := some (ended row (listed tables)) }, .ok none)
      | some work =>
        match required (some (.str sessionId)) (js "sessionId") with
        | .error message => (tables, .error message)
        | .ok sessionId =>
          ({ row := some (reserved byId (listed tables) row sessionId work)
             surfaces := tables.surfaces.modify work.surfaceId fun stored =>
              { stored with
                status := .active
                epochs := stored.epochs + 1
                lastWorkedAt := some now
                updatedAt := now } },
            .ok (some ⟨byId.get? work.surfaceId, work, if work.epochs = 0 then .first else .continuing⟩))

def reserveNext (env : Collation) (tables : TrackTables) (sessionId : JsString) (surfaces : List SurfaceProjection)
    (now : JsString) : TrackTables × Except JsString (Option TrackAssignment) :=
  reserveSynced env (byIdOf surfaces) (syncSurfaces tables surfaces now) sessionId now

/-! ## Runs -/

/-- A track with the resources of the components that were reserved since it started. -/
structure TrackRun where
  tables : TrackTables
  resources : List JsString

/-- `otherwise` is what the other operations write: they leave the four columns of the history. -/
inductive TrackEvent where
  | start (surfaces : List SurfaceProjection) (now : JsString)
  | reserveNext (sessionId : JsString) (surfaces : List SurfaceProjection) (now : JsString)
  | otherwise (status : TrackStatus) (activeSessionId activeSurfaceId : Option JsString) (epochCount : Nat)
    (lastError : Option JsString) (surfaces : JsMap JsString SurfaceState)

def TrackRun.new : TrackRun := ⟨⟨none, .empty⟩, []⟩

def TrackRun.step (env : Collation) (run : TrackRun) : TrackEvent → TrackRun
  | .start surfaces now =>
    { tables :=
        { row := some ⟨.running, none, none, 0, none, 0, none, 0, none⟩
          surfaces := insertSurfaces (scopeEligibleSurfaces surfaces) now .empty }
      resources := [] }
  | .reserveNext sessionId surfaces now =>
    match Scheduling.reserveNext env run.tables sessionId surfaces now with
    | (tables, .ok (some assignment)) => ⟨tables, run.resources ++ [resourceId (byIdOf surfaces) assignment.work]⟩
    | (tables, _) => ⟨tables, run.resources⟩
  | .otherwise status activeSessionId activeSurfaceId epochCount lastError surfaces =>
    { run with tables :=
        { row := run.tables.row.map fun row =>
            { row with status, activeSessionId, activeSurfaceId, epochCount, lastError }
          surfaces := surfaces } }

/-- A component may be worked on: its resource has not had the last three epochs, or every ready component is of it. -/
def MayFollow (byId : Projections) (resources : List JsString) (ready : List SurfaceState)
    (work : SurfaceState) : Prop :=
  ∀ resource, List.replicate 3 resource <:+ resources → (∃ other ∈ ready, resourceId byId other ≠ resource) →
    resourceId byId work ≠ resource

/-- What is reserved is ready and may be worked on, and nothing else of which this is true is of a better tier. -/
structure Scheduled (byId : Projections) (resources : List JsString) (ready : List SurfaceState)
    (work : SurfaceState) : Prop where
  isReady : work ∈ ready
  follows : MayFollow byId resources ready work
  best : ∀ other ∈ ready, MayFollow byId resources ready other → tier byId work ≤ tier byId other

/-- Every reservation that can come next is scheduled. -/
def TrackRun.SchedulesNext (env : Collation) (run : TrackRun) : Prop :=
  ∀ sessionId surfaces now tables assignment,
    Scheduling.reserveNext env run.tables sessionId surfaces now = (tables, .ok (some assignment)) →
      Scheduled (byIdOf surfaces) run.resources
        (ready (byIdOf surfaces) (listed (syncSurfaces run.tables surfaces now)) now) assignment.work

/-! ## The history -/

/-- The row counts the last epochs on one resource. -/
structure Streak (row : TrackRow) (resources : List JsString) : Prop where
  last : row.lastResourceId = resources.getLast?
  filled : [] ∉ resources
  fresh : resources = [] → row.lastSurfaceId = none
  count : ∀ resource k, row.lastResourceId = some resource →
    (List.replicate k resource <:+ resources ↔ k ≤ row.consecutiveResourceEpochs)

variable {byId : Projections} {works : List SurfaceState} {env : Collation} {now : JsString} {work : SurfaceState}
  {row : TrackRow} {resources : List JsString} {tables : TrackTables}

theorem Streak.previous (h : Streak row resources) : previousResourceId byId works row = resources.getLast? := by
  rw [previousResourceId, h.last]
  cases hlast : resources.getLast? with
  | some resource => rfl
  | none =>
    have hnone := h.fresh (List.getLast?_eq_none_iff.mp hlast)
    rw [hnone, List.find?_eq_none.mpr (by simp)]
    rfl

theorem last_of_suffix {α : Type} {a : α} {l : List α} (h : List.replicate 3 a <:+ l) : l.getLast? = some a := by
  obtain ⟨t, rfl⟩ := h
  simp

theorem replicate_suffix_concat {α : Type} {a b : α} {l : List α} {k : Nat} :
    List.replicate (k + 1) a <:+ l ++ [b] ↔ a = b ∧ List.replicate k a <:+ l := by
  rw [List.replicate_succ', List.suffix_concat_iff]
  constructor
  · rintro (hnil | ⟨t, heq, hsuffix⟩)
    · simp at hnil
    · obtain ⟨rfl, hab⟩ := List.append_inj' heq rfl
      exact ⟨List.head_eq_of_cons_eq hab, hsuffix⟩
  · rintro ⟨rfl, hsuffix⟩
    exact .inr ⟨_, rfl, hsuffix⟩

theorem Streak.reserve (h : Streak row resources) (hne : resourceId byId work ≠ []) (sessionId : JsString) :
    Streak (reserved byId works row sessionId work) (resources ++ [resourceId byId work]) := by
  refine ⟨by simp [reserved], by simp [h.filled, Ne.symm hne], by simp, fun resource k hlast => ?_⟩
  cases hlast
  show _ ↔ k ≤ if previousResourceId byId works row = some (resourceId byId work) then resourceStreak row + 1 else 1
  rw [h.previous]
  cases k with
  | zero => simp
  | succ k =>
    rw [replicate_suffix_concat, eq_self, true_and]
    by_cases hsame : resources.getLast? = some (resourceId byId work)
    · rw [if_pos hsame, h.count _ k (h.last.trans hsame), resourceStreak, h.last, hsame]
      exact Nat.succ_le_succ_iff.symm
    · -- the last epoch was on another resource, so that no run of this one is longer than the new epoch
      rw [if_neg hsame]
      cases k with
      | zero => simp
      | succ k =>
        refine iff_of_false (fun hsuffix => hsame ?_) (by omega)
        obtain ⟨t, rfl⟩ := hsuffix
        rw [List.replicate_succ', ← List.append_assoc, List.getLast?_concat]

theorem resourceId_ne {surfaces : List SurfaceProjection} (h : (byIdOf surfaces).has work.surfaceId = true) : resourceId (byIdOf surfaces) work ≠ [] := by
  obtain ⟨surface, hsurface⟩ := Option.isSome_iff_exists.mp h
  rw [resourceId]
  split
  · next id hid =>
    rintro rfl
    obtain ⟨surface, -, hres⟩ := Option.bind_eq_some_iff.mp hid
    exact surface.resourceId_ne hres
  · split
    · next root hroot =>
      cases hres : root.resourceId with
      | none => exact root.id_ne
      | some id =>
        rintro rfl
        exact root.resourceId_ne hres
    · rcases JsMap.get?_foldl_set (·.id) id surfaces (.empty : Projections) work.surfaceId with ⟨item, -, hid, -⟩ | ⟨-, hnone⟩
      · exact hid ▸ item.id_ne
      · cases hsurface.symm.trans hnone

/-! ## What is selected -/

instance (byId : Projections) (env : Collation) : Std.TransCmp (byTurn byId env) := by
  have htime : Std.TransCmp fun a b : SurfaceState => env.localeCompare (a.lastWorkedAt.getD []) (b.lastWorkedAt.getD []) :=
    transCmp_on fun work : SurfaceState => work.lastWorkedAt.getD []
  have hsignals : Std.TransCmp fun a b : SurfaceState => compareOn (signalCount byId) b a := Std.TransCmp.opposite
  have hid : Std.TransCmp fun a b : SurfaceState => env.localeCompare a.surfaceId b.surfaceId :=
    transCmp_on fun work : SurfaceState => work.surfaceId
  exact inferInstanceAs (Std.TransCmp (compareLex _ (compareLex _ _)))

theorem leastBy_tier {rest : SurfaceState → SurfaceState → Ordering} [Std.TransCmp rest] {rows : List SurfaceState}
    (h : leastBy (compareLex (compareOn (tier byId)) rest) rows = some work) :
    work ∈ rows ∧ ∀ other ∈ rows, tier byId work ≤ tier byId other := by
  have htrans : Std.TransCmp fun a b => compareLex (compareOn (tier byId)) rest b a := Std.TransCmp.opposite
  obtain ⟨hmem, -, hleast⟩ := firstBy_spec h
  refine ⟨hmem, fun other hother => ?_⟩
  by_contra hlt
  refine hleast other hother rfl ?_
  rw [compareLex, compareOn, Nat.compare_eq_gt.mpr (Nat.lt_of_not_le hlt), Ordering.gt_then]

theorem continued_spec (h : continued byId works now env row = some work) :
    work ∈ ready byId works now ∧ ∀ other ∈ ready byId works now, tier byId work ≤ tier byId other := by
  rw [continued] at h
  split at h
  · next previous best hprev hbest =>
    obtain ⟨hmem, hleast⟩ := leastBy_tier hbest
    split at h
    · next hkeep =>
      cases h
      exact ⟨List.mem_of_find?_eq_some hprev, fun other hother => hkeep.2.trans (hleast other hother)⟩
    · cases h
      exact ⟨hmem, hleast⟩
  · exact leastBy_tier h

/-- Another resource has its turn after three epochs on one, and only then. -/
theorem Streak.alternative_cases (h : Streak row resources) (byId : Projections) (works : List SurfaceState)
    (now : JsString) (env : Collation) :
    (∃ resource, List.replicate 3 resource <:+ resources ∧ alternative byId works now env row =
      leastBy (byShare byId works env) ((ready byId works now).filter (resourceId byId · ≠ resource))) ∨
    (∀ resource, ¬List.replicate 3 resource <:+ resources) ∧ alternative byId works now env row = none := by
  rw [alternative, h.previous]
  cases hprev : resources.getLast? with
  | none =>
    refine .inr ⟨fun resource hsuffix => ?_, rfl⟩
    cases (last_of_suffix hsuffix).symm.trans hprev
  | some previous =>
    have hcount := h.count previous 3 (h.last.trans hprev)
    have hne : previous ≠ [] := fun hnil => h.filled (hnil ▸ List.mem_of_getLast? hprev)
    have hstreak : resourceStreak row = row.consecutiveResourceEpochs := by rw [resourceStreak, h.last, hprev]; rfl
    by_cases hlong : maxConsecutiveResourceEpochs ≤ resourceStreak row
    · exact .inl ⟨previous, hcount.mpr (hstreak ▸ hlong), if_pos ⟨hne, hlong⟩⟩
    · refine .inr ⟨fun resource hsuffix => hlong ?_, if_neg fun hdue => hlong hdue.2⟩
      cases (last_of_suffix hsuffix).symm.trans hprev
      exact hstreak ▸ hcount.mp hsuffix

theorem select_spec (h : Streak row resources) (hsel : select byId works now env row = some work) :
    Scheduled byId resources (ready byId works now) work := by
  rw [select] at hsel
  rcases h.alternative_cases byId works now env with ⟨resource, hdue, halt⟩ | ⟨hnot, halt⟩
  · rw [halt] at hsel
    cases hleast : leastBy (byShare byId works env) ((ready byId works now).filter (resourceId byId · ≠ resource)) with
    | some other =>
      rw [hleast] at hsel
      cases hsel
      obtain ⟨hmem, hbest⟩ := leastBy_tier hleast
      rw [List.mem_filter, decide_eq_true_eq] at hmem
      refine ⟨hmem.1, fun last hsuffix _ => ?_, fun next hnext hmay => hbest next ?_⟩
      · cases (last_of_suffix hdue).symm.trans (last_of_suffix hsuffix)
        exact hmem.2
      · exact List.mem_filter.mpr ⟨hnext, decide_eq_true (hmay resource hdue ⟨work, hmem⟩)⟩
    | none =>
      -- every component that is ready is of the resource that had the last epochs
      rw [hleast] at hsel
      obtain ⟨hmem, hbest⟩ := continued_spec hsel
      refine ⟨hmem, fun last hsuffix hother => ?_, fun next hnext _ => hbest next hnext⟩
      cases (last_of_suffix hdue).symm.trans (last_of_suffix hsuffix)
      obtain ⟨other, hready, hne⟩ := hother
      cases firstBy_eq_none.mp hleast other (List.mem_filter.mpr ⟨hready, decide_eq_true hne⟩)
  · rw [halt] at hsel
    obtain ⟨hmem, hleast⟩ := continued_spec hsel
    exact ⟨hmem, fun resource hsuffix => absurd hsuffix (hnot resource), fun other hother _ => hleast other hother⟩

/-- A call reserves what is selected, or leaves the history. -/
inductive Outcome (env : Collation) (byId : Projections) (tables : TrackTables) (now : JsString) (row : TrackRow) :
    TrackTables × Except JsString (Option TrackAssignment) → Prop where
  | reserves {work surface focus tables'} (id : JsString) (hsel : select byId (listed tables) now env row = some work)
    (hrow : tables'.row = some (reserved byId (listed tables) row id work)) :
    Outcome env byId tables now row (tables', .ok (some ⟨surface, work, focus⟩))
  | leaves {tables' result row'} (hresult : ∀ assignment, result ≠ .ok (some assignment))
    (hrow : tables'.row = some row') (hsame : row' = row ∨ row' = ended row (listed tables)) :
    Outcome env byId tables now row (tables', result)

theorem reserveSynced_outcome (env : Collation) (byId : Projections) (now : JsString) (hrow : tables.row = some row)
    (sessionId : JsString) : Outcome env byId tables now row (reserveSynced env byId tables sessionId now) := by
  rw [reserveSynced, hrow]
  dsimp only
  split
  · exact .leaves (by simp) hrow (.inl rfl)
  · split
    · exact .leaves (by simp) hrow (.inl rfl)
    · cases hsel : select byId (listed tables) now env row with
      | none => exact .leaves (by simp) rfl (.inr rfl)
      | some work =>
        cases required (some (.str sessionId)) (js "sessionId") with
        | error message => exact .leaves (by simp) hrow (.inl rfl)
        | ok id => exact .reserves id hsel rfl

/-! ## Every run -/

/-- The history of a run is the one of its track. -/
def Counted (run : TrackRun) : Prop := ∀ row, run.tables.row = some row → Streak row run.resources

theorem syncSurfaces_streak (h : ∀ row, tables.row = some row → Streak row resources)
    (surfaces : List SurfaceProjection) (now : JsString) :
    ∀ row, (syncSurfaces tables surfaces now).row = some row → Streak row resources := by
  intro row hrow
  rw [syncSurfaces] at hrow
  split at hrow
  · exact h row hrow
  · next stored hstored =>
    have hold := h stored hstored
    dsimp only at hrow
    split at hrow
    · cases hrow
      exact ⟨hold.last, hold.filled, hold.fresh, hold.count⟩
    · cases hrow
      exact hold

theorem Streak.ended (h : Streak row resources) : Streak (ended row works) resources := by
  rw [Scheduling.ended]
  split
  · exact ⟨h.last, h.filled, h.fresh, h.count⟩
  · split <;> exact ⟨h.last, h.filled, h.fresh, h.count⟩

theorem has_of_ready (h : work ∈ ready byId works now) : byId.has work.surfaceId = true := by
  obtain ⟨hmem, -⟩ := List.mem_filter.mp h
  have hactionable := (List.mem_filter.mp hmem).2
  rw [isActionable, Bool.and_eq_true] at hactionable
  exact hactionable.1

theorem step_counted (env : Collation) (run : TrackRun) (event : TrackEvent) (h : Counted run) :
    Counted (run.step env event) := by
  cases event with
  | start surfaces now =>
    rintro row ⟨⟩
    exact ⟨rfl, nofun, fun _ => rfl, nofun⟩
  | otherwise status activeSessionId activeSurfaceId epochCount lastError surfaces =>
    intro row hrow
    obtain ⟨stored, hstored, rfl⟩ := Option.map_eq_some_iff.mp hrow
    have hold := h stored hstored
    exact ⟨hold.last, hold.filled, hold.fresh, hold.count⟩
  | reserveNext sessionId surfaces now =>
    have hsync := syncSurfaces_streak h surfaces now
    rw [TrackRun.step, Scheduling.reserveNext]
    cases hrow : (syncSurfaces run.tables surfaces now).row with
    | none =>
      rw [reserveSynced, hrow]
      exact hsync
    | some row =>
      have houtcome := reserveSynced_outcome env (byIdOf surfaces) now hrow sessionId
      generalize reserveSynced env (byIdOf surfaces) (syncSurfaces run.tables surfaces now) sessionId now = result at houtcome
      cases houtcome with
      | reserves id hsel hnew =>
        have hwork := has_of_ready (select_spec (hsync row hrow) hsel).isReady
        intro row' hrow'
        cases hnew.symm.trans hrow'
        exact (hsync row hrow).reserve (resourceId_ne hwork) id
      | @leaves tables' result row' hresult hnew hsame =>
        have hkept : Streak row' run.resources := by
          rcases hsame with rfl | rfl
          · exact hsync _ hrow
          · exact (hsync row hrow).ended
        split
        · next heq => cases heq; exact absurd rfl (hresult _)
        · next heq =>
          cases heq
          intro row'' hrow''
          cases hnew.symm.trans hrow''
          exact hkept

/-- **No resource has a fourth epoch in a row while another one is ready**, and of what may be worked on nothing is of
a better tier, in whatever order a track is started, works and changes. -/
theorem reached_scheduled (env : Collation) (events : List TrackEvent) :
    (runSteps (TrackRun.step env) .new events).SchedulesNext env := by
  have hcounted : Counted (runSteps (TrackRun.step env) .new events) :=
    runSteps_invariant (step_counted env) (by rintro row ⟨⟩) events
  intro sessionId surfaces now tables assignment hnext
  have hsync := syncSurfaces_streak hcounted surfaces now
  rw [Scheduling.reserveNext] at hnext
  cases hrow : (syncSurfaces (runSteps (TrackRun.step env) .new events).tables surfaces now).row with
  | none =>
    rw [reserveSynced, hrow] at hnext
    cases hnext
  | some row =>
    have houtcome := reserveSynced_outcome env (byIdOf surfaces) now hrow sessionId
    rw [hnext] at houtcome
    cases houtcome with
    | reserves id hsel hnew => exact select_spec (hsync row hrow) hsel
    | leaves hresult hnew hsame => exact absurd rfl (hresult _)

end Scheduling

end Beale.Track
