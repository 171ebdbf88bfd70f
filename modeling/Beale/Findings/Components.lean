import Beale.Findings.Sequence
import Beale.Library.Links

/-!
# The components of chains

- `mem_unique`, `dependencies_of_reaches`: the query for cycles leaves nothing out.
- `ComponentsChecked`, `validatedComponents_ok`: what `validatedComponents` has checked.
- `Performed.chained`, `performAll_chained`: every sequence of calls keeps them so, where no
  transition makes a chain or unmakes one.
- `reclassified_chain_keeps_components`: a transition that does.
-/

namespace Beale.Findings

open Beale.Library

variable {env : FindingPlatform} {db db' : Database} {call : Call}

/-! ## Distinct ids -/

variable {α : Type}

theorem mem_foldl_unique [DecidableEq α] {x : α} (rest seen : List α) :
    x ∈ rest.foldl (fun seen value => if value ∈ seen then seen else seen ++ [value]) seen ↔
      x ∈ seen ∨ x ∈ rest := by
  induction rest generalizing seen with
  | nil => simp
  | cons value rest ih =>
    rw [List.foldl_cons, ih]
    by_cases hvalue : value ∈ seen
    · rw [if_pos hvalue]
      constructor
      · rintro (h | h)
        · exact .inl h
        · exact .inr (List.mem_cons_of_mem _ h)
      · rintro (h | h)
        · exact .inl h
        · rcases List.mem_cons.mp h with rfl | h
          · exact .inl hvalue
          · exact .inr h
    · rw [if_neg hvalue]
      simp [or_assoc]

theorem mem_unique [DecidableEq α] {x : α} {values : List α} : x ∈ unique values ↔ x ∈ values := by
  unfold unique
  simp [mem_foldl_unique]

theorem length_unique_le [DecidableEq α] (values : List α) :
    (unique values).length ≤ values.length := by
  have hfold : ∀ rest seen : List α, (rest.foldl (fun seen value =>
      if value ∈ seen then seen else seen ++ [value]) seen).length ≤ seen.length + rest.length := by
    intro rest
    induction rest with
    | nil => simp
    | cons value rest ih =>
      intro seen
      rw [List.foldl_cons, List.length_cons]
      split
      next =>
        have := ih seen
        omega
      next =>
        have := ih (seen ++ [value])
        rw [List.length_append, List.length_singleton] at this
        omega
  simpa [unique] using hfold values []

theorem unique_eq_nil [DecidableEq α] {values : List α} : unique values = [] ↔ values = [] := by
  simp only [List.eq_nil_iff_forall_not_mem, mem_unique]

/-! ## The query for cycles -/

theorem closing_reachStep (db : Database) : Closing db.componentsOf (reachStep db) := by
  intro found x
  unfold reachStep
  rw [mem_unique, List.mem_append, List.mem_flatMap]

theorem componentsOf_subset (db : Database) (id : JsString) :
    db.componentsOf id ⊆ db.components.values.flatten := by
  unfold Database.componentsOf
  cases hget : db.components.get? id with
  | none => simp
  | some ids =>
    intro x hx
    exact List.mem_flatten.mpr ⟨ids, JsMap.mem_values_of_get? hget, hx⟩

variable {id workspaceId : JsString}

theorem dependencies_of_reaches {claimId : JsString} (h : Reaches db.componentsOf id claimId) :
    claimId ∈ dependencies db id :=
  (closing_reachStep db).mem_iterate_of_reaches (componentsOf_subset db) h

/-! ## What is checked of components -/

/-- What the ids alone are checked for. -/
structure IdsChecked (classification : Classification) (ids components : List JsString) : Prop where
  atMostEight : components.length ≤ 8
  chains : components ≠ [] ↔ classification = securityChain
  given : ids ≠ [] ↔ classification = securityChain

variable {classification : Classification} {ids components : List JsString}

theorem componentIds_ok (h : componentIds classification ids = .ok components) :
    IdsChecked classification ids components := by
  rw [componentIds] at h
  obtain ⟨hcount, h⟩ := Client.exceptGuard_ok.mp h
  obtain ⟨texts, htexts, h⟩ := Client.exceptBind_ok.mp h
  have hlen : texts.length = ids.length := (Client.exceptMapM_ok.mp htexts).length_eq.symm
  have hnil : texts = [] ↔ ids = [] := by
    rw [← List.length_eq_zero_iff, hlen, List.length_eq_zero_iff]
  split at h
  next hother =>
    -- no chain: no components
    split at h
    next => cases h
    next hempty =>
      cases h
      have hids : ids = [] := by
        rw [← hnil, ← unique_eq_nil]
        simpa using hempty
      exact ⟨by simp, by simpa using hother, by simp [hids, hother]⟩
  next hchain =>
    split at h
    next => cases h
    next hsome =>
      cases h
      have hne : unique texts ≠ [] := by simpa using hsome
      have hle := length_unique_le texts
      refine ⟨by omega, ?_, ?_⟩
      · simpa [hne] using hchain
      · have hids : ids ≠ [] := fun hids => hne (unique_eq_nil.mpr (hnil.mpr hids))
        simpa [hids] using hchain

structure ComponentChecked (db : Database) (claimId : Option JsString) (id : JsString) : Prop where
  other : claimId ≠ some id
  exists_row : ∃ row, db.claims.get? id = some row
  noCycle : ∀ k, claimId = some k → ¬Reaches db.componentsOf id k

variable {claimId : Option JsString}

theorem validatedComponent_ok
    (h : ((validatedComponent env workspaceId claimId id).run db).1 = .ok ()) :
    ComponentChecked db claimId id := by
  unfold validatedComponent at h
  simp only [Client.run_bind, Client.run_check, run_get] at h
  split at h
  next _ s' hself =>
    obtain ⟨hself, rfl⟩ := Prod.mk.inj hself
    split at h
    next _ s'' hcomp =>
      obtain ⟨hcomp, rfl⟩ := Prod.mk.inj hcomp
      have hother : claimId ≠ some id := fun heq => by
        rw [if_pos heq] at hself
        cases hself
      have hfound : ∃ found, readFinding env db workspaceId id false = some found := by
        cases hread : readFinding env db workspaceId id false with
        | none =>
          rw [hread] at hcomp
          cases hcomp
        | some found => exact ⟨found, rfl⟩
      obtain ⟨found, hfound⟩ := hfound
      obtain ⟨row, hrow, -, -⟩ := readFinding_some hfound
      refine ⟨hother, ⟨row, hrow⟩, fun k hk hreach => ?_⟩
      subst hk
      have hmem := dependencies_of_reaches hreach
      simp only [refuseCycle, Client.run_bind, Client.run_query, Client.run_check, hmem, decide_true,
        if_true] at h
      cases h
    next => cases h
  next => cases h

theorem validatedEach_ok (h : ((validatedEach env workspaceId claimId ids).run db).1 = .ok ()) :
    ∀ id ∈ ids, ComponentChecked db claimId id := by
  induction ids with
  | nil => simp
  | cons id rest ih =>
    unfold validatedEach at h
    rw [Client.run_bind, run_readsOnly (validatedComponent_readsOnly env _ _ _)] at h
    cases hid : ((validatedComponent env workspaceId claimId id).run db).1 with
    | error e =>
      rw [hid] at h
      cases h
    | ok checked =>
      rw [hid] at h
      intro id' hid'
      rcases List.mem_cons.mp hid' with rfl | hid'
      · exact validatedComponent_ok hid
      · exact ih h id' hid'

/-- What `validatedComponents` has checked. -/
structure ComponentsChecked (db : Database) (classification : Classification) (ids : List JsString)
    (claimId : Option JsString) (components : List JsString) : Prop where
  ids : IdsChecked classification ids components
  each : ∀ id ∈ components, ComponentChecked db claimId id

theorem validatedComponents_ok
    (h : ((validatedComponents env workspaceId classification ids claimId).run db).1 = .ok components) :
    ComponentsChecked db classification ids claimId components := by
  unfold validatedComponents at h
  simp only [Client.run_bind, Client.run_check] at h
  cases hids : componentIds classification ids with
  | error e =>
    rw [hids] at h
    cases h
  | ok components' =>
    rw [hids] at h
    simp only at h
    rw [run_readsOnly (validatedEach_readsOnly env _ _ _)] at h
    cases heach : ((validatedEach env workspaceId claimId components').run db).1 with
    | error e =>
      rw [heach] at h
      cases h
    | ok checked =>
      rw [heach] at h
      cases h
      exact ⟨componentIds_ok hids, validatedEach_ok heach⟩

/-! ## Chains -/

/-- The component links: acyclic, at most eight of a claim, and some of just the chains. -/
structure Chained (db : Database) : Prop where
  acyclic : Acyclic db.componentsOf
  atMostEight : ∀ id, (db.componentsOf id).length ≤ 8
  chains : ∀ id row, db.claims.get? id = some row →
    (db.componentsOf id ≠ [] ↔ row.classification = securityChain)

def ComponentsExist (db : Database) : Prop :=
  ∀ id component, component ∈ db.componentsOf id → ∃ row, db.claims.get? component = some row

/-- A call gives one claim a row, and components where it has been given some. -/
structure ComponentsWritten (id : JsString) (row' : ClaimRow) (components : Option (List JsString))
    (db db' : Database) : Prop where
  claims : db'.claims = db.claims.set id row'
  componentsOf : db'.componentsOf = match components with
    | some components => Function.update db.componentsOf id components
    | none => db.componentsOf

theorem componentsOf_set (db : Database) (id : JsString) (components : List JsString)
    (h : db'.components = db.components.set id components) :
    db'.componentsOf = Function.update db.componentsOf id components := by
  funext id'
  unfold Database.componentsOf
  rw [h, JsMap.get?_set, Function.update_apply]
  split <;> rfl

theorem ComponentsWritten.exist {row' : ClaimRow} {components : Option (List JsString)}
    (h : ComponentsWritten id row' components db db') (hexist : ComponentsExist db)
    (hnew : ∀ ids ∈ components, ∀ component ∈ ids, component ≠ id →
      ∃ row, db.claims.get? component = some row) : ComponentsExist db' := by
  have hkeep : ∀ component, (component ≠ id → ∃ row, db.claims.get? component = some row) →
      ∃ row, db'.claims.get? component = some row := by
    intro component hthere
    rw [h.claims, JsMap.get?_set]
    split
    next => exact ⟨row', rfl⟩
    next hne => exact hthere hne
  intro id' component hmem
  rw [h.componentsOf] at hmem
  refine hkeep component fun hne => ?_
  cases components with
  | none => exact hexist id' component hmem
  | some ids =>
    simp only [Function.update_apply] at hmem
    split at hmem
    next => exact hnew ids rfl component hmem hne
    next => exact hexist id' component hmem

/-- What a call may write keeps the links as they should be. -/
theorem ComponentsWritten.chained {row' : ClaimRow}
    {components : Option (List JsString)} (h : ComponentsWritten id row' components db db')
    (hchained : Chained db)
    (hnew : ∀ ids ∈ components, ids.length ≤ 8 ∧
      ∀ component ∈ ids, component ≠ id ∧ ¬Reaches db.componentsOf component id)
    (hclass : components.getD (db.componentsOf id) ≠ [] ↔ row'.classification = securityChain) :
    Chained db' := by
  have hof : ∀ id', id' ≠ id → db'.componentsOf id' = db.componentsOf id' := by
    intro id' hne
    rw [h.componentsOf]
    cases components with
    | none => rfl
    | some ids => exact Function.update_of_ne hne _ _
  have hself : db'.componentsOf id = components.getD (db.componentsOf id) := by
    rw [h.componentsOf]
    cases components with
    | none => rfl
    | some ids => exact Function.update_self _ _ _
  constructor
  · rw [h.componentsOf]
    cases components with
    | none => exact hchained.acyclic
    | some ids => exact hchained.acyclic.update (hnew ids rfl).2
  · intro id'
    by_cases hid : id' = id
    · rw [hid, hself]
      cases components with
      | none => exact hchained.atMostEight id
      | some ids => exact (hnew ids rfl).1
    · rw [hof id' hid]
      exact hchained.atMostEight id'
  · intro id' row hrow
    rw [h.claims, JsMap.get?_set] at hrow
    split at hrow
    next hid =>
      cases hrow
      rw [hid, hself]
      exact hclass
    next hid =>
      rw [hof id' hid]
      exact hchained.chains id' row hrow

/-- Nothing leads to a claim that is not there. -/
theorem ComponentsExist.not_reaches (h : ComponentsExist db)
    (hnone : db.claims.get? id = none) (id' : JsString) : ¬Reaches db.componentsOf id' id := by
  intro hreach
  have hlink : ∃ id'', id ∈ db.componentsOf id'' := by
    cases hreach with
    | single hlink => exact ⟨_, hlink⟩
    | tail _ hlink => exact ⟨_, hlink⟩
  obtain ⟨id'', hmem⟩ := hlink
  obtain ⟨row, hrow⟩ := h id'' id hmem
  rw [hnone] at hrow
  cases hrow

/-! ## Calls -/

/-- Where a transition names another classification for a claim as it expects it: it neither makes
a chain of it nor unmakes one. -/
def KeepsChains (db : Database) : Request → Prop
  | .operation call (.transition id input _) =>
    ∀ row ∈ db.claimIn call.workspaceId id, row.revision = input.expectedRevision →
      ∀ text ∈ input.classification,
        match claimClassification text with
        | .ok classification => classification = securityChain ↔ row.classification = securityChain
        | .error _ => True
  | _ => True

instance (db : Database) (request : Request) : Decidable (KeepsChains db request) := by
  cases request with
  | records => exact instDecidableTrue
  | operation call op =>
    cases op with
    | transition id input =>
      refine @Option.decidableForallMem _ _ (fun row => ?_) _
      refine @instDecidableForall _ _ _ ?_
      refine @Option.decidableForallMem _ _ (fun text => ?_) _
      generalize claimClassification text = checked
      cases checked <;> (dsimp only; infer_instance)
    | _ => exact instDecidableTrue

structure LinksInv (db : Database) : Prop where
  chained : Chained db
  exist : ComponentsExist db

theorem insertFinding_links {status : CreationStatus} {input : CreateFindingInput}
    {surfaceId : Option JsString} {evidence : List NormalizedEvidence}
    (h : insertFinding call status input surfaceId id evidence classification components db = .ok db')
    (hcheck : ComponentsChecked db classification (input.componentClaimIds.getD []) none components)
    (hinv : LinksInv db) : LinksInv db' := by
  obtain ⟨db₁, evidenceIds, row, text, hnew, -, hnone, hself, hthere, -, rfl⟩ := insertFinding_ok h
  obtain ⟨-, -, -, hclass, -, -⟩ := newClaim_ok hnew
  have hwr : ComponentsWritten id row (some components) db
      { db₁ with
        claims := db.claims.set id row
        components := db.components.set id components
        transitions := db.transitions.set (id, 1)
          (recordedTransition call none status.status text call.actorId evidenceIds false) } :=
    ⟨rfl, componentsOf_set db id components rfl⟩
  constructor
  · refine hwr.chained hinv.chained (fun ids hids => ?_) ?_
    · cases hids
      refine ⟨hcheck.ids.atMostEight, fun component hmem => ⟨?_, hinv.exist.not_reaches hnone _⟩⟩
      rintro rfl
      exact hself hmem
    · rw [hclass]
      exact hcheck.ids.chains
  · refine hwr.exist hinv.exist fun ids hids component hmem hne => ?_
    cases hids
    exact hthere component hmem hne

variable {body : Database → Except JsString Database}

theorem transition_links {input : TransitionFindingInput} {fresh : Bool}
    (hbody : transitionBody env call fresh id input
      (readFinding env db call.workspaceId id false) = .ok body)
    (h : body db = .ok db') (hkeeps : KeepsChains db (.operation call (.transition id input fresh)))
    (hinv : LinksInv db) : LinksInv db' := by
  obtain ⟨current, newEvidence, classification, tracking, hfound, -, hrev, -, -, -, hclass, -,
    rfl⟩ := transitionBody_ok hbody
  obtain ⟨db₁, evidenceIds, row, staleReason, text, -, hadded, hrow, hrow', -, rfl⟩ :=
    transitionTransaction_ok h
  obtain ⟨hws, rfl⟩ := readFinding_row hfound hrow
  have hcomps : db₁.components = db.components := by rw [hadded.others]
  have hwr : ComponentsWritten id
      (transitionedRow input (readRow env db id row false)
        (reviewedClaim (readRow env db id row false) input classification) tracking staleReason
        call.now row) none db
      { db₁ with
        claims := db.claims.set id (transitionedRow input (readRow env db id row false)
          (reviewedClaim (readRow env db id row false) input classification) tracking staleReason
          call.now row)
        transitions := db.transitions.set (id, (readRow env db id row false).revision + 1)
          (recordedTransition call (some (readRow env db id row false).status) input.toStatus text
            call.actorId evidenceIds false) } := by
    refine ⟨rfl, ?_⟩
    funext id'
    unfold Database.componentsOf
    simp only [hcomps]
  constructor
  · refine hwr.chained hinv.chained (by rintro _ ⟨⟩) ?_
    show db.componentsOf id ≠ [] ↔ (if input.classification.isNone = true then row.classification
      else classification) = securityChain
    rw [hinv.chained.chains id row hrow]
    cases htext : input.classification with
    | none => simp
    | some named =>
      rw [htext] at hclass
      have hkeep := hkeeps row (claimIn_some.mpr ⟨hrow, hws⟩) (hrow'.trans hrev) named htext
      have hclass : claimClassification named = .ok classification := hclass
      simp only [hclass] at hkeep
      simpa using hkeep.symm
  · exact hwr.exist hinv.exist (by rintro _ ⟨⟩)

variable {current : FindingSummary}

theorem revise_links {input : ReviseResearchClaimInput}
    (hchecks : reviseChecks id input (readFinding env db call.workspaceId id false) =
      .ok (current, classification))
    (hcomps : ((revisedComponents env call id input current classification).run db).1 =
      .ok components)
    (hbody : reviseBody env call id input current classification components = .ok body)
    (h : body db = .ok db') (hinv : LinksInv db) : LinksInv db' := by
  obtain ⟨hfound, hrev, hclass⟩ := reviseChecks_ok hchecks
  obtain ⟨tracking, rfl⟩ := reviseBody_ok hbody
  obtain ⟨row, title, confidence, text, -, hrow, -, -, -, rfl⟩ := reviseTransaction_ok h
  obtain ⟨-, rfl⟩ := readFinding_row hfound hrow
  have hwr : ComponentsWritten id
      (revisedRow input (readRow env db id row false) classification tracking title confidence call.now
        row) (if input.componentClaimIds.isSome then some components else none) db
      { db with
        claims := db.claims.set id (revisedRow input (readRow env db id row false) classification
          tracking title confidence call.now row)
        components := if input.componentClaimIds.isSome then db.components.set id components
          else db.components
        transitions := db.transitions.set (id, (readRow env db id row false).revision + 1)
          (recordedTransition call (some (readRow env db id row false).status)
            (readRow env db id row false).status text call.actorId [] false) } := by
    refine ⟨rfl, ?_⟩
    cases input.componentClaimIds with
    | none => rfl
    | some ids => exact componentsOf_set db id components rfl
  have hrowClass : (revisedRow input (readRow env db id row false) classification tracking title
      confidence call.now row).classification = classification := by
    show (if input.classification.isNone = true then row.classification else classification) = _
    cases hnamed : input.classification with
    | some named => rfl
    | none =>
      -- the classification has been read back as it is
      rw [hnamed] at hclass
      exact Except.ok.inj ((claimClassification_self row.classification).symm.trans hclass)
  have hcheck : input.componentClaimIds.isSome = true ∨ input.classification.isSome = true →
      ComponentsChecked db classification (input.componentClaimIds.getD (db.componentsOf id)) (some id)
        components := by
    intro hsome
    unfold revisedComponents at hcomps
    rw [if_neg] at hcomps
    · exact validatedComponents_ok hcomps
    · rintro ⟨hids, hclass⟩
      rw [Option.isNone_iff_eq_none] at hids hclass
      simp [hids, hclass] at hsome
  refine ⟨hwr.chained hinv.chained (fun ids hids => ?_) ?_,
    hwr.exist hinv.exist fun ids hids component hmem _ => ?_⟩
  · split at hids
    next hsome =>
      cases hids
      have hcheck := hcheck (.inl hsome)
      refine ⟨hcheck.ids.atMostEight, fun component hmem => ⟨?_, (hcheck.each component hmem).noCycle
        id rfl⟩⟩
      rintro rfl
      exact (hcheck.each component hmem).other rfl
    next => cases hids
  · rw [hrowClass]
    cases hids : input.componentClaimIds with
    | some ids => exact (hcheck (.inl (by simp [hids]))).ids.chains
    | none =>
      show db.componentsOf id ≠ [] ↔ _
      cases hnamed : input.classification with
      | some named =>
        have hgiven := (hcheck (.inr (by simp [hnamed]))).ids.given
        rw [hids] at hgiven
        exact hgiven
      | none =>
        rw [hinv.chained.chains id row hrow]
        rw [hnamed] at hclass
        rw [Except.ok.inj ((claimClassification_self row.classification).symm.trans hclass)]
  · split at hids
    next hsome =>
      cases hids
      exact ((hcheck (.inl hsome)).each component hmem).exists_row
    next => cases hids

theorem updateTransaction_links {guard : ClaimRow → Bool}
    {f : ClaimRow → ClaimRow} {toStatus : FindingStatus} {reason : Except JsString JsString}
    {actorId : Option JsString} {operatorOverride : Bool}
    (h : updateTransaction call id current guard f toStatus reason actorId operatorOverride db
      = .ok db') (hf : ∀ row, ContentKept row (f row)) (hinv : LinksInv db) : LinksInv db' := by
  obtain ⟨row, text, hrow, -, -, -, rfl⟩ := updateTransaction_ok h
  have hwr : ComponentsWritten id (f row) none db
      { db with
        claims := db.claims.set id (f row)
        transitions := db.transitions.set (id, current.revision + 1)
          (recordedTransition call (some current.status) toStatus text actorId [] operatorOverride) } :=
    ⟨rfl, rfl⟩
  refine ⟨hwr.chained hinv.chained nofun ?_, hwr.exist hinv.exist nofun⟩
  show db.componentsOf id ≠ [] ↔ (f row).classification = securityChain
  rw [(hf row).classification]
  exact hinv.chained.chains id row hrow

theorem Performed.links {op : Operation} (h : Performed env call db op db')
    (hkeeps : KeepsChains db (.operation call op)) (hinv : LinksInv db) : LinksInv db' := by
  cases h with
  | created status input surfaceId evidence classification components _ _ hcomps h =>
    exact insertFinding_links h (validatedComponents_ok hcomps) hinv
  | transitioned id input fresh body _ hbody h => exact transition_links hbody h hkeeps hinv
  | revised id input current classification components body _ hchecks hcomps hbody h =>
    exact revise_links hchecks hcomps hbody h hinv
  | updated _ id current guard f toStatus reason actorId operatorOverride _ hf _ _ _ h =>
    exact updateTransaction_links h hf hinv

theorem perform_links (request : Request) (hkeeps : KeepsChains db request) (hinv : LinksInv db) :
    LinksInv (perform env db request) := by
  cases request with
  | records records => exact ⟨⟨hinv.chained.1, hinv.chained.2, hinv.chained.3⟩, hinv.exist⟩
  | operation call op =>
    rcases perform_cases env db call op with hsame | hperf
    · rw [hsame]
      exact hinv
    · exact hperf.links hkeeps hinv

/-- After every sequence of calls whose transitions neither make nor unmake chains, the component
links are acyclic, at most eight of a claim, and some of just the chains. -/
theorem performAll_chained (env : FindingPlatform) (requests : List Request)
    (hkeeps : RunMeets (perform env) KeepsChains Database.empty requests) :
    Chained (performAll env requests) := by
  have hempty : LinksInv Database.empty := by
    refine ⟨⟨fun id h => ?_, fun id => Nat.zero_le _, fun id row hrow => ?_⟩, fun id c hc => ?_⟩
    · cases h with
      | single hlink => cases hlink
      | tail _ hlink => cases hlink
    · cases hrow
    · cases hc
  exact (runSteps_invariant_of_meets (I := LinksInv) (fun db request h hi => perform_links request hi h)
    hempty hkeeps).chained

/-! ## A chain and its component -/

/-- A piece of evidence that is direct. -/
def artifact : FindingEvidenceInput where
  kind := .artifact
  referenceId := some (js "artifact")
  contentHash := none
  summary := js "seen"
  sessionId := none
  actorId := none
  independent := false
  metadata := []

/-- The finding `claim_a0`, and the chain `claim_b0` it is the component of. -/
def chainOfOne : List Request :=
  [.operation (callOf "a") (.create .observed { titled "t" none with evidence := [artifact] } none),
    .operation (callOf "b") (.create .hypothesis
      { titled "t" none with
        classification := some (js "security.chain")
        componentClaimIds := some [js "claim_a0"] } none)]

/-- Evidence is added to the chain, under a classification. -/
def reclassified (classification : String) : Request :=
  .operation (callOf "c") (.transition (js "claim_b0")
    { expectedRevision := 1
      toStatus := .hypothesis
      reason := js "more evidence"
      evidence := [artifact]
      sourceRevision := none
      environmentFingerprint := none
      reproductionRunbookId := none
      stepsToReproduce := none
      reportId := none
      disclosureReference := none
      classification := some (js classification)
      surfaceId := none } false)

theorem performAll_chained_sameClass :
    Chained (performAll plainPlatform (chainOfOne ++ [reclassified " security.chain"])) :=
  performAll_chained plainPlatform _ (by decide +kernel)

def reclassifiedStore : Database := performAll plainPlatform (chainOfOne ++ [reclassified "security.bug"])

/-- A transition that names another classification leaves the components as they are. -/
theorem reclassified_chain_keeps_components :
    reclassifiedStore.componentsOf (js "claim_b0") = [js "claim_a0"] ∧
      (∃ row, reclassifiedStore.claims.get? (js "claim_b0") = some row ∧
        row.classification.1 = js "security.bug") ∧ ¬Chained reclassifiedStore := by
  have hcomponents : reclassifiedStore.componentsOf (js "claim_b0") = [js "claim_a0"] := by
    decide +kernel
  have hclass : (reclassifiedStore.claims.get? (js "claim_b0")).map (fun row => row.classification.1) =
      some (js "security.bug") := by decide +kernel
  obtain ⟨row, hrow, hbug⟩ := Option.map_eq_some_iff.mp hclass
  refine ⟨hcomponents, ⟨row, hrow, hbug⟩, fun hchained => ?_⟩
  have hchain := (hchained.chains (js "claim_b0") row hrow).mp (by simp [hcomponents])
  rw [hchain] at hbug
  exact absurd hbug (by decide)

end Beale.Findings
