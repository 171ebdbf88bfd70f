import Beale.Findings.Authorship
import Beale.Findings.Catalog

/-!
# The independence of verification

- `recordedAt_eq_some`, `mem_authorsBefore`: what the author query finds.
- `VerifiedIndependently`, `reached_verifiedIndependently`: in a fair run each of them is by an
  actor that has never changed the content.
- `author_verifies_own_claim`: an author the query does not see.
-/

namespace Beale.Findings

open Beale.Library

variable {env : FindingPlatform} {db db' : Database} {call : Call}

/-! ## The author query -/

variable {id : JsString}

theorem recordedAt_eq_some {e : JsString} {v : Nat} {t : TransitionRow}
    (ht : db.transitions.get? (id, v) = some t) (he : e ∈ t.evidenceIds)
    (hunique : ∀ r t', db.transitions.get? (id, r) = some t' → e ∈ t'.evidenceIds → r = v) :
    recordedAt db id e = some v := by
  unfold recordedAt
  rw [List.min?_eq_some_iff]
  constructor
  · refine List.mem_map.mpr ⟨((id, v), t), List.mem_filter.mpr ⟨JsMap.mem_of_get? ht, ?_⟩, rfl⟩
    simpa using he
  · intro r hr
    obtain ⟨⟨⟨id', r'⟩, t'⟩, hmem, rfl⟩ := List.mem_map.mp hr
    obtain ⟨hentry, hlists⟩ := List.mem_filter.mp hmem
    simp only [decide_eq_true_eq] at hlists
    obtain ⟨rfl, he'⟩ := hlists
    exact Nat.le_of_eq (hunique r' t' (JsMap.get?_of_mem hentry) he').symm

theorem recordedAt_eq_none {e : JsString}
    (h : ∀ r t, db.transitions.get? (id, r) = some t → e ∉ t.evidenceIds) :
    recordedAt db id e = none := by
  unfold recordedAt
  rw [List.min?_eq_none_iff, List.map_eq_nil_iff, List.filter_eq_nil_iff]
  rintro ⟨⟨id', r⟩, t⟩ hentry hlists
  simp only [decide_eq_true_eq] at hlists
  obtain ⟨rfl, he⟩ := hlists
  exact h r t (JsMap.get?_of_mem hentry) he

theorem mem_authorsBefore {revision r : Nat} {t : TransitionRow}
    (ht : db.transitions.get? (id, r) = some t) (hlt : r < revision)
    (hcounts : countsAsAuthorship r t = true) : t ∈ authorsBefore db id revision := by
  unfold authorsBefore
  refine List.mem_map.mpr ⟨((id, r), t), List.mem_filter.mpr ⟨JsMap.mem_of_get? ht, ?_⟩, rfl⟩
  simpa using ⟨hlt, hcounts⟩

variable {e : FindingEvidence}

theorem validIndependentEvidence_ok {claim : FindingSummary}
    (h : validIndependentEvidence env db claim e = true) :
    e.independent = true ∧ e.claimBindingHash.isSome = true ∧
      ∀ author ∈ authorsBefore db claim.id ((recordedAt db claim.id e.id).getD (claim.revision + 1)),
        author.actorId ≠ e.actorId := by
  unfold validIndependentEvidence at h
  simp only [Bool.and_eq_true, Bool.or_eq_true, decide_eq_true_eq, List.all_eq_true] at h
  obtain ⟨⟨⟨⟨⟨⟨⟨⟨hindep, -⟩, -⟩, -⟩, -⟩, -⟩, hbound⟩, -⟩, -, hauthors⟩ := h
  refine ⟨hindep, ?_, fun author hauthor => (hauthors author hauthor).2⟩
  rcases hbound with hbound | hbound <;> rw [hbound] <;> rfl

/-! ## Reliance -/

/-- The evidence a transition is checked against: what the claim has, and what is added. -/
def evidenceAtReview (env : FindingPlatform) (call : Call) (id : JsString) (current : FindingSummary)
    (reviewed : FindingSummary) (newEvidence : List NormalizedEvidence) : List FindingEvidence :=
  current.evidence ++ (boundEvidence env reviewed newEvidence).zipIdx.map (pendingEvidence id call.now)

/-- The reviews a transition to verified relies on: the evidence that is accepted. -/
def reliedOn (env : FindingPlatform) (db : Database) (call : Call) (id : JsString)
    (input : TransitionFindingInput) (fresh : Bool) : List FindingEvidence :=
  match readFinding env db call.workspaceId id false,
    normalizeEvidenceInputs input.evidence call.sessionId call.actorId fresh call.author.isSome with
  | some current, .ok newEvidence =>
    match claimClassification (input.classification.getD current.classification.1) with
    | .ok classification =>
      let reviewed := reviewedClaim current input classification
      (evidenceAtReview env call id current reviewed newEvidence).filter
        (validIndependentEvidence env db reviewed)
    | .error _ => []
  | _, _ => []

variable {input : TransitionFindingInput}

theorem mem_reliedOn {fresh : Bool}
    : e ∈ reliedOn env db call id input fresh ↔
      ∃ current newEvidence classification,
        readFinding env db call.workspaceId id false = some current ∧
        normalizeEvidenceInputs input.evidence call.sessionId call.actorId fresh call.author.isSome =
          .ok newEvidence ∧
        claimClassification (input.classification.getD current.classification.1) = .ok classification ∧
        e ∈ evidenceAtReview env call id current (reviewedClaim current input classification)
          newEvidence ∧
        validIndependentEvidence env db (reviewedClaim current input classification) e = true := by
  unfold reliedOn
  constructor
  · intro h
    split at h
    next current newEvidence hfound hnorm =>
      split at h
      next classification hclass =>
        obtain ⟨hmem, hvalid⟩ := List.mem_filter.mp h
        exact ⟨current, newEvidence, classification, hfound, hnorm, hclass, hmem, hvalid⟩
      next => cases h
    next => cases h
  · rintro ⟨current, newEvidence, classification, hfound, hnorm, hclass, hmem, hvalid⟩
    rw [hfound, hnorm]
    simp only [hclass]
    exact List.mem_filter.mpr ⟨hmem, hvalid⟩

/-- A review is the work of its actor: of the one that recorded it, or that records it now. -/
def RecordedBy (db : Database) (call : Call) (id : JsString) (e : FindingEvidence) : Prop :=
  (∃ r t, db.transitions.get? (id, r) = some t ∧ e.id ∈ t.evidenceIds ∧ t.actorId = e.actorId) ∨
    e.actorId = call.actorId

/-- A claim that becomes verified does so by a transition that relies on a review, and each review
it relies on is by an actor that has never changed the content of the claim. -/
def VerifiedIndependently (env : FindingPlatform) (s : Authored) (request : Request) : Prop :=
  ∀ id row row', s.db.claims.get? id = some row → row.status ≠ .verified →
    (s.step env request).db.claims.get? id = some row' → row'.status = .verified →
    ∃ call input fresh, request = .operation call (.transition id input fresh) ∧
      reliedOn env s.db call id input fresh ≠ [] ∧
      ∀ e ∈ reliedOn env s.db call id input fresh, RecordedBy s.db call id e ∧
        ∀ w ∈ s.writes, w.claimId = id → w.actorId ≠ e.actorId

variable {s : Authored}

theorem pending_not_listed (hinv : AuthorInv s) {now : JsString} (item : NormalizedEvidence × Nat) :
    recordedAt s.db id (pendingEvidence id now item).id = none := by
  refine recordedAt_eq_none fun r t ht he => ?_
  obtain ⟨⟨rest, hrest⟩, -⟩ := hinv.listed id r t ht _ he
  have hhead := congrArg List.head? hrest
  revert hhead
  show (some _ = some _) → False
  decide

theorem independent_of_mem_reliedOn {fresh : Bool} (hinv : AuthorInv s)
    (hfair : ReviewsFairly env s (.operation call (.transition id input fresh)))
    (hexp : ∀ current, readFinding env s.db call.workspaceId id false = some current →
      current.revision = input.expectedRevision)
    (h : e ∈ reliedOn env s.db call id input fresh) :
    RecordedBy s.db call id e ∧ ∀ w ∈ s.writes, w.claimId = id → w.actorId ≠ e.actorId := by
  obtain ⟨current, newEvidence, classification, hfound, hnorm, hclass, hmem, hvalid⟩ := mem_reliedOn.mp h
  obtain ⟨hindep, hbound, hauthors⟩ := validIndependentEvidence_ok hvalid
  obtain ⟨row, hrow, -, hcur⟩ := readFinding_some hfound
  have hid : current.id = id := by
    rw [hcur]
    rfl
  have hrev : current.revision = row.revision := by
    rw [hcur]
    rfl
  have hauthors : ∀ author ∈ authorsBefore s.db id ((recordedAt s.db id e.id).getD (row.revision + 1)),
      author.actorId ≠ e.actorId := by
    rw [← hid, ← hrev]
    exact hauthors
  -- a write the query counts is not the reviewer's
  have hcount : ∀ w ∈ s.writes, w.claimId = id → s.Seen w →
      w.revision < (recordedAt s.db id e.id).getD (row.revision + 1) → w.actorId ≠ e.actorId := by
    intro w hw hclaim hseen hlt
    obtain ⟨t, ht, hactor⟩ := hinv.writes w hw
    have hcounts := hseen t ht
    rw [hclaim] at ht
    rw [← hactor]
    exact hauthors t (mem_authorsBefore ht hlt hcounts)
  rcases List.mem_append.mp hmem with hold | hnew
  · -- the claim has had the review
    rw [hcur] at hold
    obtain ⟨item₀, hitem₀, rfl⟩ := List.mem_map.mp hold
    obtain ⟨item, hitem, rfl⟩ := List.mem_map.mp hitem₀
    have hev := mem_evidenceOf hitem
    have hclaimId : item.2.claimId = id := by
      unfold Database.evidenceOf at hitem
      rw [List.mem_insertionSort] at hitem
      simpa using (List.mem_filter.mp hitem).2
    rw [validatedEvidence_row] at hindep hbound
    obtain ⟨v, t, ht, hlists, hactor, hunique, hall⟩ :=
      hinv.reviews item.1 item.2 hev hindep hbound
    rw [hclaimId] at ht hunique hall
    have heId : (validatedEvidence env s.db (readClaim s.db id row) (fullEvidence item)).id = item.1 :=
      validatedEvidence_id _ _
    have heActor : (validatedEvidence env s.db (readClaim s.db id row) (fullEvidence item)).actorId =
        item.2.actorId := by
      rw [validatedEvidence_row]
      rfl
    refine ⟨.inl ⟨v, t, ht, ?_, ?_⟩, fun w hw hclaim heq => ?_⟩
    · exact heId.symm ▸ hlists
    · exact hactor.trans heActor.symm
    · obtain ⟨hlt, hseen⟩ := hall w hw hclaim (heq.trans heActor)
      refine hcount w hw hclaim hseen ?_ heq
      show w.revision < (recordedAt s.db id
        (validatedEvidence env s.db (readClaim s.db id row) (fullEvidence item)).id).getD _
      rw [heId, recordedAt_eq_some ht hlists hunique]
      exact hlt
  · -- the review comes with the transition
    obtain ⟨⟨item, k⟩, hitem, rfl⟩ := List.mem_map.mp hnew
    obtain ⟨-, -, hmem⟩ := List.mem_zipIdx hitem
    have hitem : item ∈ boundEvidence env (reviewedClaim current input classification) newEvidence := by
      rw [hmem]
      exact List.getElem_mem _
    obtain ⟨⟨input', hinput', hsame⟩, hactor⟩ := boundEvidence_ok env _ hnorm item hitem
    have hactor : item.actorId = call.actorId := hactor hindep
    have hfair := hfair current hfound (hexp current hfound)
    simp only [hclass] at hfair
    obtain ⟨hseen, -⟩ := hfair.1 (List.any_eq_true.mpr ⟨input', hinput', hsame ▸ hindep⟩)
    refine ⟨.inr hactor, fun w hw hclaim heq => ?_⟩
    refine hcount w hw hclaim (hseen w hw hclaim (heq.trans hactor)) ?_ heq
    rw [pending_not_listed hinv]
    obtain ⟨t, ht, -⟩ := hinv.writes w hw
    obtain ⟨claim, hget, hle⟩ := hinv.bounded _ _ _ ht
    rw [hclaim] at hget
    obtain rfl := Option.some.inj (hget.symm.trans hrow)
    show w.revision < claim.revision + 1
    omega

theorem validateTransitionEvidence_verified {current : FindingSummary}
    {evidence : List FindingEvidence}
    (h : validateTransitionEvidence env db current input evidence = .ok ())
    (hverif : input.toStatus = .verified) :
    ∃ e ∈ evidence, validIndependentEvidence env db current e = true := by
  unfold validateTransitionEvidence at h
  simp only [bind, Except.bind, hverif] at h
  rw [if_neg (fun hobserved => nomatch hobserved.1), if_pos (by decide)] at h
  split at h
  next => cases h
  next =>
    split at h
    next => cases h
    next =>
      split at h
      next => cases h
      next hreviewed =>
        have hany : evidence.any (validIndependentEvidence env db current) = true := by
          by_contra hnone
          exact hreviewed ⟨by decide, by simpa using hnone⟩
        exact List.any_eq_true.mp hany

theorem status_of_set {id' : JsString} {row row' written : ClaimRow}
    (hclaims : db'.claims = db.claims.set id' written)
    (hsame : ∀ claim, db.claims.get? id' = some claim → written.status = claim.status)
    (hrow : db.claims.get? id = some row) (hrow' : db'.claims.get? id = some row') :
    row'.status = row.status := by
  rw [hclaims, JsMap.get?_set] at hrow'
  split at hrow'
  next hid =>
    cases hrow'
    exact hsame row (hid ▸ hrow)
  next =>
    obtain rfl := Option.some.inj (hrow.symm.trans hrow')
    rfl

/-- A transition alone changes a status, beside a human override. -/
theorem Performed.status {op : Operation} {row row' : ClaimRow}
    (h : Performed env call db op db') (hop : op.isOverride = false)
    (hrow : db.claims.get? id = some row) (hrow' : db'.claims.get? id = some row') :
    row'.status = row.status ∨ ∃ input fresh body, op = .transition id input fresh ∧
      transitionBody env call fresh id input (readFinding env db call.workspaceId id false) = .ok body ∧
      body db = .ok db' := by
  cases h with
  | created status input surfaceId evidence classification components _ _ _ h =>
    obtain ⟨db₁, evidenceIds, claim, text, -, -, hnone, -, -, -, rfl⟩ := insertFinding_ok h
    refine .inl (status_of_set rfl (fun claim hclaim => ?_) hrow hrow')
    rw [hnone] at hclaim
    cases hclaim
  | revised id' input current classification components body _ hchecks _ hbody h =>
    obtain ⟨tracking, rfl⟩ := reviseBody_ok hbody
    obtain ⟨claim, title, confidence, text, -, hclaim, -, -, -, rfl⟩ := reviseTransaction_ok h
    refine .inl (status_of_set rfl (fun claim' hclaim' => ?_) hrow hrow')
    obtain rfl := Option.some.inj (hclaim.symm.trans hclaim')
    rfl
  | updated _ id' current guard f toStatus reason actorId operatorOverride _ hf hnext hhuman hactor h =>
    cases operatorOverride with
    | true =>
      obtain ⟨revision, status, rfl⟩ := hhuman rfl
      cases hop
    | false =>
      obtain ⟨claim, text, hclaim, -, -, -, rfl⟩ := updateTransaction_ok h
      refine .inl (status_of_set rfl (fun claim' hclaim' => ?_) hrow hrow')
      obtain rfl := Option.some.inj (hclaim.symm.trans hclaim')
      exact (hactor rfl).2 claim
  | transitioned id' input fresh body _ hbody h =>
    by_cases hid : id = id'
    · subst hid
      exact .inr ⟨input, fresh, body, rfl, hbody, h⟩
    · obtain ⟨current, newEvidence, classification, tracking, -, -, -, -, -, -, -, -, rfl⟩ :=
        transitionBody_ok hbody
      obtain ⟨db₁, evidenceIds, claim, staleReason, text, -, -, -, -, -, rfl⟩ :=
        transitionTransaction_ok h
      rw [JsMap.get?_set, if_neg hid] at hrow'
      obtain rfl := Option.some.inj (hrow.symm.trans hrow')
      exact .inl rfl

theorem AuthorInv.verifiedIndependently (hinv : AuthorInv s) {request : Request}
    (hfair : ReviewsFairly env s request)
    (hoverride : ∀ call op, request = .operation call op → op.isOverride = false) :
    VerifiedIndependently env s request := by
  intro id row row' hrow hst hafter hst'
  cases request with
  | records records =>
    obtain rfl := Option.some.inj (hrow.symm.trans hafter)
    exact absurd hst' hst
  | operation call op =>
    have hrow' : (perform env s.db (.operation call op)).claims.get? id = some row' := hafter
    rcases perform_cases env s.db call op with hsame | hperf
    · rw [hsame] at hrow'
      obtain rfl := Option.some.inj (hrow.symm.trans hrow')
      exact absurd hst' hst
    · rcases hperf.status (hoverride call op rfl) hrow hrow' with
        hkept | ⟨input, fresh, body, rfl, hbody, h⟩
      · rw [hkept] at hst'
        exact absurd hst' hst
      · generalize perform env s.db _ = db' at hrow' h
        obtain ⟨current, newEvidence, classification, tracking, hfound, -, hrev, -, -, hnorm,
          hclass, -, rfl⟩ := transitionBody_ok hbody
        obtain ⟨db₁, evidenceIds, claim, staleReason, text, hvalid, -, hclaim, -, -, rfl⟩ :=
          transitionTransaction_ok h
        rw [JsMap.get?_set, if_pos rfl] at hrow'
        cases hrow'
        obtain ⟨e, hmem, hacc⟩ := validateTransitionEvidence_verified hvalid hst'
        have hrelied := mem_reliedOn.mpr
          ⟨current, newEvidence, classification, hfound, hnorm, hclass, hmem, hacc⟩
        refine ⟨call, input, fresh, rfl, List.ne_nil_of_mem hrelied,
          fun e' he' => independent_of_mem_reliedOn hinv hfair (fun current' hfound' => ?_) he'⟩
        obtain rfl := Option.some.inj (hfound.symm.trans hfound')
        exact hrev

/-- In every run of fair calls without a human override, whatever becomes verified is verified
independently. -/
theorem reached_verifiedIndependently (env : FindingPlatform) (requests : List Request)
    (hoverride : ∀ call op, Request.operation call op ∈ requests → op.isOverride = false)
    (hfair : RunMeets (Authored.step env) (ReviewsFairly env) .new requests) :
    RunMeets (Authored.step env) (VerifiedIndependently env) .new requests := by
  have hdomain : RunMeets (Authored.step env) (fun _ request =>
      ∀ call op, request = .operation call op → op.isOverride = false) .new requests := by
    refine runMeets_of_forall (fun request hrequest _ => ?_) _
    rintro call op rfl
    exact hoverride call op hrequest
  exact (hfair.and hdomain).of_invariant (I := AuthorInv)
    (fun s request hinv h => step_authorInv hinv h.1 h.2)
    (fun s request hinv h => hinv.verifiedIndependently h.1 h.2) authorInv_new

/-! ## Reviews -/

def callBy (ids actor : String) : Call :=
  { callOf ids with sessionId := some (js "session"), actorId := some (js actor) }

/-- A transition with one piece of evidence. -/
def moved (revision : Nat) (toStatus : FindingStatus) (item : FindingEvidenceInput)
    (runbookId : Option JsString) : TransitionFindingInput :=
  { observed revision item runbookId with toStatus := toStatus }

/-- The author creates an observed finding, `linker` links its runbook, and the author reproduces
it. -/
def reproducedRequests (linker : String) : List Request :=
  [.records succeededRun,
    .operation (callBy "a" "author") (.create .observed
      { titled "t" none with
        sourceRevision := some (js "revision")
        environmentFingerprint := some (js "environment")
        stepsToReproduce := some (js "run it")
        evidence := [referenceTo .artifact "artifact" false] } none),
    .operation (callBy "b" linker) (.transition (js "claim_a0")
      (moved 1 .observed (referenceTo .artifact "log" false) (some (js "book"))) false),
    .operation (callBy "c" "author") (.transition (js "claim_a0")
      (moved 2 .reproduced (referenceTo .runbookExecution "run" false) none) false)]

def review : TransitionFindingInput := moved 3 .verified (referenceTo .independentVerification "run" true) none

theorem reached_verifiedIndependently_other :
    RunMeets (Authored.step reviewPlatform) (VerifiedIndependently reviewPlatform) .new
      (reproducedRequests "author" ++
        [.operation (callBy "d" "reviewer") (.transition (js "claim_a0") review true)]) := by
  refine reached_verifiedIndependently reviewPlatform _ ?_ (by decide +kernel)
  intro call op h
  simp only [reproducedRequests, List.cons_append, List.nil_append, List.mem_cons, List.not_mem_nil,
    or_false, Request.operation.injEq, reduceCtorEq, false_or] at h
  rcases h with ⟨-, rfl⟩ | ⟨-, rfl⟩ | ⟨-, rfl⟩ | ⟨-, rfl⟩ <;> rfl

/-- The claim once the reviewer itself has linked the runbook, which the author query does not
see. -/
def linkedByReviewer : Authored :=
  runSteps (Authored.step reviewPlatform) .new (reproducedRequests "reviewer")

/-- The reviewer verifies the content it has written. -/
theorem author_verifies_own_claim :
    ¬RunMeets (Authored.step reviewPlatform) (VerifiedIndependently reviewPlatform) .new
      (reproducedRequests "reviewer" ++
        [.operation (callBy "d" "reviewer") (.transition (js "claim_a0") review true)]) := by
  intro h
  have hlast : VerifiedIndependently reviewPlatform linkedByReviewer
      (.operation (callBy "d" "reviewer") (.transition (js "claim_a0") review true)) := h.2.2.2.2.1
  have hbefore : (linkedByReviewer.db.claims.get? (js "claim_a0")).map (·.status) = some .reproduced := by
    decide +kernel
  have hafter : ((linkedByReviewer.step reviewPlatform (.operation (callBy "d" "reviewer")
      (.transition (js "claim_a0") review true))).db.claims.get? (js "claim_a0")).map (·.status) =
        some .verified := by decide +kernel
  have hown : ∃ e ∈ reliedOn reviewPlatform linkedByReviewer.db (callBy "d" "reviewer") (js "claim_a0")
      review true, ∃ w ∈ linkedByReviewer.writes,
        w.claimId = js "claim_a0" ∧ w.actorId = e.actorId := by decide +kernel
  obtain ⟨row, hrow, hstatus⟩ := Option.map_eq_some_iff.mp hbefore
  obtain ⟨row', hrow', hstatus'⟩ := Option.map_eq_some_iff.mp hafter
  obtain ⟨call, input, fresh, heq, -, hall⟩ :=
    hlast (js "claim_a0") row row' hrow (by rw [hstatus]; decide) hrow' hstatus'
  obtain ⟨rfl, hop⟩ := Request.operation.inj heq
  obtain ⟨-, rfl, rfl⟩ := Operation.transition.inj hop
  obtain ⟨e, he, w, hw, hclaim, hactor⟩ := hown
  exact (hall e he).2 w hw hclaim hactor

end Beale.Findings
