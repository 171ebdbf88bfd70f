import Beale.Fleet.Results

/-!
# Submissions that crash

A `submit` writes the request file, and then the state file through a temporary one. A crash
leaves some of these writes; the caller submits the same request again.

- `reached_submitAtomic`: runs whose crashes are safe.
- `half_submitted_request_blocks_poll`: a request file without a state file makes every
  poll of the session throw, and submitting again does not help.
-/

namespace Beale.Fleet

open Beale.Library

variable {R : Type} {env : BrokerPlatform R}

namespace Spool

/-! ## Polling again and again -/

/-- What a series of polls returns. -/
def pollAll (s : Spool) (session : JsString) :
    List (Nat → Nat) → Except JsString (List (Option (JsString × Nat)))
  | [] => .ok []
  | now :: rest => do
    let (s', polled) ← s.poll session now
    let others ← s'.pollAll session rest
    .ok (polled :: others)

/-- The requests that a series of polls has handed out. -/
def handed (results : List (Option (JsString × Nat))) : List JsString :=
  results.filterMap fun polled => polled.map Prod.fst

def Registered (s : Spool) (session : JsString) (directory : SessionDirectory) : Prop :=
  isId session = true ∧ s.sessions.get? session = some directory

/-- However often the session is polled within the time of a lease, no poll fails, and the
request is handed out at most once; and it is, if there are more polls than requests. -/
def HandedOnce (s : Spool) (session id : JsString) : Prop :=
  ∀ directory, s.Registered session directory → ∀ start nows,
    (∀ now ∈ nows, ∀ k, start ≤ now k ∧ now k < start + leaseMs) →
    ∃ results, s.pollAll session nows = .ok results ∧ (handed results).count id ≤ 1 ∧
      ((listed directory).length < nows.length → (handed results).count id = 1)

/-! ## Files that belong together -/

/-- Every request file has its state file, and is named by an id. -/
structure Complete (s : Spool) : Prop where
  state : ∀ session id, (s.files session id).request ≠ none → (s.files session id).state ≠ none
  named : ∀ session id, (s.files session id).request ≠ none → isId id = true

/-- A crash leaves no request file without its state file. -/
def CrashSafe (env : BrokerPlatform R) (s : Spool) : Input R → Prop
  | .crashedSubmit session token request writes =>
    ∀ plan, s.submitWrites env session token request = .ok plan →
      plan.take writes = [] ∨ plan.take writes = plan
  | _ => True

variable {s : Spool} {i : Input R} {id session : JsString}

theorem Effect.complete {f : RequestFiles}
    {a : Account} (heff : Effect env s i session id f a) (hsafe : CrashSafe env s i)
    (h : (s.files session id).request ≠ none → (s.files session id).state ≠ none ∧ isId id = true) :
    f.request ≠ none → f.state ≠ none ∧ isId id = true := by
  cases heff with
  | same | began | accepted => exact h
  | submitted serialized writes hnew hid hcrash =>
    have hall : ((newWrites serialized).foldl Write.apply (s.files session id)).state ≠ none := by
      nofun
    by_cases hlt : writes < allWrites
    · obtain ⟨token, request, rfl, hplan⟩ := hcrash hlt
      rcases hsafe _ hplan with htake | htake
      · rw [htake]
        exact h
      · rw [htake]
        exact fun _ => ⟨hall, hid⟩
    · rw [List.take_of_length_le (Nat.le_of_not_lt hlt)]
      exact fun _ => ⟨hall, hid⟩
  | leased | renewed | sealedWith => exact fun hreq => ⟨nofun, (h hreq).2⟩
  | removed => exact fun hreq => absurd rfl hreq

theorem step_complete (h : s.Complete) (hsafe : CrashSafe env s i) : (s.step env i).Complete := by
  have hboth : ∀ session id, ((s.step env i).files session id).request ≠ none →
      ((s.step env i).files session id).state ≠ none ∧ isId id = true := fun session id =>
    (step_effect env s i session id).complete hsafe fun hreq =>
      ⟨h.state session id hreq, h.named session id hreq⟩
  exact ⟨fun session id hreq => (hboth session id hreq).1,
    fun session id hreq => (hboth session id hreq).2⟩

/-! ## One poll -/

variable {directory : SessionDirectory}

theorem files_of_some (h : s.sessions.get? session = some directory) (id : JsString) :
    s.files session id = (directory.requests.get? id).getD .none := by
  unfold files
  rw [h]

theorem mem_listed (h : s.sessions.get? session = some directory) :
    id ∈ listed directory ↔ (s.files session id).request ≠ none := by
  unfold listed
  rw [List.mem_insertionSort, List.mem_map, files_of_some h]
  constructor
  · rintro ⟨⟨id', f⟩, hmem, rfl⟩
    obtain ⟨hmem, hsome⟩ := List.mem_filter.mp hmem
    show ((directory.requests.get? id').getD .none).request ≠ none
    rw [JsMap.get?_of_mem hmem]
    exact Option.isSome_iff_ne_none.mp hsome
  · intro hne
    cases hget : directory.requests.get? id with
    | none =>
      rw [hget] at hne
      exact absurd rfl hne
    | some f =>
      rw [hget] at hne
      exact ⟨(id, f), List.mem_filter.mpr ⟨JsMap.mem_of_get? hget,
        Option.isSome_iff_ne_none.mpr hne⟩, rfl⟩

theorem Complete.readState (h : s.Complete)
    (hsess : isId session = true) (hreq : (s.files session id).request ≠ none) :
    ∃ state, s.readState session id = .ok state ∧ (s.files session id).state = some state := by
  obtain ⟨state, hstate⟩ := Option.ne_none_iff_exists'.mp (h.state session id hreq)
  refine ⟨state, ?_, hstate⟩
  unfold Spool.readState directory safeId
  simp [bind, Except.bind, hsess, h.named session id hreq, hstate]

/-- The loop of `poll` ends, and passes only what is done or leased. -/
theorem Complete.pollFrom (h : s.Complete)
    (hsess : isId session = true) (now : Nat → Nat) {ids : List JsString}
    (hids : ∀ id ∈ ids, (s.files session id).request ≠ none) (readings : Nat) :
    ∃ found, s.pollFrom session now readings ids = .ok found ∧
      (found = none → ∀ id ∈ ids, ∀ state, (s.files session id).state = some state →
        state.state = .pending → ∃ k, now k < state.leaseUntil) := by
  induction ids generalizing readings with
  | nil => exact ⟨none, rfl, fun _ id hid => absurd hid (by simp)⟩
  | cons first rest ih =>
    obtain ⟨state, hread, hstate⟩ := h.readState hsess (hids first (by simp))
    have hrest := ih fun id hid => hids id (by simp [hid])
    unfold Spool.pollFrom
    rw [hread]
    simp only
    split
    next hdone =>
      obtain ⟨found, hfound, hnone⟩ := hrest readings
      refine ⟨found, hfound, fun hn id hid state' hstate' hpend => ?_⟩
      rcases List.mem_cons.mp hid with rfl | hid
      · rw [hstate] at hstate'
        rw [← Option.some.inj hstate', hdone] at hpend
        cases hpend
      · exact hnone hn id hid state' hstate' hpend
    next =>
      split
      next hleased =>
        obtain ⟨found, hfound, hnone⟩ := hrest (readings + 1)
        refine ⟨found, hfound, fun hn id hid state' hstate' hpend => ?_⟩
        rcases List.mem_cons.mp hid with rfl | hid
        · rw [hstate] at hstate'
          exact ⟨readings, Option.some.inj hstate' ▸ hleased⟩
        · exact hnone hn id hid state' hstate' hpend
      next => exact ⟨_, rfl, (by rintro ⟨⟩)⟩

/-- A poll within the time of a lease finds nothing that is free, or leases a request. -/
theorem Complete.poll (h : s.Complete) (hreg : s.Registered session directory) (now : Nat → Nat) :
    ∃ s' polled, s.poll session now = .ok (s', polled) ∧
      (polled = none ∧ s' = s ∧
          (∀ id, (s.files session id).request ≠ none → ∀ state,
            (s.files session id).state = some state → state.state = .pending →
              ∃ k, now k < state.leaseUntil) ∨
        ∃ id lease, polled = some (id, lease) ∧ (s.files session id).request ≠ none ∧
          (∃ state, (s.files session id).state = some state ∧ ∃ k, state.leaseUntil ≤ now k) ∧
          (∃ state, (s'.files session id).state = some state ∧
            ∃ k, state.leaseUntil = now k + leaseMs) ∧
          (∀ id', (s'.files session id').request = (s.files session id').request) ∧
          ∀ id', id' ≠ id → s'.files session id' = s.files session id') := by
  obtain ⟨hsess, hdir⟩ := hreg
  obtain ⟨found, hfound, hnone⟩ := h.pollFrom hsess now
    (fun id (hid : id ∈ listed directory) => (mem_listed hdir).mp hid) 0
  have hpoll : ∃ r, s.poll session now = .ok r ∧ (found = none → r = (s, none)) ∧
      (found ≠ none → r.2 ≠ none) := by
    unfold Spool.poll Spool.directory
    simp only [bind, Except.bind, hsess, if_true, hdir, hfound]
    cases found with
    | none => exact ⟨_, rfl, fun _ => rfl, fun h => absurd rfl h⟩
    | some found => exact ⟨_, rfl, (by rintro ⟨⟩), fun _ => Option.some_ne_none _⟩
  obtain ⟨⟨s', polled⟩, hpoll, hfree, hfound'⟩ := hpoll
  refine ⟨s', polled, hpoll, ?_⟩
  cases hf : found with
  | none =>
    obtain ⟨rfl, rfl⟩ := Prod.mk.inj (hfree hf)
    exact .inl ⟨rfl, rfl, fun id hreq => hnone hf id ((mem_listed hdir).mpr hreq)⟩
  | some pair =>
    rcases poll_ok hpoll with ⟨hnil, -⟩ | ⟨id, state, hstate, -, hover, rfl, ⟨_, hlisted, hmem⟩,
      readings, rfl⟩
    · exact absurd hnil (hfound' (by simp [hf]))
    · have hreq := (mem_listed hlisted).mp hmem
      refine .inr ⟨id, s.issued, rfl, hreq, ⟨state, hstate, hover⟩, ?_, fun id' => ?_, fun id' hne => ?_⟩
      · refine ⟨{ leaseId := some s.issued, leaseUntil := now readings + leaseMs, state := .pending },
          ?_, readings, rfl⟩
        show ((s.write session id _).files session id).state = _
        rw [files_write hdir, if_pos ⟨rfl, rfl⟩]
      · show ((s.write session id _).files session id').request = _
        rw [files_write hdir]
        split
        next hsame => rw [hsame.2]
        next => rfl
      · show (s.write session id _).files session id' = _
        rw [files_write hdir, if_neg fun hsame => hne hsame.2]

theorem poll_complete {s' : Spool} (h : s.Complete) {now : Nat → Nat}
    {polled : Option (JsString × Nat)} (hpoll : s.poll session now = .ok (s', polled)) :
    s'.Complete := by
  rcases poll_ok hpoll with ⟨-, rfl⟩ | ⟨id, state, hstate, -, -, -, -, readings, rfl⟩
  · exact h
  · obtain ⟨directory, hdir⟩ := exists_directory_of_state hstate
    have hfiles : ∀ f session' id', (s.write session id f).files session' id'
        = if session' = session ∧ id' = id then f else s.files session' id' :=
      files_write hdir
    have hreq : ∀ f : RequestFiles, f.request = (s.files session id).request →
        ∀ session' id', ((s.write session id f).files session' id').request
          = (s.files session' id').request := by
      intro f hf session' id'
      rw [hfiles]
      split
      next hsame => rw [hsame.1, hsame.2, hf]
      next => rfl
    have hkeeps : ∀ f : RequestFiles, f.request = (s.files session id).request → f.state ≠ none →
        (s.write session id f).Complete := by
      refine fun f hf hsome => ⟨fun session' id' hne => ?_, fun session' id' hne => ?_⟩
      · rw [hreq f hf] at hne
        rw [hfiles]
        split
        next => exact hsome
        next => exact h.state session' id' hne
      · rw [hreq f hf] at hne
        exact h.named session' id' hne
    have hwr := hkeeps { s.files session id with
      state := some
        { leaseId := some s.issued, leaseUntil := now readings + leaseMs, state := .pending } }
      rfl nofun
    exact ⟨hwr.state, hwr.named⟩

/-! ## A series of polls -/

def Free (s : Spool) (session id : JsString) (start : Nat) : Prop :=
  (s.files session id).request ≠ none ∧ ∃ state, (s.files session id).state = some state ∧
    state.state = .pending ∧ state.leaseUntil ≤ start

/-- The request is leased until after the series. -/
def Taken (s : Spool) (session id : JsString) (start : Nat) : Prop :=
  ∃ state, (s.files session id).state = some state ∧ start + leaseMs ≤ state.leaseUntil

/-- A series of polls hands out each request once, and every free one before it comes back
empty-handed. -/
theorem Complete.pollAll (h : s.Complete) (hreg : s.Registered session directory) (start : Nat)
    (nows : List (Nat → Nat))
    (hnows : ∀ now ∈ nows, ∀ k, start ≤ now k ∧ now k < start + leaseMs) :
    ∃ results, s.pollAll session nows = .ok results ∧ results.length = nows.length ∧
      (handed results).Nodup ∧
      (∀ id ∈ handed results, (s.files session id).request ≠ none ∧ ¬s.Taken session id start) ∧
      ∀ id, s.Free session id start → id ∈ handed results ∨ none ∉ results := by
  induction nows generalizing s directory with
  | nil => exact ⟨[], rfl, rfl, List.nodup_nil, fun id hid => absurd hid (by simp [handed]),
      fun id _ => .inr (by simp)⟩
  | cons now rest ih =>
    obtain ⟨s', polled, hpoll, hcases⟩ := h.poll hreg now
    have hrest : ∀ now ∈ rest, ∀ k, start ≤ now k ∧ now k < start + leaseMs :=
      fun now' hnow => hnows now' (by simp [hnow])
    have hcompl : s'.Complete := poll_complete h hpoll
    rcases hcases with ⟨rfl, rfl, hleased⟩ | ⟨id, lease, rfl, hreq, ⟨state, hstate, k, hover⟩,
      ⟨next, hnext, k', huntil⟩, hrequests, hothers⟩
    · obtain ⟨results, hress, hlen, hnodup, honly, -⟩ := ih h hreg hrest
      refine ⟨none :: results, ?_, by simp [hlen], hnodup, honly, fun id hfree => ?_⟩
      · unfold Spool.pollAll
        simp [bind, Except.bind, hpoll, hress]
      · -- a free request would have been handed out
        obtain ⟨hreq, state, hstate, hpend, hle⟩ := hfree
        obtain ⟨k, hlt⟩ := hleased id hreq state hstate hpend
        have hstart := (hnows now (by simp) k).1
        omega
    · have hreg' : ∃ directory', s'.Registered session directory' := by
        obtain ⟨directory', hdir'⟩ := exists_directory_of_state hnext
        exact ⟨directory', hreg.1, hdir'⟩
      obtain ⟨directory', hreg'⟩ := hreg'
      obtain ⟨results, hress, hlen, hnodup, honly, hfree⟩ := ih hcompl hreg' hrest
      have htaken : s'.Taken session id start := by
        refine ⟨next, hnext, ?_⟩
        have hstart := (hnows now (by simp) k').1
        omega
      have hother : ∀ id' ∈ handed results, id' ≠ id := by
        rintro id' hid' rfl
        exact (honly id' hid').2 htaken
      refine ⟨some (id, lease) :: results, ?_, by simp [hlen], ?_, fun id' hid' => ?_,
        fun id' hfree' => ?_⟩
      · unfold Spool.pollAll
        simp [bind, Except.bind, hpoll, hress]
      · exact List.nodup_cons.mpr ⟨fun hmem => hother id hmem rfl, hnodup⟩
      · rcases List.mem_cons.mp (show id' ∈ id :: handed results from hid') with rfl | hid'
        · refine ⟨hreq, ?_⟩
          rintro ⟨state', hstate', huntil'⟩
          obtain rfl := Option.some.inj (hstate.symm.trans hstate')
          have hend := (hnows now (by simp) k).2
          omega
        · obtain ⟨hreq, hnot⟩ := honly id' hid'
          refine ⟨hrequests id' ▸ hreq, ?_⟩
          rintro ⟨state', hstate', huntil'⟩
          refine hnot ⟨state', ?_, huntil'⟩
          rw [hothers id' (hother id' hid')]
          exact hstate'
      · by_cases hid' : id' = id
        · exact .inl (hid' ▸ List.mem_cons_self)
        · have hfree'' : s'.Free session id' start := by
            unfold Free
            rw [hothers id' hid']
            exact hfree'
          rcases hfree id' hfree'' with hmem | hmem
          · exact .inl (List.mem_cons_of_mem _ hmem)
          · exact .inr (by simpa using hmem)

theorem Complete.handedOnce (h : s.Complete) (hreq : (s.files session id).request ≠ none)
    (hinv : Accounted env (s.files session id) (account s.log session id))
    (hnever : (account s.log session id).lease = none) : s.HandedOnce session id := by
  intro directory hreg start nows hnows
  obtain ⟨results, hress, hlen, hnodup, honly, hfree⟩ := h.pollAll hreg start nows hnows
  refine ⟨results, hress, List.nodup_iff_count_le_one.mp hnodup id, fun hmore => ?_⟩
  obtain ⟨state, hstate⟩ := Option.ne_none_iff_exists'.mp (h.state session id hreq)
  obtain ⟨huntil, hpend⟩ := hinv.unleased state hstate hnever
  refine List.count_eq_one_of_mem hnodup ?_
  rcases hfree id ⟨hreq, state, hstate, hpend, huntil ▸ Nat.zero_le _⟩ with hmem | hall
  · exact hmem
  · -- otherwise every poll has handed out another request
    have hhanded : (handed results).length = results.length := by
      unfold handed
      refine List.filterMap_length_eq_length.mpr fun polled hpolled => ?_
      cases polled with
      | none => exact absurd hpolled hall
      | some pair => rfl
    have hsubset : handed results ⊆ listed directory := fun id' hid' =>
      (mem_listed hreg.2).mpr (honly id' hid').1
    have hle := (List.subperm_of_subset hnodup hsubset).length_le
    omega

/-! ## Submitting again -/

/-- What the caller of `submit` may rely on, whatever has crashed before. -/
structure SubmitAtomic (env : BrokerPlatform R) (s : Spool) : Prop where
  /-- Polling a session works, for all its requests. -/
  polls : ∀ session directory, s.Registered session directory → ∀ now,
    ∃ r, s.poll session now = .ok r
  /-- A request that is there and has not been handed out will be, once. -/
  waits : ∀ session id, (s.files session id).request ≠ none →
    (account s.log session id).lease = none → s.HandedOnce session id
  /-- A request that is submitted is there, and so it is handed out once if it has not been. -/
  submitted : ∀ session token request s', s.submit env session token request allWrites = .ok s' →
    (s'.files session (env.id request)).request = some (env.stringify request) ∧
      account s'.log session (env.id request) = account s.log session (env.id request) ∧
      ((account s.log session (env.id request)).lease = none →
        s'.HandedOnce session (env.id request))

theorem submit_request {s' : Spool} {token : JsString} {request : R}
    (h : s.submit env session token request allWrites = .ok s') :
    (s'.files session (env.id request)).request = some (env.stringify request) ∧ s'.log = s.log := by
  unfold submit at h
  simp only [bind, Except.bind] at h
  split at h
  next => cases h
  next plan hplan =>
    obtain ⟨⟨directory, hdir⟩, -, hcases⟩ := submitWrites_ok hplan
    cases h
    refine ⟨?_, rfl⟩
    rw [files_write hdir, if_pos ⟨rfl, rfl⟩]
    rcases hcases with ⟨-, rfl⟩ | ⟨hthere, rfl⟩
    · rfl
    · exact hthere

/-- The spool between two calls. -/
structure SubmitInv (env : BrokerPlatform R) (s : Spool) : Prop where
  complete : s.Complete
  accounted : s.SpoolInv env

theorem step_submitInv (h : s.SubmitInv env) (hsafe : CrashSafe env s i) :
    (s.step env i).SubmitInv env :=
  ⟨step_complete h.complete hsafe, step_spoolInv h.accounted i⟩

theorem SubmitInv.submitAtomic (h : s.SubmitInv env) : s.SubmitAtomic env where
  polls session directory hreg now := by
    obtain ⟨s', polled, hpoll, -⟩ := h.complete.poll hreg now
    exact ⟨(s', polled), hpoll⟩
  waits session id hreq hnever :=
    h.complete.handedOnce hreq (h.accounted.2 session id) hnever
  submitted session token request s' hsubmit := by
    obtain ⟨hreq, hlog⟩ := submit_request hsubmit
    refine ⟨hreq, by rw [hlog], fun hnever => ?_⟩
    -- the submission is one more step
    have hstep : s.step env (.submit session token request) = s' := by
      unfold step perform
      simp only [hsubmit]
    have hnext : s'.SubmitInv env := by
      rw [← hstep]
      exact step_submitInv h trivial
    refine hnext.complete.handedOnce ?_ (hnext.accounted.2 session (env.id request)) ?_
    · rw [hreq]
      nofun
    · rw [hlog]
      exact hnever

end Spool

open Spool

/-- In every run whose crashes are safe, a submission that is made again is handed out once,
and polling works. -/
theorem reached_submitAtomic (env : BrokerPlatform R) (is : List (Input R))
    (hsafe : RunMeets (step env) (CrashSafe env) new is) :
    SubmitAtomic env (runSteps (step env) new is) := by
  have hnew : SubmitInv env new :=
    ⟨⟨fun _ _ h => absurd rfl h, fun _ _ h => absurd rfl h⟩, ⟨by simp [new], by simp [new]⟩,
      fun _ _ => accounted_none⟩
  have hinv : SubmitInv env (runSteps (step env) new is) :=
    runSteps_invariant_of_meets (I := SubmitInv env) (fun s i h hi => step_submitInv h hi) hnew hsafe
  exact hinv.submitAtomic

/-! ## A request file without a state file -/

/-- The first submission crashes before its first write, and is made again. -/
def resubmittedRun : List (Input JsString) :=
  [.register (js "s") (js "t"), .crashedSubmit (js "s") (js "t") (js "r") 0,
    .submit (js "s") (js "t") (js "r")]

/-- The first submission crashes once the request file is written, and is made again. -/
def halfSubmittedRun : List (Input JsString) :=
  [.register (js "s") (js "t"), .crashedSubmit (js "s") (js "t") (js "r") 1,
    .submit (js "s") (js "t") (js "r")]

theorem reached_submitAtomic_resubmitted :
    SubmitAtomic samplePlatform (runSteps (step samplePlatform) new resubmittedRun) :=
  reached_submitAtomic samplePlatform resubmittedRun
    ⟨trivial, fun _ _ => .inl rfl, trivial, trivial⟩

theorem halfSubmitted_poll (s : Spool)
    (hs : s = runSteps (step samplePlatform) new halfSubmittedRun) (now : Nat → Nat) :
    s.poll (js "s") now = .error (js "Unknown model broker request.") := by
  rw [hs]
  rfl

theorem half_submitted_request_blocks_poll :
    ∃ s', (runSteps (step samplePlatform) new halfSubmittedRun).submit samplePlatform (js "s")
        (js "t") (js "r") allWrites = .ok s' ∧ ¬s'.HandedOnce (js "s") (js "r") ∧
      ∀ now, s'.poll (js "s") now = .error (js "Unknown model broker request.") := by
  refine ⟨runSteps (step samplePlatform) new halfSubmittedRun, rfl, fun honce => ?_,
    halfSubmitted_poll _ rfl⟩
  have hnows : ∀ now ∈ [fun _ : Nat => 0], ∀ k, 0 ≤ now k ∧ now k < 0 + leaseMs := by
    simp [leaseMs]
  obtain ⟨results, hresults, -⟩ := honce _ ⟨by decide +kernel, rfl⟩ 0 _ hnows
  unfold pollAll at hresults
  rw [halfSubmitted_poll _ rfl] at hresults
  cases hresults

end Beale.Fleet
