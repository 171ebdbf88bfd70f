import Beale.Mcp.Client

/-!
# The books of the pending requests

- `Books`: what holds of the pending requests and of the calls within an event; one lemma for each thing that
  happens to a request.
-/

namespace Beale.Mcp

open Beale.Library
open McpConnection

namespace McpConnection

variable {conn : McpConnection} {parse : JsString → Option Json}

/-! ## What stays the same -/

section Same

variable (conn) (waiter : Waiter) (outcome : Outcome)

@[simp] theorem pending_settle : (conn.settle waiter outcome).pending = conn.pending := by cases waiter <;> rfl

@[simp] theorem nextId_settle : (conn.settle waiter outcome).nextId = conn.nextId := by cases waiter <;> rfl

@[simp] theorem nextCall_settle : (conn.settle waiter outcome).nextCall = conn.nextCall := by cases waiter <;> rfl

@[simp] theorem process_settle : (conn.settle waiter outcome).process = conn.process := by cases waiter <;> rfl

@[simp] theorem handled_settle : (conn.settle waiter outcome).handled = conn.handled := by cases waiter <;> rfl

@[simp] theorem config_settle : (conn.settle waiter outcome).config = conn.config := by cases waiter <;> rfl

end Same

/-- The same text was read, and the same of it handled. -/
structure SameInput (conn conn' : McpConnection) : Prop where
  handled : conn'.handled = conn.handled
  received : conn'.received = conn.received
  buffer : conn'.stdoutBuffer = conn.stdoutBuffer
  crashed : conn'.crashed = conn.crashed

theorem SameInput.refl (conn : McpConnection) : SameInput conn conn := ⟨rfl, rfl, rfl, rfl⟩

variable {conn' : McpConnection}

theorem SameInput.trans {conn'' : McpConnection} (h : SameInput conn conn') (h' : SameInput conn' conn'') :
    SameInput conn conn'' :=
  ⟨h'.handled.trans h.handled, h'.received.trans h.received, h'.buffer.trans h.buffer, h'.crashed.trans h.crashed⟩

section

variable (conn : McpConnection)

theorem SameInput.settle (waiter : Waiter) (outcome : Outcome) :
    SameInput conn (conn.settle waiter outcome) := by
  cases waiter <;> exact ⟨rfl, rfl, rfl, rfl⟩

theorem SameInput.settlePending (id : Nat) (request : PendingRequest) (outcome : Outcome) :
    SameInput conn (conn.settlePending id request outcome) :=
  have hdeleted : SameInput conn { conn with pending := conn.pending.delete id } := ⟨rfl, rfl, rfl, rfl⟩
  hdeleted.trans (.settle _ _ _)

theorem SameInput.write (message : Json) : SameInput conn (conn.write message) := by
  unfold McpConnection.write
  split
  · exact .refl conn
  · exact ⟨rfl, rfl, rfl, rfl⟩

theorem SameInput.proceed (number : Nat) : SameInput conn (conn.proceed number) := by
  unfold McpConnection.proceed
  split
  · unfold sendCall
    split
    · exact .settle _ _ _
    · split
      · exact .settle _ _ _
      · exact ⟨rfl, rfl, rfl, rfl⟩
  · exact .settle _ _ _
  · exact .refl conn

end

/-! ## The books -/

/-- A line that was handled is a response with this id and this result. -/
def Answers (parse : JsString → Option Json) (conn : McpConnection) (id : Nat) (value : Json) : Prop :=
  ∃ line ∈ conn.handled, ∃ response, (parse line).bind responseOf = some response ∧
    requestId? response.id = some id ∧ response.carried = .result value

/-- A call that was not sent yet. -/
def IsWaiting (conn : McpConnection) (number : Nat) : Prop :=
  ∃ call, conn.calls.get? number = some call ∧ call.id = none ∧ call.settled = []

structure Books (parse : JsString → Option Json) (conn : McpConnection) : Prop where
  pendingIds : ∀ id request, conn.pending.get? id = some request → id < conn.nextId
  callIds : ∀ number call id, conn.calls.get? number = some call → call.id = some id → id < conn.nextId
  numbers : ∀ number call, conn.calls.get? number = some call → number < conn.nextCall
  distinct : ∀ number number' call call' id, conn.calls.get? number = some call → conn.calls.get? number' = some call' →
    call.id = some id → call'.id = some id → number = number'
  pendingCalls : ∀ id request number, conn.pending.get? id = some request → request.waiter = .call number →
    ∃ call, conn.calls.get? number = some call ∧ call.id = some id ∧ call.settled = []
  pendingInit : ∀ id request, conn.pending.get? id = some request → request.waiter = .initialization →
    conn.initialized = some .running
  initOnce : ∀ id id' request request', conn.pending.get? id = some request → conn.pending.get? id' = some request' →
    request.waiter = .initialization → request'.waiter = .initialization → id = id'
  running : conn.initialized = some .running →
    (∃ id request, conn.pending.get? id = some request ∧ request.waiter = .initialization) ∧ ∃ number, conn.IsWaiting number
  unsent : conn.initialized = some .running → ∀ number call, conn.calls.get? number = some call → call.id = none
  once : ∀ number call, conn.calls.get? number = some call → call.settled.length ≤ 1
  awaited : ∀ number call id, conn.calls.get? number = some call → call.settled = [] → call.id = some id →
    ∃ request, conn.pending.get? id = some request ∧ request.waiter = .call number
  absent : conn.initialized = none → (∀ number, conn.calls.get? number = none) ∧ ∀ id, conn.pending.get? id = none
  own : ∀ number call value, conn.calls.get? number = some call → .ok value ∈ call.settled →
    ∃ id, call.id = some id ∧ conn.Answers parse id value
  exited : conn.process = .exited → ∀ id, conn.pending.get? id = none
  woken : conn.woken = true → ∀ value, conn.initialized = some (.settled (.ok value)) → conn.process ≠ .exited

/-- Fields that the books do not look at, and more lines. -/
theorem Books.of_same (h : Books parse conn) (hnextId : conn'.nextId = conn.nextId)
    (hpend : conn'.pending = conn.pending) (hcalls : conn'.calls = conn.calls) (hnextCall : conn'.nextCall = conn.nextCall)
    (hinitialized : conn'.initialized = conn.initialized) (hproc : conn'.process = conn.process)
    (hwoken : conn'.woken = true → conn.woken = true) (hhandled : ∀ line ∈ conn.handled, line ∈ conn'.handled) :
    Books parse conn' := by
  obtain ⟨h1, h2, h3, h4, h5, h6, h7, h8, h9, h10, h11, h12, h13, h14, h15⟩ := h
  refine ⟨?_, ?_, ?_, ?_, ?_, ?_, ?_, ?_, ?_, ?_, ?_, ?_, ?_, ?_, ?_⟩
  all_goals simp only [hnextId, hpend, hcalls, hnextCall, hinitialized, hproc]
  · exact h1
  · exact h2
  · exact h3
  · exact h4
  · exact h5
  · exact h6
  · exact h7
  · simpa only [IsWaiting, hcalls] using h8
  · exact h9
  · exact h10
  · exact h11
  · exact h12
  · intro number call value hget hmem
    obtain ⟨id, hid, line, hline, hresp⟩ := h13 number call value hget hmem
    exact ⟨id, hid, line, hhandled line hline, hresp⟩
  · exact h14
  · exact fun hwas => h15 (hwoken hwas)

/-! ## A request is settled -/

theorem get?_settle_call (conn : McpConnection) (number other : Nat) (outcome : Outcome) :
    (conn.settle (.call number) outcome).calls.get? other =
      if other = number then (conn.calls.get? number).map fun call => { call with settled := call.settled ++ [outcome] }
      else conn.calls.get? other := JsMap.get?_modify _ _ _ _

variable {number id : Nat} {outcome : Outcome}

theorem call_of_settle {other : Nat} {call : Call}
    (hget : (conn.settle (.call number) outcome).calls.get? other = some call) :
    other = number ∧ (∃ old, conn.calls.get? number = some old ∧ call = { old with settled := old.settled ++ [outcome] }) ∨
      other ≠ number ∧ conn.calls.get? other = some call := by
  rw [get?_settle_call] at hget
  split at hget
  · next hsame =>
    obtain ⟨old, hold, hcall⟩ := Option.map_eq_some_iff.mp hget
    exact .inl ⟨hsame, old, hold, hcall.symm⟩
  · next hother => exact .inr ⟨hother, hget⟩

theorem get?_settle_of_ne {other : Nat} (hother : other ≠ number) (outcome : Outcome) :
    (conn.settle (.call number) outcome).calls.get? other = conn.calls.get? other := by
  rw [get?_settle_call, if_neg hother]

section SettleCall

variable {number : Nat} {call : Call} {outcome : Outcome} {pending : JsMap Nat PendingRequest}

theorem Books.settleCall (h : Books parse conn) (hget : conn.calls.get? number = some call) (hdone : call.settled = [])
    (hsub : ∀ id request, pending.get? id = some request →
      conn.pending.get? id = some request ∧ request.waiter ≠ .call number)
    (hkeep : ∀ id request, conn.pending.get? id = some request → request.waiter ≠ .call number →
      pending.get? id = some request)
    (hrun : call.id = none → conn.initialized ≠ some .running)
    (hown : ∀ value, outcome = .ok value → ∃ id, call.id = some id ∧ conn.Answers parse id value) :
    Books parse ({ conn with pending }.settle (.call number) outcome) where
  pendingIds id request hpend := by
    rw [pending_settle] at hpend
    rw [nextId_settle]
    exact h.pendingIds id request (hsub id request hpend).1
  callIds other found id hfound hid := by
    rw [nextId_settle]
    rcases call_of_settle hfound with ⟨rfl, old, hold, rfl⟩ | ⟨-, hfound⟩
    · exact h.callIds _ old id hold hid
    · exact h.callIds _ _ id hfound hid
  numbers other found hfound := by
    rw [nextCall_settle]
    rcases call_of_settle hfound with ⟨rfl, old, hold, -⟩ | ⟨-, hfound⟩
    · exact h.numbers _ old hold
    · exact h.numbers _ _ hfound
  distinct m m' c c' id hm hm' hid hid' := by
    have hold : ∀ {m c}, ({ conn with pending }.settle (.call number) outcome).calls.get? m = some c → c.id = some id →
        ∃ old, conn.calls.get? m = some old ∧ old.id = some id := by
      intro m c hm hid
      rcases call_of_settle hm with ⟨rfl, old, hold, rfl⟩ | ⟨-, hm⟩
      · exact ⟨old, hold, hid⟩
      · exact ⟨c, hm, hid⟩
    obtain ⟨old, hm, hid⟩ := hold hm hid
    obtain ⟨old', hm', hid'⟩ := hold hm' hid'
    exact h.distinct m m' old old' id hm hm' hid hid'
  pendingCalls id request other hpend hw := by
    rw [pending_settle] at hpend
    obtain ⟨hpend, hother⟩ := hsub id request hpend
    have hne : other ≠ number := fun hsame => hother (hsame ▸ hw)
    rw [get?_settle_of_ne hne]
    exact h.pendingCalls id request other hpend hw
  pendingInit id request hpend := by
    rw [pending_settle] at hpend
    exact h.pendingInit id request (hsub id request hpend).1
  initOnce id id' request request' hpend hpend' := by
    rw [pending_settle] at hpend hpend'
    exact h.initOnce id id' request request' (hsub _ _ hpend).1 (hsub _ _ hpend').1
  running hinit := by
    obtain ⟨⟨id, request, hpend, hw⟩, other, found, hfound, hid, hnone⟩ := h.running hinit
    refine ⟨⟨id, request, ?_, hw⟩, other, found, ?_, hid, hnone⟩
    · rw [pending_settle]
      exact hkeep id request hpend (by rw [hw]; nofun)
    · have hne : other ≠ number := by
        rintro rfl
        cases hget.symm.trans hfound
        exact hrun hid hinit
      rw [get?_settle_of_ne hne]
      exact hfound
  unsent hinit other found hfound := by
    rcases call_of_settle hfound with ⟨rfl, old, hold, rfl⟩ | ⟨-, hfound⟩
    · exact h.unsent hinit _ old hold
    · exact h.unsent hinit other found hfound
  once other found hfound := by
    rcases call_of_settle hfound with ⟨rfl, old, hold, rfl⟩ | ⟨-, hfound⟩
    · cases hget.symm.trans hold
      rw [hdone]
      exact Nat.le_refl _
    · exact h.once other found hfound
  awaited other found id hfound hnone hid := by
    rw [pending_settle]
    rcases call_of_settle hfound with ⟨rfl, old, hold, rfl⟩ | ⟨hne, hfound⟩
    · exact absurd hnone (by simp)
    · obtain ⟨request, hpend, hw⟩ := h.awaited other found id hfound hnone hid
      exact ⟨request, hkeep id request hpend (by rw [hw]; simpa using hne), hw⟩
  absent hinit := by cases hget.symm.trans ((h.absent hinit).1 number)
  own other found value hfound hmem := by
    have hsame : ∀ id, conn.Answers parse id value → ({ conn with pending }.settle (.call number) outcome).Answers parse id value := by
      intro id hanswers
      simpa only [Answers, handled_settle] using hanswers
    rcases call_of_settle hfound with ⟨rfl, old, hold, rfl⟩ | ⟨-, hfound⟩
    · cases hget.symm.trans hold
      rw [hdone, List.nil_append, List.mem_singleton] at hmem
      obtain ⟨id, hid, hanswers⟩ := hown value hmem.symm
      exact ⟨id, hid, hsame id hanswers⟩
    · obtain ⟨id, hid, hanswers⟩ := h.own other found value hfound hmem
      exact ⟨id, hid, hsame id hanswers⟩
  exited hproc id := by
    rw [process_settle] at hproc
    rw [pending_settle]
    by_contra hthere
    obtain ⟨request, hpend⟩ := Option.ne_none_iff_exists'.mp hthere
    cases (h.exited hproc id).symm.trans (hsub id request hpend).1
  woken := by
    rw [process_settle]
    exact h.woken

end SettleCall

variable {request : PendingRequest}

theorem get?_delete_pending {pending : JsMap Nat PendingRequest} {id' : Nat}
    (hget : (pending.delete id).get? id' = some request) : id' ≠ id ∧ pending.get? id' = some request := by
  rw [JsMap.get?_delete] at hget
  split at hget
  · cases hget
  · next hne => exact ⟨hne, hget⟩

theorem Books.settleInit (h : Books parse conn)
    (hget : conn.pending.get? id = some request) (hw : request.waiter = .initialization) (outcome : Outcome) :
    Books parse ({ conn with pending := conn.pending.delete id }.settle .initialization outcome) where
  pendingIds id' request' hpend := h.pendingIds id' request' (get?_delete_pending hpend).2
  callIds := h.callIds
  numbers := h.numbers
  distinct := h.distinct
  pendingCalls id' request' number hpend := h.pendingCalls id' request' number (get?_delete_pending hpend).2
  pendingInit id' request' hpend hw' := by
    obtain ⟨hne, hpend⟩ := get?_delete_pending hpend
    exact absurd (h.initOnce id' id request' request hpend hget hw' hw) hne
  initOnce id₁ id₂ request₁ request₂ hpend₁ hpend₂ :=
    h.initOnce id₁ id₂ request₁ request₂ (get?_delete_pending hpend₁).2 (get?_delete_pending hpend₂).2
  running := nofun
  unsent := nofun
  once := h.once
  awaited number call id' hfound hnone hid := by
    obtain ⟨request', hpend, hcall⟩ := h.awaited number call id' hfound hnone hid
    refine ⟨request', ?_, hcall⟩
    show (conn.pending.delete id).get? id' = some request'
    rw [JsMap.get?_delete, if_neg, hpend]
    rintro rfl
    cases hget.symm.trans hpend
    cases hw.symm.trans hcall
  absent := nofun
  own := h.own
  exited hproc id' := by
    show (conn.pending.delete id).get? id' = none
    rw [JsMap.get?_delete, h.exited hproc id', ite_self]
  woken _ _ _ hproc := by cases (h.exited hproc id).symm.trans hget

theorem Books.settlePending (h : Books parse conn) (hget : conn.pending.get? id = some request)
    (hown : ∀ value, outcome = .ok value → conn.Answers parse id value) :
    Books parse (conn.settlePending id request outcome) := by
  unfold McpConnection.settlePending
  cases hw : request.waiter with
  | initialization => exact h.settleInit hget hw outcome
  | call number =>
    obtain ⟨call, hcall, hid, hdone⟩ := h.pendingCalls id request number hget hw
    refine h.settleCall hcall hdone (fun id' request' hpend => ?_) (fun id' request' hpend hother => ?_)
      (fun hnone => ?_) fun value hvalue => ⟨id, hid, hown value hvalue⟩
    · obtain ⟨hne, hpend⟩ := get?_delete_pending hpend
      refine ⟨hpend, fun hsame => hne ?_⟩
      -- a call is pending under one id only
      obtain ⟨call', hcall', hid', -⟩ := h.pendingCalls id' request' number hpend hsame
      cases hcall.symm.trans hcall'
      exact Option.some.inj (hid'.symm.trans hid)
    · rw [JsMap.get?_delete, if_neg, hpend]
      rintro rfl
      cases hget.symm.trans hpend
      exact hother hw
    · cases hid.symm.trans hnone

/-! ## A request is made -/

theorem Books.addCall (h : Books parse conn) (hinit : conn.initialized ≠ none) (input : RequestInput) (aborted : Bool) :
    Books parse (conn.addCall input aborted) := by
  have hnew : conn.calls.get? conn.nextCall = none := by
    by_contra hthere
    obtain ⟨call, hget⟩ := Option.ne_none_iff_exists'.mp hthere
    exact Nat.lt_irrefl _ (h.numbers _ call hget)
  -- the calls that have an id, or an outcome, are the old ones
  have hold : ∀ {number call}, (conn.calls.set conn.nextCall ⟨input, aborted, none, []⟩).get? number = some call →
      call = ⟨input, aborted, none, []⟩ ∧ number = conn.nextCall ∨ conn.calls.get? number = some call := by
    intro number call hget
    rw [JsMap.get?_set] at hget
    split at hget
    · next hsame =>
      cases hget
      exact .inl ⟨rfl, hsame⟩
    · exact .inr hget
  have hkept : ∀ {number call}, conn.calls.get? number = some call →
      (conn.calls.set conn.nextCall ⟨input, aborted, none, []⟩).get? number = some call := by
    intro number call hget
    rw [JsMap.get?_set, if_neg, hget]
    rintro rfl
    cases hnew.symm.trans hget
  refine ⟨h.pendingIds, ?_, ?_, ?_, ?_, h.pendingInit, h.initOnce, ?_, ?_, ?_, ?_, fun hnone => absurd hnone hinit, ?_,
    h.exited, h.woken⟩
  · intro number call id hget hid
    rcases hold hget with ⟨rfl, -⟩ | hget
    · cases hid
    · exact h.callIds number call id hget hid
  · intro number call hget
    rcases hold hget with ⟨-, rfl⟩ | hget
    · exact Nat.lt_succ_self _
    · exact Nat.lt_succ_of_lt (h.numbers number call hget)
  · intro number number' call call' id hget hget' hid hid'
    rcases hold hget with ⟨rfl, -⟩ | hget
    · cases hid
    · rcases hold hget' with ⟨rfl, -⟩ | hget'
      · cases hid'
      · exact h.distinct number number' call call' id hget hget' hid hid'
  · intro id request number hpend hw
    obtain ⟨call, hget, hcall⟩ := h.pendingCalls id request number hpend hw
    exact ⟨call, hkept hget, hcall⟩
  · intro hrun
    obtain ⟨hpend, number, call, hget, hcall⟩ := h.running hrun
    exact ⟨hpend, number, call, hkept hget, hcall⟩
  · intro hrun number call hget
    rcases hold hget with ⟨rfl, -⟩ | hget
    · rfl
    · exact h.unsent hrun number call hget
  · intro number call hget
    rcases hold hget with ⟨rfl, -⟩ | hget
    · exact Nat.zero_le _
    · exact h.once number call hget
  · intro number call id hget hnone hid
    rcases hold hget with ⟨rfl, -⟩ | hget
    · cases hid
    · exact h.awaited number call id hget hnone hid
  · intro number call value hget hmem
    rcases hold hget with ⟨rfl, -⟩ | hget
    · cases hmem
    · exact h.own number call value hget hmem

theorem isWaiting_new (conn : McpConnection) (input : RequestInput) (aborted : Bool) :
    (conn.addCall input aborted).IsWaiting conn.nextCall :=
  ⟨⟨input, aborted, none, []⟩, JsMap.get?_set_self _ _ _, rfl, rfl⟩

theorem Books.startCall (h : Books parse conn) (hinit : conn.initialized = none) (input : RequestInput) (aborted : Bool)
    (hcalls : conn'.calls = conn.calls.set conn.nextCall ⟨input, aborted, none, []⟩)
    (hnextCall : conn'.nextCall = conn.nextCall + 1) (hwoken : conn'.woken = conn.woken)
    (hstart : conn'.process ≠ .exited ∧ conn'.initialized = some .running ∧ conn'.nextId = conn.nextId + 1 ∧
        (∃ method timeoutMs, conn'.pending = conn.pending.set conn.nextId ⟨.initialization, method, timeoutMs⟩) ∨
      conn'.process = conn.process ∧ (∃ error, conn'.initialized = some (.settled (.error error))) ∧
        conn'.pending = conn.pending) : Books parse conn' := by
  obtain ⟨hnoCall, hnoPending⟩ := h.absent hinit
  have honly : ∀ {number call}, conn'.calls.get? number = some call →
      number = conn.nextCall ∧ call = ⟨input, aborted, none, []⟩ := by
    intro number call hget
    rw [hcalls, JsMap.get?_set] at hget
    split at hget
    · next hsame =>
      cases hget
      exact ⟨hsame, rfl⟩
    · cases (hnoCall number).symm.trans hget
  have hpend : ∀ {id request}, conn'.pending.get? id = some request →
      id = conn.nextId ∧ request.waiter = .initialization ∧ conn'.initialized = some .running ∧ conn'.nextId = conn.nextId + 1 := by
    intro id request hget
    rcases hstart with ⟨-, hrun, hnextId, method, timeoutMs, hset⟩ | ⟨-, -, hsame⟩
    · rw [hset, JsMap.get?_set] at hget
      split at hget
      · next hid =>
        cases hget
        exact ⟨hid, rfl, hrun, hnextId⟩
      · cases (hnoPending id).symm.trans hget
    · rw [hsame, hnoPending] at hget
      cases hget
  refine ⟨?_, ?_, ?_, ?_, ?_, ?_, ?_, ?_, ?_, ?_, ?_, ?_, ?_, ?_, ?_⟩
  · intro id request hget
    obtain ⟨hid, -, -, hnextId⟩ := hpend hget
    rw [hid, hnextId]
    exact Nat.lt_succ_self _
  · intro number call id hget hid
    rw [(honly hget).2] at hid
    cases hid
  · intro number call hget
    rw [(honly hget).1, hnextCall]
    exact Nat.lt_succ_self _
  · intro number number' call call' id hget hget' hid hid'
    rw [(honly hget).2] at hid
    cases hid
  · intro id request number hget hw
    cases (hpend hget).2.1.symm.trans hw
  · intro id request hget _
    exact (hpend hget).2.2.1
  · intro id id' request request' hget hget' _ _
    exact (hpend hget).1.trans (hpend hget').1.symm
  · intro hrun
    refine ⟨?_, conn.nextCall, ⟨input, aborted, none, []⟩, ?_, rfl, rfl⟩
    · rcases hstart with ⟨-, -, -, method, timeoutMs, hset⟩ | ⟨-, ⟨error, hfail⟩, -⟩
      · exact ⟨conn.nextId, _, by rw [hset]; exact JsMap.get?_set_self _ _ _, rfl⟩
      · cases hrun.symm.trans hfail
    · rw [hcalls]
      exact JsMap.get?_set_self _ _ _
  · intro _ number call hget
    rw [(honly hget).2]
  · intro number call hget
    rw [(honly hget).2]
    exact Nat.zero_le _
  · intro number call id hget _ hid
    rw [(honly hget).2] at hid
    cases hid
  · intro hnone
    rcases hstart with ⟨-, hrun, -⟩ | ⟨-, ⟨error, hfail⟩, -⟩
    · cases hnone.symm.trans hrun
    · cases hnone.symm.trans hfail
  · intro number call value hget hmem
    rw [(honly hget).2] at hmem
    cases hmem
  · intro hproc id
    rcases hstart with ⟨hlive, -⟩ | ⟨-, -, hsame⟩
    · exact absurd hproc hlive
    · rw [hsame, hnoPending]
  · intro hwas value hok
    rcases hstart with ⟨hlive, -⟩ | ⟨-, ⟨error, hfail⟩, -⟩
    · exact hlive
    · cases hok.symm.trans hfail

theorem ensureInitialized_cases (conn : McpConnection) (input : RequestInput) (aborted : Bool) :
    (∃ was, conn.initialized = some was ∧
        (conn.addCall input aborted).ensureInitialized = conn.addCall input aborted) ∨
      conn.initialized = none ∧ ((∃ error, (conn.addCall input aborted).ensureInitialized =
          { conn.addCall input aborted with initialized := some (.settled (.error error)) }) ∨
        (conn.addCall input aborted).ensureInitialized =
          { conn.addCall input aborted with process := .running, initialized := some .running }.sendRequest .initialization
            (js "initialize") initializeParams conn.config.timeoutMs) := by
  cases hinit : conn.initialized with
  | some was => exact .inl ⟨was, rfl, by simp only [ensureInitialized, addCall, hinit]⟩
  | none =>
    refine .inr ⟨rfl, ?_⟩
    cases henv : conn.config.environmentError with
    | some error => exact .inl ⟨error, by simp only [ensureInitialized, addCall, hinit, henv]⟩
    | none => exact .inr (by simp only [ensureInitialized, addCall, hinit, henv])

/-- A call that waits is sent under a new id. -/
theorem Books.send (h : Books parse conn) {call : Call} (hget : conn.calls.get? number = some call)
    (hid : call.id = none) (hdone : call.settled = [])
    (hinit : conn.initialized = some (.settled outcome)) (hlive : conn.process ≠ .exited)
    (method : JsString) (timeoutMs : Nat) {written : List Json} :
    Books parse { conn with
      calls := conn.calls.set number { call with id := some conn.nextId }
      nextId := conn.nextId + 1
      pending := conn.pending.set conn.nextId ⟨.call number, method, timeoutMs⟩
      written } := by
  have hcalls : ∀ {other found}, (conn.calls.set number { call with id := some conn.nextId }).get? other = some found →
      other = number ∧ found = { call with id := some conn.nextId } ∨ other ≠ number ∧ conn.calls.get? other = some found := by
    intro other found hfound
    rw [JsMap.get?_set] at hfound
    split at hfound
    · next hsame =>
      cases hfound
      exact .inl ⟨hsame, rfl⟩
    · next hne => exact .inr ⟨hne, hfound⟩
  have hpend : ∀ {id request}, (conn.pending.set conn.nextId ⟨.call number, method, timeoutMs⟩).get? id = some request →
      id = conn.nextId ∧ request.waiter = .call number ∨ conn.pending.get? id = some request := by
    intro id request hfound
    rw [JsMap.get?_set] at hfound
    split at hfound
    · next hsame =>
      cases hfound
      exact .inl ⟨hsame, rfl⟩
    · exact .inr hfound
  -- nothing is pending for a call that was not sent
  have hother : ∀ {id request other}, conn.pending.get? id = some request → request.waiter = .call other → other ≠ number := by
    rintro id request other hfound hw rfl
    obtain ⟨found, hthere, hsent, -⟩ := h.pendingCalls id request other hfound hw
    cases hget.symm.trans hthere
    cases hid.symm.trans hsent
  refine ⟨?_, ?_, ?_, ?_, ?_, ?_, ?_, ?_, ?_, ?_, ?_, ?_, ?_, ?_, h.woken⟩
  · intro id request hfound
    rcases hpend hfound with ⟨rfl, -⟩ | hfound
    · exact Nat.lt_succ_self _
    · exact Nat.lt_succ_of_lt (h.pendingIds id request hfound)
  · intro other found id hfound hsent
    rcases hcalls hfound with ⟨-, rfl⟩ | ⟨-, hfound⟩
    · cases hsent
      exact Nat.lt_succ_self _
    · exact Nat.lt_succ_of_lt (h.callIds other found id hfound hsent)
  · intro other found hfound
    rcases hcalls hfound with ⟨rfl, -⟩ | ⟨-, hfound⟩
    · exact h.numbers _ call hget
    · exact h.numbers other found hfound
  · intro other other' found found' id hfound hfound' hsent hsent'
    rcases hcalls hfound with ⟨hother, rfl⟩ | ⟨-, hold⟩ <;> rcases hcalls hfound' with ⟨hother', rfl⟩ | ⟨-, hold'⟩
    · exact hother.trans hother'.symm
    · cases hsent
      exact absurd (h.callIds _ _ _ hold' hsent') (Nat.lt_irrefl _)
    · cases hsent'
      exact absurd (h.callIds _ _ _ hold hsent) (Nat.lt_irrefl _)
    · exact h.distinct other other' found found' id hold hold' hsent hsent'
  · intro id request other hfound hw
    rcases hpend hfound with ⟨rfl, hcall⟩ | hfound
    · cases hcall.symm.trans hw
      exact ⟨_, JsMap.get?_set_self _ _ _, rfl, hdone⟩
    · obtain ⟨found, hthere, hrest⟩ := h.pendingCalls id request other hfound hw
      exact ⟨found, by rw [JsMap.get?_set, if_neg (hother hfound hw), hthere], hrest⟩
  · intro id request hfound hw
    rcases hpend hfound with ⟨-, hcall⟩ | hfound
    · cases hcall.symm.trans hw
    · exact h.pendingInit id request hfound hw
  · intro id id' request request' hfound hfound' hw hw'
    rcases hpend hfound with ⟨-, hcall⟩ | hfound
    · cases hcall.symm.trans hw
    · rcases hpend hfound' with ⟨-, hcall⟩ | hfound'
      · cases hcall.symm.trans hw'
      · exact h.initOnce id id' request request' hfound hfound' hw hw'
  · intro hrun
    cases hinit.symm.trans hrun
  · intro hrun
    cases hinit.symm.trans hrun
  · intro other found hfound
    rcases hcalls hfound with ⟨-, rfl⟩ | ⟨-, hfound⟩
    · exact h.once number call hget
    · exact h.once other found hfound
  · intro other found id hfound hnone hsent
    rcases hcalls hfound with ⟨rfl, rfl⟩ | ⟨-, hfound⟩
    · cases hsent
      exact ⟨_, JsMap.get?_set_self _ _ _, rfl⟩
    · obtain ⟨request, hthere, hw⟩ := h.awaited other found id hfound hnone hsent
      refine ⟨request, ?_, hw⟩
      rw [JsMap.get?_set, if_neg, hthere]
      exact Nat.ne_of_lt (h.callIds other found id hfound hsent)
  · intro hnone
    cases hinit.symm.trans hnone
  · intro other found value hfound hmem
    rcases hcalls hfound with ⟨-, rfl⟩ | ⟨-, hfound⟩
    · rw [hdone] at hmem
      cases hmem
    · exact h.own other found value hfound hmem
  · intro hexited
    exact absurd hexited hlive

/-! ## The calls that waited -/

/-- Whether a call may go on: it is not sent to a process that has ended. -/
def MayProceed (conn : McpConnection) (number : Nat) : Prop :=
  ∀ call value, conn.calls.get? number = some call → call.aborted = false →
    conn.initialized = some (.settled (.ok value)) → conn.process ≠ .exited

section Proceed

variable {number other : Nat} {outcome : Outcome}

/-- What happens to a call that goes on. -/
theorem proceed_cases (hwait : conn.IsWaiting number) (hinit : conn.initialized = some (.settled outcome)) :
    (∃ error, conn.proceed number = conn.settle (.call number) (.error error)) ∨
      ∃ call value, conn.calls.get? number = some call ∧ call.id = none ∧ call.settled = [] ∧ call.aborted = false ∧
        conn.initialized = some (.settled (.ok value)) ∧ conn.proceed number =
          { conn with calls := conn.calls.set number { call with id := some conn.nextId } }.sendRequest (.call number)
            call.input.method call.input.params call.input.timeoutMs := by
  obtain ⟨call, hget, hid, hdone⟩ := hwait
  cases outcome with
  | error error => exact .inl ⟨error, by simp only [proceed, hget, hinit]⟩
  | ok value =>
    have hsend : conn.proceed number = conn.sendCall number call := by simp only [proceed, hget, hinit]
    rw [hsend, sendCall]
    split
    · exact .inl ⟨_, rfl⟩
    · split
      · exact .inl ⟨_, rfl⟩
      · next habort => exact .inr ⟨call, value, hget, hid, hdone, by simpa using habort, hinit, rfl⟩

theorem Books.proceed (h : Books parse conn) (hwait : conn.IsWaiting number)
    (hinit : conn.initialized = some (.settled outcome)) (hmay : conn.MayProceed number) :
    Books parse (conn.proceed number) := by
  rcases proceed_cases hwait hinit with ⟨error, heq⟩ | ⟨call, value, hget, hid, hdone, habort, hok, heq⟩
  · rw [heq]
    obtain ⟨call, hget, hid, hdone⟩ := hwait
    refine h.settleCall hget hdone (fun id request hpend => ⟨hpend, fun hw => ?_⟩)
      (fun _ _ hpend _ => hpend) (fun _ hrun => ?_) nofun
    · obtain ⟨found, hthere, hsent, -⟩ := h.pendingCalls id request number hpend hw
      cases hget.symm.trans hthere
      cases hid.symm.trans hsent
    · cases hinit.symm.trans hrun
  · rw [heq]
    exact h.send hget hid hdone hok (hmay call value hget habort hok) _ _

theorem isWaiting_proceed (hwait : conn.IsWaiting number) (hinit : conn.initialized = some (.settled outcome)) :
    (conn.proceed number).IsWaiting other ↔ conn.IsWaiting other ∧ other ≠ number := by
  have hsame : other ≠ number → (conn.proceed number).calls.get? other = conn.calls.get? other := by
    intro hne
    rcases proceed_cases hwait hinit with ⟨error, heq⟩ | ⟨call, value, -, -, -, -, -, heq⟩
    · rw [heq, get?_settle_of_ne hne]
    · rw [heq]
      show (conn.calls.set number _).get? other = _
      rw [JsMap.get?_set, if_neg hne]
  constructor
  · rintro ⟨found, hfound, hid, hnone⟩
    have hne : other ≠ number := by
      rintro rfl
      rcases proceed_cases hwait hinit with ⟨error, heq⟩ | ⟨call, value, -, -, -, -, -, heq⟩
      · rw [heq] at hfound
        rcases call_of_settle hfound with ⟨-, old, -, rfl⟩ | ⟨hne, -⟩
        · exact absurd hnone (by simp)
        · exact hne rfl
      · rw [heq] at hfound
        cases (JsMap.get?_set_self _ _ _).symm.trans hfound
        cases hid
    rw [hsame hne] at hfound
    exact ⟨⟨found, hfound, hid, hnone⟩, hne⟩
  · rintro ⟨⟨found, hfound, hrest⟩, hne⟩
    exact ⟨found, by rw [hsame hne, hfound], hrest⟩

/-- What a call that goes on does not change. -/
theorem proceed_same (hwait : conn.IsWaiting number) (hinit : conn.initialized = some (.settled outcome)) :
    (conn.proceed number).initialized = conn.initialized ∧ (conn.proceed number).process = conn.process ∧
      (conn.proceed number).woken = conn.woken := by
  rcases proceed_cases hwait hinit with ⟨error, heq⟩ | ⟨call, value, -, -, -, -, -, heq⟩
  · rw [heq]
    exact ⟨rfl, rfl, rfl⟩
  · rw [heq]
    exact ⟨rfl, rfl, rfl⟩

end Proceed

end McpConnection

end Beale.Mcp
