import Beale.Mcp.Events
import Beale.Library.JsonText

/-!
# The correlation of requests and responses

- `Correlated`: a call is settled once, with a result only by a response with its id; what it has not been settled
  with yet is pending under a timer; the lines are handled whatever the chunks; nothing is left after an exit.
- `correlated_iff`: the first holds after every event of a run exactly if the second holds of every event.
-/

namespace Beale.Mcp

open Beale.Library
open McpConnection

namespace McpConnection

variable {conn : McpConnection} {parse : JsString → Option Json}

/-! ## The microtasks -/

variable {number : Nat}

theorem mem_waiting : number ∈ conn.waiting ↔ conn.IsWaiting number := by
  unfold waiting IsWaiting
  rw [List.mem_map]
  constructor
  · rintro ⟨⟨other, call⟩, hmem, rfl⟩
    obtain ⟨hthere, hfree⟩ := List.mem_filter.mp hmem
    simp only [Bool.and_eq_true, Option.isNone_iff_eq_none, List.isEmpty_iff] at hfree
    exact ⟨call, JsMap.get?_of_mem hthere, hfree⟩
  · rintro ⟨call, hget, hid, hdone⟩
    refine ⟨(number, call), List.mem_filter.mpr ⟨JsMap.mem_of_get? hget, ?_⟩, rfl⟩
    simp [hid, hdone]

theorem nodup_waiting (conn : McpConnection) : conn.waiting.Nodup :=
  conn.calls.nodup.sublist (List.filter_sublist.map _)

theorem Books.proceedAll (h : Books parse conn) {outcome : Outcome} (hinit : conn.initialized = some (.settled outcome))
    (hlive : ∀ value, conn.initialized = some (.settled (.ok value)) → conn.process ≠ .exited) {numbers : List Nat}
    (hwait : ∀ number ∈ numbers, conn.IsWaiting number) (hnodup : numbers.Nodup) :
    Books parse (numbers.foldl McpConnection.proceed conn) ∧
      (numbers.foldl McpConnection.proceed conn).woken = conn.woken ∧
      ∀ other, (numbers.foldl McpConnection.proceed conn).IsWaiting other → conn.IsWaiting other ∧ other ∉ numbers := by
  induction numbers generalizing conn with
  | nil => exact ⟨h, rfl, fun other hother => ⟨hother, nofun⟩⟩
  | cons number rest ih =>
    obtain ⟨hnot, hnodup⟩ := List.nodup_cons.mp hnodup
    have hfirst := hwait number List.mem_cons_self
    obtain ⟨hinitialized, hproc, hwoken⟩ := proceed_same hfirst hinit
    have hbooks := h.proceed hfirst hinit fun _ value _ _ hok => hlive value hok
    have hrest : ∀ other ∈ rest, (conn.proceed number).IsWaiting other := fun other hmem =>
      (isWaiting_proceed hfirst hinit).mpr ⟨hwait other (List.mem_cons_of_mem _ hmem), fun hsame => hnot (hsame ▸ hmem)⟩
    have hlive' : ∀ value, (conn.proceed number).initialized = some (.settled (.ok value)) →
        (conn.proceed number).process ≠ .exited := by
      rw [hinitialized, hproc]
      exact hlive
    obtain ⟨hall, hwoken', hothers⟩ := ih hbooks (hinitialized.trans hinit) hlive' hrest hnodup
    refine ⟨hall, hwoken'.trans hwoken, fun other hother => ?_⟩
    obtain ⟨hwas, hnotRest⟩ := hothers other hother
    obtain ⟨hold, hne⟩ := (isWaiting_proceed hfirst hinit).mp hwas
    exact ⟨hold, by simp [hne, hnotRest]⟩

theorem notifyInitialized_same (conn : McpConnection) : ∃ written, conn.notifyInitialized = { conn with written } := by
  unfold notifyInitialized write
  split
  · split
    · exact ⟨conn.written, rfl⟩
    · exact ⟨_, rfl⟩
  · exact ⟨conn.written, rfl⟩

/-- No call waits any more where `initialize` was settled. -/
theorem Kept.drain (h : Kept parse conn) : Kept parse conn.drain ∧ conn.drain.woken = false := by
  unfold McpConnection.drain
  split
  · next hwoken =>
    obtain ⟨outcome, hinit⟩ := h.settled hwoken
    obtain ⟨written, heq⟩ := notifyInitialized_same { conn with woken := false }
    rw [heq]
    have hbooks : Books parse { conn with woken := false, written } :=
      h.books.of_same rfl rfl rfl rfl rfl rfl nofun fun _ hline => hline
    have hwait : ∀ number ∈ conn.waiting, IsWaiting { conn with woken := false, written } number := fun number hmem =>
      mem_waiting.mp hmem
    obtain ⟨hall, hwoken', hrest⟩ := hbooks.proceedAll hinit (h.books.woken hwoken) hwait (nodup_waiting conn)
    refine ⟨⟨hall, fun _ other hother => ?_, fun hwas => ?_⟩, hwoken'⟩
    · obtain ⟨hwas, hnot⟩ := hrest other hother
      exact absurd (mem_waiting.mpr hwas) hnot
    · cases hwoken'.symm.trans hwas
  · next hwoken => exact ⟨h, by simpa using hwoken⟩

theorem SameInput.drain (conn : McpConnection) : SameInput conn conn.drain := by
  have hall : ∀ (numbers : List Nat) (conn' : McpConnection), SameInput conn' (numbers.foldl McpConnection.proceed conn') := by
    intro numbers
    induction numbers with
    | nil => exact SameInput.refl
    | cons number rest ih => exact fun conn' => (SameInput.proceed conn' number).trans (ih _)
  unfold McpConnection.drain
  split
  · obtain ⟨written, heq⟩ := notifyInitialized_same { conn with woken := false }
    rw [heq]
    have hnote : SameInput conn { conn with woken := false, written } := ⟨rfl, rfl, rfl, rfl⟩
    exact hnote.trans (hall _ _)
  · exact .refl conn

/-- Where `initialize` has failed, `drain` sends nothing. -/
theorem IsFailure.pending_drain (h : conn.IsFailure) : conn.drain.pending = conn.pending := by
  have hall : ∀ (numbers : List Nat) (conn' : McpConnection), (∃ error, conn'.initialized = some (.settled (.error error))) →
      (numbers.foldl proceed conn').pending = conn'.pending := by
    intro numbers
    induction numbers with
    | nil => exact fun _ _ => rfl
    | cons number rest ih =>
      rintro conn' ⟨error, hinit⟩
      rw [List.foldl_cons]
      unfold McpConnection.proceed
      rw [hinit]
      split
      · next hok => cases hok
      · exact ih _ ⟨error, hinit⟩
      · exact ih _ ⟨error, hinit⟩
  unfold McpConnection.drain
  split
  · next hwoken =>
    obtain ⟨written, heq⟩ := notifyInitialized_same { conn with woken := false }
    rw [heq]
    exact hall _ _ (h hwoken)
  · rfl

/-! ## Between events -/

structure Rested (parse : JsString → Option Json) (conn : McpConnection) : Prop where
  kept : Kept parse conn
  woken : conn.woken = false
  crashed : conn.crashed = false
  handled : conn.handled = messagesOf (cutLines newline conn.received).1
  buffer : conn.stdoutBuffer = (cutLines newline conn.received).2

/-- No error that cannot be turned into a text answers a request, and no call goes to a process that has ended after
it was initialized. -/
def ClientKept (parse : JsString → Option Json) (conn : McpConnection) : McpEvent → Bool
  | .request input aborted => conn.MaySend (aborted && input.hasSignal)
  | .stdout chunk =>
    Readable parse conn.config.name conn.pending (messagesOf (cutLines newline (conn.stdoutBuffer ++ chunk)).1)
  | _ => true

theorem messagesOf_append (lines lines' : List JsString) :
    messagesOf (lines ++ lines') = messagesOf lines ++ messagesOf lines' := by
  simp [messagesOf]

variable {conn' : McpConnection}

theorem Rested.drain (hkept : Kept parse conn') (hcrash : conn'.crashed = false)
    (hhandled : conn'.handled = messagesOf (cutLines newline conn'.received).1)
    (hbuffer : conn'.stdoutBuffer = (cutLines newline conn'.received).2) : Rested parse conn'.drain := by
  obtain ⟨hdrained, hwoken⟩ := hkept.drain
  have hinput := SameInput.drain conn'
  refine ⟨hdrained, hwoken, hinput.crashed.trans hcrash, ?_, ?_⟩
  · rw [hinput.handled, hinput.received, hhandled]
  · rw [hinput.buffer, hinput.received, hbuffer]

/-- An event that reads nothing. -/
theorem Rested.quiet (h : Rested parse conn) (hkept : Kept parse conn')
    (hinput : SameInput conn conn') :
    (if conn'.crashed then conn' else conn'.drain) = conn'.drain ∧ Rested parse conn'.drain := by
  have hcrash : conn'.crashed = false := hinput.crashed.trans h.crashed
  refine ⟨if_neg (by rw [hcrash]; nofun), .drain hkept hcrash ?_ ?_⟩
  · rw [hinput.handled, hinput.received, h.handled]
  · rw [hinput.buffer, hinput.received, h.buffer]

theorem Rested.step_eq (h : Rested parse conn) (event : McpEvent) :
    conn.step parse event =
      if (conn.handle parse event).crashed then conn.handle parse event else (conn.handle parse event).drain := by
  rw [McpConnection.step, if_neg (by rw [h.crashed]; nofun)]

/-- A chunk: its lines are handled, or one of them throws. -/
theorem Rested.stdout (h : Rested parse conn) (chunk : JsString) :
    if ClientKept parse conn (.stdout chunk) = true then Rested parse (conn.step parse (.stdout chunk))
    else (conn.step parse (.stdout chunk)).IsAbandoned := by
  obtain ⟨read, hread⟩ : ∃ read : McpConnection, read = { conn with
      stdoutBuffer := (cutLines newline (conn.stdoutBuffer ++ chunk)).2
      received := conn.received ++ chunk } := ⟨_, rfl⟩
  have hkept : Kept parse read := by
    rw [hread]
    exact h.kept.of_same rfl rfl rfl rfl rfl rfl rfl fun _ hline => hline
  have hcrash : read.crashed = false := by rw [hread]; exact h.crashed
  have hdone := hkept.handleLines hcrash (messagesOf (cutLines newline (conn.stdoutBuffer ++ chunk)).1)
  have hsame := handleLines_same parse read (messagesOf (cutLines newline (conn.stdoutBuffer ++ chunk)).1)
  have hhandle : conn.handle parse (.stdout chunk) =
      handleLines parse read (messagesOf (cutLines newline (conn.stdoutBuffer ++ chunk)).1) := by rw [hread]; rfl
  rw [h.step_eq, hhandle]
  generalize handleLines parse read (messagesOf (cutLines newline (conn.stdoutBuffer ++ chunk)).1) = done at hdone hsame ⊢
  have hreadable : Readable parse read.config.name read.pending = Readable parse conn.config.name conn.pending := by
    rw [hread]
  have hall := cutLines_append newline conn.received chunk
  rw [← h.buffer] at hall
  unfold LinesDone at hdone
  rw [hreadable] at hdone
  have hcondition : ClientKept parse conn (.stdout chunk) =
      Readable parse conn.config.name conn.pending (messagesOf (cutLines newline (conn.stdoutBuffer ++ chunk)).1) := rfl
  rw [← hcondition] at hdone
  split
  · next hkept =>
    rw [if_pos hkept] at hdone
    obtain ⟨hdoneKept, hnot, hhandled, -⟩ := hdone
    have hrecv : done.received = conn.received ++ chunk := by rw [hsame.1, hread]
    rw [if_neg (by rw [hnot]; nofun)]
    refine .drain hdoneKept hnot ?_ ?_
    · have hwas : read.handled = conn.handled := by rw [hread]
      rw [hhandled, hwas, h.handled, hrecv, hall, messagesOf_append]
    · rw [hsame.2, hrecv, hall, hread]
  · next hbad =>
    rw [if_neg hbad] at hdone
    rw [if_pos hdone.1]
    exact hdone.2

theorem Rested.step (h : Rested parse conn) {event : McpEvent} (hkept : ClientKept parse conn event = true) :
    Rested parse (conn.step parse event) := by
  have hquiet : ∀ conn', Kept parse conn' → SameInput conn conn' →
      conn.handle parse event = conn' → Rested parse (conn.step parse event) := by
    intro conn' hkept' hinput heq
    obtain ⟨hstep, hrested⟩ := h.quiet hkept' hinput
    rw [h.step_eq, heq, hstep]
    exact hrested
  cases event with
  | request input aborted => exact hquiet _ (h.kept.request h.woken input aborted hkept) (.request _ _ _) rfl
  | stdout chunk =>
    have hdone := h.stdout chunk
    rwa [if_pos hkept] at hdone
  | stderr chunk =>
    obtain ⟨stderrBuffer, heq⟩ : ∃ stderrBuffer, conn.appendDiagnostic chunk = { conn with stderrBuffer } := ⟨_, rfl⟩
    have hkept' : Kept parse { conn with stderrBuffer } :=
      h.kept.of_same rfl rfl rfl rfl rfl rfl rfl fun _ hline => hline
    exact hquiet { conn with stderrBuffer } hkept' ⟨rfl, rfl, rfl, rfl⟩ heq
  | timeout id => exact hquiet _ (h.kept.timeout id) (.timeout _ _) rfl
  | abort number => exact hquiet _ (h.kept.abort number) (.abort _ _) rfl
  | exit code signal => exact hquiet _ (h.kept.exit h.woken code signal) (.exit _ _ _) rfl

theorem Rested.new (config : McpServerConfig) : Rested parse (.new config) := by
  have hcalls : ∀ number, (McpConnection.new config).calls.get? number = none := fun _ => rfl
  have hpend : ∀ id, (McpConnection.new config).pending.get? id = none := fun _ => rfl
  refine ⟨⟨⟨?_, ?_, ?_, ?_, ?_, ?_, ?_, nofun, nofun, ?_, ?_, fun _ => ⟨hcalls, hpend⟩, ?_, nofun, nofun⟩, ?_, nofun⟩, rfl, rfl, rfl, rfl⟩
  · intro id request hget
    cases (hpend id).symm.trans hget
  · intro number call id hget
    cases (hcalls number).symm.trans hget
  · intro number call hget
    cases (hcalls number).symm.trans hget
  · intro number number' call call' id hget
    cases (hcalls number).symm.trans hget
  · intro id request number hget
    cases (hpend id).symm.trans hget
  · intro id request hget
    cases (hpend id).symm.trans hget
  · intro id id' request request' hget
    cases (hpend id).symm.trans hget
  · intro number call hget
    cases (hcalls number).symm.trans hget
  · intro number call id hget
    cases (hcalls number).symm.trans hget
  · intro number call value hget
    cases (hcalls number).symm.trans hget
  · rintro - number ⟨call, hget, -⟩
    cases (hcalls number).symm.trans hget

/-! ## The property -/

/-- The timers of all pending requests fire. -/
def expireAll (parse : JsString → Option Json) (conn : McpConnection) : McpConnection :=
  runSteps (McpConnection.step parse) conn (conn.pending.keys.map McpEvent.timeout)

structure Correlated (parse : JsString → Option Json) (conn : McpConnection) : Prop where
  once : ∀ number call, conn.calls.get? number = some call → call.settled.length ≤ 1
  /-- what is not settled is pending, or waits for `initialize`, which is -/
  awaited : ∀ number call, conn.calls.get? number = some call → call.settled = [] → conn.IsAwaited number call
  /-- so the timers settle each call, if nothing else does -/
  expires : ∀ number call, (conn.expireAll parse).calls.get? number = some call → call.settled.length = 1
  distinct : ∀ number number' call call' id, conn.calls.get? number = some call → conn.calls.get? number' = some call' →
    call.id = some id → call'.id = some id → number = number'
  own : ∀ number call value, conn.calls.get? number = some call → .ok value ∈ call.settled →
    ∃ id, call.id = some id ∧ conn.Answers parse id value
  /-- a response to a call that is settled is late -/
  late : ∀ number call id, conn.calls.get? number = some call → call.settled ≠ [] → call.id = some id →
    conn.pending.get? id = none
  unknown : ∀ line response, (parse line).bind responseOf = some response →
    (∀ id, requestId? response.id = some id → conn.pending.get? id = none) → conn.handleMessage parse line = conn
  messages : conn.handled = messagesOf (cutLines newline conn.received).1
  exited : conn.process = .exited → ∀ number call, conn.calls.get? number = some call → call.settled ≠ []

/-- A late or an unknown response changes nothing. -/
theorem handleMessage_unknown {line : JsString} {response : Response}
    (hresp : (parse line).bind responseOf = some response)
    (hunknown : ∀ id, requestId? response.id = some id → conn.pending.get? id = none) :
    conn.handleMessage parse line = conn := by
  obtain ⟨message, hparse, hmessage⟩ := Option.bind_eq_some_iff.mp hresp
  unfold handleMessage
  simp only [hparse, hmessage]
  unfold handleResponse
  split
  · rfl
  · next id hid => rw [hunknown id hid]

variable {call : Call}

theorem Rested.awaited (h : Rested parse conn) (hget : conn.calls.get? number = some call)
    (hnone : call.settled = []) : conn.IsAwaited number call := by
  cases hid : call.id with
  | some id =>
    obtain ⟨request, hpend, hw⟩ := h.kept.books.awaited number call id hget hnone hid
    exact .inl ⟨id, request, hid, hpend, hw⟩
  | none =>
    have hrun := h.kept.waits h.woken number ⟨call, hget, hid, hnone⟩
    exact .inr ⟨hid, (h.kept.books.running hrun).1⟩

theorem Rested.settled_of_idle (h : Rested parse conn) (hidle : ∀ id, conn.pending.get? id = none)
    (hget : conn.calls.get? number = some call) : call.settled ≠ [] := by
  intro hnone
  rcases h.awaited hget hnone with ⟨id, request, -, hpend, -⟩ | ⟨-, id, request, hpend, -⟩
  · cases (hidle id).symm.trans hpend
  · cases (hidle id).symm.trans hpend

theorem Rested.late (h : Rested parse conn) {id : Nat}
    (hget : conn.calls.get? number = some call) (hdone : call.settled ≠ []) (hid : call.id = some id) :
    conn.pending.get? id = none := by
  by_contra hthere
  obtain ⟨request, hpend⟩ := Option.ne_none_iff_exists'.mp hthere
  cases hw : request.waiter with
  | initialization =>
    have hrun := h.kept.books.pendingInit id request hpend hw
    cases hid.symm.trans (h.kept.books.unsent hrun number call hget)
  | call other =>
    obtain ⟨call', hget', hid', hnone⟩ := h.kept.books.pendingCalls id request other hpend hw
    cases h.kept.books.distinct number other call call' id hget hget' hid hid'
    cases hget.symm.trans hget'
    exact hdone hnone

/-! ## The timers -/

/-- A timer settles what is pending under its id, and nothing new becomes pending. -/
theorem Rested.pending_timeout (h : Rested parse conn) (id : Nat) :
    (conn.step parse (.timeout id)).pending = conn.pending.delete id := by
  have hfailure : (conn.timeout id).IsFailure := by
    have hrested : conn.IsFailure := fun hwas => by cases h.woken.symm.trans hwas
    unfold McpConnection.timeout
    split
    · exact hrested
    · refine IsFailure.settlePending ?_ _ _ _
      unfold McpConnection.write
      split
      · exact hrested
      · exact hrested
  have hstep : conn.step parse (.timeout id) = (conn.timeout id).drain := by
    rw [h.step_eq]
    exact if_neg (by rw [show (conn.handle parse (.timeout id)).crashed = conn.crashed from (SameInput.timeout conn id).crashed, h.crashed]; nofun)
  rw [hstep, hfailure.pending_drain, McpConnection.pending_timeout]

theorem Rested.expire (h : Rested parse conn) (ids : List Nat) :
    Rested parse (runSteps (McpConnection.step parse) conn (ids.map McpEvent.timeout)) ∧
      ∀ id, id ∈ ids ∨ conn.pending.get? id = none →
        (runSteps (McpConnection.step parse) conn (ids.map McpEvent.timeout)).pending.get? id = none := by
  induction ids generalizing conn with
  | nil => exact ⟨h, fun id hid => hid.resolve_left nofun⟩
  | cons first rest ih =>
    have hfirst : Rested parse (conn.step parse (.timeout first)) := h.step rfl
    obtain ⟨hrested, hgone⟩ := ih hfirst
    refine ⟨hrested, fun id hid => hgone id ?_⟩
    rw [h.pending_timeout, JsMap.get?_delete]
    rcases hid with hmem | hnone
    · rcases List.mem_cons.mp hmem with rfl | hmem
      · exact .inr (if_pos rfl)
      · exact .inl hmem
    · rw [hnone, ite_self]
      exact .inr rfl

theorem Rested.correlated (h : Rested parse conn) : Correlated parse conn where
  once := h.kept.books.once
  awaited _ _ hget hnone := h.awaited hget hnone
  expires number call hget := by
    obtain ⟨hrested, hgone⟩ := h.expire conn.pending.keys
    have hidle : ∀ id, (conn.expireAll parse).pending.get? id = none := by
      intro id
      refine hgone id ?_
      by_cases hmem : id ∈ conn.pending.keys
      · exact .inl hmem
      · exact .inr (JsMap.get?_eq_none.mpr hmem)
    have hsome := List.length_pos_iff.mpr (hrested.settled_of_idle hidle hget)
    have honce := hrested.kept.books.once number call hget
    omega
  distinct := h.kept.books.distinct
  own := h.kept.books.own
  late _ _ _ hget hdone hid := h.late hget hdone hid
  unknown _ _ hresp hunknown := handleMessage_unknown hresp hunknown
  messages := h.handled
  exited hexited _ _ hget := h.settled_of_idle (h.kept.books.exited hexited) hget

/-! ## Runs -/

theorem maySend_eq_false {aborted : Bool} (h : conn.MaySend aborted = false) :
    conn.process = .exited ∧ (∃ value, conn.initialized = some (.settled (.ok value))) ∧ aborted = false := by
  unfold MaySend at h
  split at h
  · next value hproc hinit => exact ⟨hproc, ⟨value, hinit⟩, h⟩
  · cases h

/-- A call that is sent after the process has ended is left waiting. -/
theorem Rested.request_abandoned (h : Rested parse conn) {input : RequestInput} {aborted : Bool}
    (hbad : conn.MaySend (aborted && input.hasSignal) = false) :
    ¬ Correlated parse (conn.step parse (.request input aborted)) := by
  obtain ⟨hexited, ⟨value, hinit⟩, habort⟩ := maySend_eq_false hbad
  have hadded : (conn.addCall input (aborted && input.hasSignal)).ensureInitialized =
      conn.addCall input (aborted && input.hasSignal) := by
    simp only [McpConnection.ensureInitialized, McpConnection.addCall, hinit]
  have hinit' : (conn.addCall input (aborted && input.hasSignal)).initialized = some (.settled (.ok value)) := hinit
  have hproc : (conn.addCall input (aborted && input.hasSignal)).process ≠ .absent := by
    rw [show (conn.addCall input (aborted && input.hasSignal)).process = .exited from hexited]
    rintro ⟨⟩
  have hget : (conn.addCall input (aborted && input.hasSignal)).calls.get? conn.nextCall =
      some ⟨input, aborted && input.hasSignal, none, []⟩ := JsMap.get?_set_self _ _ _
  -- it is sent
  have hsent : conn.request input aborted = { conn.addCall input (aborted && input.hasSignal) with
      calls := (conn.addCall input (aborted && input.hasSignal)).calls.set conn.nextCall
        ⟨input, aborted && input.hasSignal, some conn.nextId, []⟩ }.sendRequest (.call conn.nextCall) input.method
          input.params input.timeoutMs := by
    have hproceed : (conn.addCall input (aborted && input.hasSignal)).proceed conn.nextCall =
        (conn.addCall input (aborted && input.hasSignal)).sendCall conn.nextCall
          ⟨input, aborted && input.hasSignal, none, []⟩ := by
      simp only [McpConnection.proceed, hget, hinit']
    rw [McpConnection.request, hadded, hproceed, McpConnection.sendCall, if_neg hproc, if_neg (by rw [habort]; rintro ⟨⟩)]
    rfl
  have hcrash : (conn.request input aborted).crashed = false := (SameInput.request conn input aborted).crashed.trans h.crashed
  have hwoken : (conn.request input aborted).woken = false := by rw [hsent]; exact h.woken
  have hstep : conn.step parse (.request input aborted) = conn.request input aborted := by
    have hhandle : conn.handle parse (.request input aborted) = conn.request input aborted := rfl
    rw [h.step_eq, hhandle, if_neg (by rw [hcrash]; rintro ⟨⟩), McpConnection.drain, if_neg (by rw [hwoken]; rintro ⟨⟩)]
  intro hcorr
  rw [hstep, hsent] at hcorr
  exact hcorr.exited hexited conn.nextCall _ (JsMap.get?_set_self _ _ _) rfl

theorem Rested.iff (h : Rested parse conn) (event : McpEvent) :
    Correlated parse (conn.step parse event) ↔ ClientKept parse conn event = true := by
  refine ⟨fun hcorr => ?_, fun hkept => (h.step hkept).correlated⟩
  by_contra hbad
  cases event with
  | request input aborted => exact h.request_abandoned (Bool.eq_false_iff.mpr hbad) hcorr
  | stdout chunk =>
    have habandoned := h.stdout chunk
    rw [if_neg hbad] at habandoned
    obtain ⟨number, call, hget, hnone, hnot⟩ := habandoned
    exact hnot (hcorr.awaited number call hget hnone)
  | _ => exact hbad rfl

theorem Rested.runMeets_iff (h : Rested parse conn) (events : List McpEvent) :
    RunMeets (McpConnection.step parse) (fun conn event => Correlated parse (conn.step parse event)) conn events ↔
      RunMeets (McpConnection.step parse) (fun conn event => ClientKept parse conn event = true) conn events :=
  runMeets_iff_of_invariant (fun _ event h => h.iff event) (fun _ _ h hkept => h.step hkept) h events

/-- In a run every call is settled once, by the response with its own id, a timer, its signal or the end of the
process, exactly if no error without a text answers a request and no call follows the end of an initialized process. -/
theorem correlated_iff (parse : JsString → Option Json) (config : McpServerConfig) (events : List McpEvent) :
    RunMeets (McpConnection.step parse) (fun conn event => Correlated parse (conn.step parse event)) (.new config) events ↔
      RunMeets (McpConnection.step parse) (fun conn event => ClientKept parse conn event = true) (.new config) events :=
  (Rested.new config).runMeets_iff events

/-- `JSON.parse` of a line. -/
def parseLine (line : JsString) : Option Json := (readValue (line.length + 1) line).map Prod.fst

def toolsList : RequestInput := ⟨js "tools/list", .obj [], 30000, false⟩

def initializedText : JsString := js "\x7b\"jsonrpc\":\"2.0\",\"id\":1,\"result\":\x7b\x7d\x7d\n"

/-- A response with an error that is `null`. -/
def nullErrorRun : List McpEvent :=
  [.request toolsList false, .stdout initializedText,
    .stdout (js "\x7b\"jsonrpc\":\"2.0\",\"id\":2,\"result\":\x7b\x7d,\"error\":null\x7d\n")]

/-- A call after the server has ended. -/
def exitedRun : List McpEvent :=
  [.request toolsList false, .stdout initializedText, .exit (some 1) none, .request toolsList false]

theorem null_error_or_exited_server :
    ¬ RunMeets (McpConnection.step parseLine) (fun conn event => Correlated parseLine (conn.step parseLine event))
        (.new ⟨js "tools", 30000, none⟩) nullErrorRun ∧
      ¬ RunMeets (McpConnection.step parseLine) (fun conn event => Correlated parseLine (conn.step parseLine event))
        (.new ⟨js "tools", 30000, none⟩) exitedRun := by
  rw [(Rested.new _).runMeets_iff, (Rested.new _).runMeets_iff]
  decide +kernel

end McpConnection

end Beale.Mcp
