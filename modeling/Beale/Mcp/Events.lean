import Beale.Mcp.Requests

/-!
# The events of a connection

- `Kept.handleLines`, `Kept.timeout`, `Kept.abort`, `Kept.exit`, `Kept.request`: the handlers keep it;
  `Kept.drain`: then no call waits but for `initialize`.
-/

namespace Beale.Mcp

open Beale.Library
open McpConnection

namespace McpConnection

variable {conn : McpConnection} {parse : JsString → Option Json}

/-- Within an event. -/
structure Kept (parse : JsString → Option Json) (conn : McpConnection) : Prop where
  books : Books parse conn
  waits : conn.woken = false → ∀ number, conn.IsWaiting number → conn.initialized = some .running
  settled : conn.woken = true → ∃ outcome, conn.initialized = some (.settled outcome)

theorem Kept.of_same (h : Kept parse conn) {conn' : McpConnection} (hnextId : conn'.nextId = conn.nextId)
    (hpend : conn'.pending = conn.pending) (hcalls : conn'.calls = conn.calls) (hnextCall : conn'.nextCall = conn.nextCall)
    (hinitialized : conn'.initialized = conn.initialized) (hproc : conn'.process = conn.process)
    (hwoken : conn'.woken = conn.woken) (hhandled : ∀ line ∈ conn.handled, line ∈ conn'.handled) : Kept parse conn' := by
  refine ⟨h.books.of_same hnextId hpend hcalls hnextCall hinitialized hproc (fun hwas => hwoken ▸ hwas) hhandled, ?_, ?_⟩
  · rw [hwoken, hinitialized]
    simpa only [IsWaiting, hcalls] using h.waits
  · rw [hwoken, hinitialized]
    exact h.settled

/-- What is written to the process does not matter. -/
theorem Kept.write (h : Kept parse conn) (message : Json) : Kept parse (conn.write message) := by
  unfold McpConnection.write
  split
  · exact h
  · exact h.of_same rfl rfl rfl rfl rfl rfl rfl fun _ hline => hline

@[simp] theorem pending_write (conn : McpConnection) (message : Json) : (conn.write message).pending = conn.pending := by
  unfold write
  split <;> rfl

theorem get?_write {id : Nat} {request : PendingRequest} (h : conn.pending.get? id = some request) (message : Json) :
    (conn.write message).pending.get? id = some request := by
  rw [pending_write]
  exact h

/-! ## A request is settled -/

section Settle

variable {id : Nat} {request : PendingRequest} {outcome : Outcome}

theorem Kept.settlePending (h : Kept parse conn) (hget : conn.pending.get? id = some request)
    (hown : ∀ value, outcome = .ok value → conn.Answers parse id value) :
    Kept parse (conn.settlePending id request outcome) := by
  refine ⟨h.books.settlePending hget hown, ?_, ?_⟩
  · unfold McpConnection.settlePending
    cases hw : request.waiter with
    | initialization => nofun
    | call number =>
      -- the call was sent, so it did not wait
      rintro hwoken other ⟨call, hcall, hid, hnone⟩
      rcases call_of_settle hcall with ⟨-, old, -, rfl⟩ | ⟨-, hcall⟩
      · exact absurd hnone (by simp)
      · exact h.waits hwoken other ⟨call, hcall, hid, hnone⟩
  · unfold McpConnection.settlePending
    cases hw : request.waiter with
    | initialization => exact fun _ => ⟨outcome, rfl⟩
    | call number => exact h.settled

theorem settlePending_same (conn : McpConnection) (id : Nat) (request : PendingRequest) (outcome : Outcome) :
    (conn.settlePending id request outcome).pending = conn.pending.delete id ∧
      (conn.settlePending id request outcome).process = conn.process ∧
      (conn.settlePending id request outcome).config = conn.config := by
  simp [settlePending]

end Settle

/-! ## What the server writes -/

/-- Whether the response of a line that a request waits for has a result, or an error with a text. -/
def Readable (parse : JsString → Option Json) (name : JsString) : JsMap Nat PendingRequest → List JsString → Bool
  | _, [] => true
  | pending, line :: rest =>
    match (parse line).bind responseOf with
    | none => Readable parse name pending rest
    | some response =>
      match requestId? response.id with
      | none => Readable parse name pending rest
      | some id =>
        match pending.get? id, response.carried with
        | none, _ => Readable parse name pending rest
        | some _, .result _ => Readable parse name (pending.delete id) rest
        | some _, .error error => (errorText name error).isSome && Readable parse name (pending.delete id) rest

theorem handleMessage_cases (conn : McpConnection) (parse : JsString → Option Json) (line : JsString) :
    (∃ stderrBuffer written, conn.handleMessage parse line = { conn with stderrBuffer, written }) ∧
        (∀ response id, (parse line).bind responseOf = some response → requestId? response.id = some id →
          conn.pending.get? id = none) ∨
      ∃ response id request, (parse line).bind responseOf = some response ∧ requestId? response.id = some id ∧
        conn.pending.get? id = some request ∧
        ((∃ value, response.carried = .result value ∧ conn.handleMessage parse line = conn.settlePending id request (.ok value)) ∨
          (∃ error text, response.carried = .error error ∧ errorText conn.config.name error = some text ∧
            conn.handleMessage parse line = conn.settlePending id request (.error text)) ∨
          ∃ error, response.carried = .error error ∧ errorText conn.config.name error = none ∧
            conn.handleMessage parse line = { conn with pending := conn.pending.delete id, crashed := true }) := by
  unfold handleMessage
  cases hparse : parse line with
  | none => exact .inl ⟨⟨_, conn.written, rfl⟩, (by rintro _ _ ⟨⟩)⟩
  | some message =>
    cases hresp : responseOf message with
    | none =>
      simp only [Option.bind_some, hresp]
      refine .inl ⟨?_, (by rintro _ _ ⟨⟩)⟩
      split
      · unfold write
        split
        · exact ⟨_, _, rfl⟩
        · exact ⟨_, _, rfl⟩
      · exact ⟨_, _, rfl⟩
    | some response =>
      simp only [Option.bind_some, hresp, Option.some.injEq]
      unfold handleResponse
      cases hid : requestId? response.id with
      | none => exact .inl ⟨⟨_, _, rfl⟩, by rintro _ id rfl hsome; cases hid.symm.trans hsome⟩
      | some id =>
        cases hget : conn.pending.get? id with
        | none =>
          refine .inl ⟨⟨conn.stderrBuffer, conn.written, by simp only [hget]⟩, ?_⟩
          rintro _ id' rfl hsome
          cases hid.symm.trans hsome
          exact hget
        | some request =>
          refine .inr ⟨response, id, request, rfl, hid, hget, ?_⟩
          cases hcarried : response.carried with
          | result value => exact .inl ⟨value, rfl, by simp only [hget]⟩
          | error error =>
            refine .inr ?_
            cases htext : errorText conn.config.name error with
            | some text => exact .inl ⟨error, text, rfl, htext, by simp only [hget, htext]⟩
            | none => exact .inr ⟨error, rfl, htext, by simp only [hget, htext]⟩

section Readable

variable {name line : JsString} {pending : JsMap Nat PendingRequest} {rest : List JsString} {response : Response} {id : Nat}
  {request : PendingRequest}

theorem readable_skip (h : ∀ response id, (parse line).bind responseOf = some response → requestId? response.id = some id →
    pending.get? id = none) : Readable parse name pending (line :: rest) = Readable parse name pending rest := by
  rw [Readable]
  cases hresp : (parse line).bind responseOf with
  | none => rfl
  | some response =>
    cases hid : requestId? response.id with
    | none => simp only [hid]
    | some id => simp only [hid, h response id hresp hid]

section

variable (hresp : (parse line).bind responseOf = some response)
  (hid : requestId? response.id = some id) (hget : pending.get? id = some request)
include hresp hid hget

theorem readable_result {value : Json} (hcarried : response.carried = .result value) :
    Readable parse name pending (line :: rest) = Readable parse name (pending.delete id) rest := by
  rw [Readable, hresp]
  simp only [hid, hget, hcarried]

theorem readable_error {error : Json} (hcarried : response.carried = .error error) :
    Readable parse name pending (line :: rest) =
      ((errorText name error).isSome && Readable parse name (pending.delete id) rest) := by
  rw [Readable, hresp]
  simp only [hid, hget, hcarried]

end

end Readable

/-- A call that nothing will settle: it is not pending, and does not wait for `initialize`. -/
def IsAwaited (conn : McpConnection) (number : Nat) (call : Call) : Prop :=
  (∃ id request, call.id = some id ∧ conn.pending.get? id = some request ∧ request.waiter = .call number) ∨
    call.id = none ∧ ∃ id request, conn.pending.get? id = some request ∧ request.waiter = .initialization

def IsAbandoned (conn : McpConnection) : Prop :=
  ∃ number call, conn.calls.get? number = some call ∧ call.settled = [] ∧ ¬ conn.IsAwaited number call

theorem Books.abandoned (h : Books parse conn) {id : Nat} {request : PendingRequest}
    (hget : conn.pending.get? id = some request) {conn' : McpConnection}
    (hpend : conn'.pending = conn.pending.delete id) (hcalls : conn'.calls = conn.calls) : conn'.IsAbandoned := by
  have hgone : ∀ {id' request'}, conn'.pending.get? id' = some request' → id' ≠ id ∧ conn.pending.get? id' = some request' := by
    intro id' request' hget'
    rw [hpend] at hget'
    exact get?_delete_pending hget'
  cases hw : request.waiter with
  | call number =>
    obtain ⟨call, hcall, hid, hdone⟩ := h.pendingCalls id request number hget hw
    refine ⟨number, call, hcalls ▸ hcall, hdone, ?_⟩
    rintro (⟨id', request', hid', hthere, -⟩ | ⟨hnone, -⟩)
    · exact (hgone hthere).1 (Option.some.inj (hid'.symm.trans hid))
    · cases hid.symm.trans hnone
  | initialization =>
    obtain ⟨-, number, call, hcall, hid, hdone⟩ := h.running (h.pendingInit id request hget hw)
    refine ⟨number, call, hcalls ▸ hcall, hdone, ?_⟩
    rintro (⟨id', request', hid', -⟩ | ⟨-, id', request', hthere, hw'⟩)
    · cases hid.symm.trans hid'
    · obtain ⟨hne, hthere⟩ := hgone hthere
      exact hne (h.initOnce id' id request' request hthere hget hw' hw)

theorem handleLines_crashed (hcrash : conn.crashed = true) (lines : List JsString) :
    handleLines parse conn lines = conn := by
  cases lines with
  | nil => rfl
  | cons line rest => rw [handleLines, if_pos hcrash]

theorem handleLines_cons (hcrash : conn.crashed = false) (line : JsString) (rest : List JsString) :
    handleLines parse conn (line :: rest) = handleLines parse ((conn.log line).handleMessage parse line) rest := by
  rw [handleLines, hcrash]
  exact if_neg nofun

theorem handleLines_same (parse : JsString → Option Json) (conn : McpConnection) (lines : List JsString) :
    (handleLines parse conn lines).received = conn.received ∧
      (handleLines parse conn lines).stdoutBuffer = conn.stdoutBuffer := by
  induction lines generalizing conn with
  | nil => exact ⟨rfl, rfl⟩
  | cons line rest ih =>
    rw [handleLines]
    split
    · exact ⟨rfl, rfl⟩
    · obtain ⟨hrecv, hbuffer⟩ := ih ((conn.log line).handleMessage parse line)
      rw [hrecv, hbuffer]
      rcases handleMessage_cases (conn.log line) parse line with ⟨⟨stderrBuffer, written, heq⟩, -⟩ |
        ⟨response, id, request, -, -, -, ⟨value, -, heq⟩ | ⟨error, text, -, -, heq⟩ | ⟨error, -, -, heq⟩⟩
      · rw [heq]
        exact ⟨rfl, rfl⟩
      · rw [heq]
        exact ⟨(SameInput.settlePending _ _ _ _).received, (SameInput.settlePending _ _ _ _).buffer⟩
      · rw [heq]
        exact ⟨(SameInput.settlePending _ _ _ _).received, (SameInput.settlePending _ _ _ _).buffer⟩
      · rw [heq]
        exact ⟨rfl, rfl⟩

/-- The lines were handled in order, or one of them has thrown and abandoned a call. -/
def LinesDone (parse : JsString → Option Json) (conn : McpConnection) (lines : List JsString) (conn' : McpConnection) : Prop :=
  if Readable parse conn.config.name conn.pending lines = true then
    Kept parse conn' ∧ conn'.crashed = false ∧ conn'.handled = conn.handled ++ lines ∧ conn'.process = conn.process
  else conn'.crashed = true ∧ conn'.IsAbandoned

theorem LinesDone.cons {line : JsString} {rest : List JsString} {conn₁ conn' : McpConnection}
    (h : LinesDone parse conn₁ rest conn')
    (hread : Readable parse conn.config.name conn.pending (line :: rest) =
      Readable parse conn₁.config.name conn₁.pending rest)
    (hhandled : conn₁.handled = conn.handled ++ [line]) (hproc : conn₁.process = conn.process) :
    LinesDone parse conn (line :: rest) conn' := by
  unfold LinesDone at h ⊢
  rw [hread]
  rw [hhandled, hproc, List.append_assoc] at h
  exact h

theorem Kept.handleLines (h : Kept parse conn) (hcrash : conn.crashed = false) (lines : List JsString) :
    LinesDone parse conn lines (handleLines parse conn lines) := by
  induction lines generalizing conn with
  | nil =>
    unfold LinesDone
    rw [Readable, if_pos rfl]
    exact ⟨h, hcrash, (List.append_nil _).symm, rfl⟩
  | cons line rest ih =>
    have hlogged : Kept parse (conn.log line) :=
      h.of_same rfl rfl rfl rfl rfl rfl rfl fun _ hline => List.mem_append_left _ hline
    have hmem : line ∈ (conn.log line).handled := List.mem_append_right _ (List.mem_singleton_self _)
    rw [handleLines_cons hcrash]
    rcases handleMessage_cases (conn.log line) parse line with
      ⟨⟨stderrBuffer, written, heq⟩, hnil⟩ | ⟨response, id, request, hresp, hid, hget, hcases⟩
    · rw [heq]
      have hsame : Kept parse { conn.log line with stderrBuffer, written } :=
        hlogged.of_same rfl rfl rfl rfl rfl rfl rfl fun _ hline => hline
      exact (ih hsame hcrash).cons (readable_skip hnil) rfl rfl
    · have hthere : conn.pending.get? id = some request := hget
      have hgo : ∀ outcome, (∀ value, outcome = .ok value → response.carried = .result value) →
          Readable parse conn.config.name conn.pending (line :: rest) =
            Readable parse conn.config.name (conn.pending.delete id) rest →
          LinesDone parse conn (line :: rest) (McpConnection.handleLines parse ((conn.log line).settlePending id request outcome) rest) := by
        intro outcome hvalue hread
        have hkept : Kept parse ((conn.log line).settlePending id request outcome) :=
          hlogged.settlePending hget fun value hok => ⟨line, hmem, response, hresp, hid, hvalue value hok⟩
        have hinput := SameInput.settlePending (conn.log line) id request outcome
        obtain ⟨hpend, hproc, hconfig⟩ := settlePending_same (conn.log line) id request outcome
        refine (ih hkept (hinput.crashed.trans hcrash)).cons ?_ hinput.handled hproc
        rw [hread, hconfig, hpend]
        rfl
      rcases hcases with ⟨value, hcarried, heq⟩ | ⟨error, text, hcarried, htext, heq⟩ | ⟨error, hcarried, htext, heq⟩
      · rw [heq]
        exact hgo _ (fun value' hok => by cases hok; exact hcarried) (readable_result hresp hid hthere hcarried)
      · have hsome : (errorText conn.config.name error).isSome = true := Option.isSome_of_eq_some htext
        rw [heq]
        refine hgo _ nofun ?_
        rw [readable_error hresp hid hthere hcarried, hsome, Bool.true_and]
      · have hnone : (errorText conn.config.name error).isSome = false := Option.isSome_eq_false_iff.mpr (Option.isNone_iff_eq_none.mpr htext)
        have hread : Readable parse conn.config.name conn.pending (line :: rest) = false := by
          rw [readable_error hresp hid hthere hcarried, hnone, Bool.false_and]
        rw [heq, handleLines_crashed rfl]
        unfold LinesDone
        rw [hread, if_neg nofun]
        exact ⟨rfl, hlogged.books.abandoned hget rfl rfl⟩

/-! ## Timers, aborts and the end of the process -/

theorem Kept.timeout (h : Kept parse conn) (id : Nat) : Kept parse (conn.timeout id) := by
  unfold McpConnection.timeout
  split
  · exact h
  · next request hget => exact (h.write _).settlePending (get?_write hget _) nofun

theorem pending_timeout (conn : McpConnection) (id : Nat) : (conn.timeout id).pending = conn.pending.delete id := by
  unfold timeout
  split
  · next hnone => exact (JsMap.delete_of_none hnone).symm
  · simp [settlePending]

theorem SameInput.timeout (conn : McpConnection) (id : Nat) : SameInput conn (conn.timeout id) := by
  unfold McpConnection.timeout
  split
  · exact .refl conn
  · exact (SameInput.write _ _).trans (.settlePending _ _ _ _)

/-- A call whose signal is aborted waits, and is awaited, as before. -/
theorem Books.setAborted (h : Books parse conn) {number : Nat} {call : Call} (hget : conn.calls.get? number = some call) :
    Books parse { conn with calls := conn.calls.set number { call with aborted := true } } := by
  have hback : ∀ {other found}, (conn.calls.set number { call with aborted := true }).get? other = some found →
      ∃ old, conn.calls.get? other = some old ∧ old.id = found.id ∧ old.settled = found.settled := by
    intro other found hfound
    rw [JsMap.get?_set] at hfound
    split at hfound
    · next hsame =>
      cases hfound
      exact ⟨call, hsame ▸ hget, rfl, rfl⟩
    · exact ⟨found, hfound, rfl, rfl⟩
  have hforth : ∀ {other old}, conn.calls.get? other = some old →
      ∃ found, (conn.calls.set number { call with aborted := true }).get? other = some found ∧ found.id = old.id ∧
        found.settled = old.settled := by
    intro other old hold
    rw [JsMap.get?_set]
    split
    · next hsame =>
      cases hget.symm.trans (hsame ▸ hold)
      exact ⟨_, rfl, rfl, rfl⟩
    · exact ⟨old, hold, rfl, rfl⟩
  refine ⟨h.pendingIds, ?_, ?_, ?_, ?_, h.pendingInit, h.initOnce, ?_, ?_, ?_, ?_, ?_, ?_, h.exited, h.woken⟩
  · intro other found id hfound hid
    obtain ⟨old, hold, hsame, -⟩ := hback hfound
    exact h.callIds other old id hold (hsame.trans hid)
  · intro other found hfound
    obtain ⟨old, hold, -⟩ := hback hfound
    exact h.numbers other old hold
  · intro other other' found found' id hfound hfound' hid hid'
    obtain ⟨old, hold, hsame, -⟩ := hback hfound
    obtain ⟨old', hold', hsame', -⟩ := hback hfound'
    exact h.distinct other other' old old' id hold hold' (hsame.trans hid) (hsame'.trans hid')
  · intro id request other hpend hw
    obtain ⟨old, hold, hid, hdone⟩ := h.pendingCalls id request other hpend hw
    obtain ⟨found, hfound, hsame, hsame'⟩ := hforth hold
    exact ⟨found, hfound, hsame.trans hid, hsame'.trans hdone⟩
  · intro hrun
    obtain ⟨hpend, other, old, hold, hid, hdone⟩ := h.running hrun
    obtain ⟨found, hfound, hsame, hsame'⟩ := hforth hold
    exact ⟨hpend, other, found, hfound, hsame.trans hid, hsame'.trans hdone⟩
  · intro hrun other found hfound
    obtain ⟨old, hold, hsame, -⟩ := hback hfound
    exact hsame.symm.trans (h.unsent hrun other old hold)
  · intro other found hfound
    obtain ⟨old, hold, -, hsame⟩ := hback hfound
    exact hsame ▸ h.once other old hold
  · intro other found id hfound hnone hid
    obtain ⟨old, hold, hsame, hsame'⟩ := hback hfound
    exact h.awaited other old id hold (hsame'.trans hnone) (hsame.trans hid)
  · intro hnone
    cases hget.symm.trans ((h.absent hnone).1 number)
  · intro other found value hfound hmem
    obtain ⟨old, hold, hsame, hsame'⟩ := hback hfound
    obtain ⟨id, hid, hanswers⟩ := h.own other old value hold (hsame' ▸ hmem)
    exact ⟨id, hsame.symm.trans hid, hanswers⟩

theorem Kept.setAborted (h : Kept parse conn) {number : Nat} {call : Call} (hget : conn.calls.get? number = some call) :
    Kept parse { conn with calls := conn.calls.set number { call with aborted := true } } := by
  refine ⟨h.books.setAborted hget, ?_, h.settled⟩
  rintro hwoken other ⟨found, hfound, hid, hdone⟩
  refine h.waits hwoken other ?_
  have hfound : (conn.calls.set number { call with aborted := true }).get? other = some found := hfound
  rw [JsMap.get?_set] at hfound
  split at hfound
  · next hsame =>
    cases hfound
    exact ⟨call, hsame ▸ hget, hid, hdone⟩
  · exact ⟨found, hfound, hid, hdone⟩

theorem Kept.abort (h : Kept parse conn) (number : Nat) : Kept parse (conn.abort number) := by
  unfold McpConnection.abort
  split
  · exact h
  · next call hget =>
    split
    · have habort := h.setAborted hget
      dsimp only
      split
      · exact habort
      · next id hid =>
        split
        · exact habort
        · next request hpend =>
          refine (habort.write _).settlePending ?_ (by rintro _ ⟨⟩)
          rw [pending_write]
          exact hpend
    · exact h

theorem SameInput.abort (conn : McpConnection) (number : Nat) : SameInput conn (conn.abort number) := by
  unfold McpConnection.abort
  split
  · exact .refl conn
  · next call hget =>
    have habort : SameInput conn { conn with calls := conn.calls.set number { call with aborted := true } } :=
      ⟨rfl, rfl, rfl, rfl⟩
    split
    · dsimp only
      split
      · exact habort
      · split
        · exact habort
        · exact (habort.trans (.write _ _)).trans (.settlePending _ _ _ _)
    · exact .refl conn

theorem Kept.rejectAll (h : Kept parse conn) {requests : List (Nat × PendingRequest)}
    (hnodup : (requests.map Prod.fst).Nodup) (hpend : ∀ entry ∈ requests, conn.pending.get? entry.1 = some entry.2)
    (error : JsString) :
    Kept parse (conn.rejectAll requests error) ∧
      ∀ id, (conn.rejectAll requests error).pending.get? id =
        if id ∈ requests.map Prod.fst then none else conn.pending.get? id := by
  induction requests generalizing conn with
  | nil => exact ⟨h, fun _ => rfl⟩
  | cons entry rest ih =>
    obtain ⟨hnot, hnodup⟩ := List.nodup_cons.mp hnodup
    obtain ⟨hdeleted, -⟩ := settlePending_same conn entry.1 entry.2 (.error error)
    have hkept : Kept parse (conn.settlePending entry.1 entry.2 (.error error)) :=
      h.settlePending (hpend entry List.mem_cons_self) nofun
    have hrest : ∀ other ∈ rest, (conn.settlePending entry.1 entry.2 (.error error)).pending.get? other.1 = some other.2 := by
      intro other hmem
      rw [hdeleted, JsMap.get?_delete, if_neg, hpend other (List.mem_cons_of_mem _ hmem)]
      intro hsame
      exact hnot (hsame ▸ List.mem_map_of_mem hmem)
    obtain ⟨hall, hget⟩ := ih hkept hnodup hrest
    refine ⟨hall, fun id => (hget id).trans ?_⟩
    rw [hdeleted, JsMap.get?_delete, List.map_cons]
    by_cases hmem : id ∈ rest.map Prod.fst
    · rw [if_pos hmem, if_pos (List.mem_cons_of_mem _ hmem)]
    · by_cases hid : id = entry.1
      · rw [if_neg hmem, if_pos hid, if_pos (hid ▸ List.mem_cons_self)]
      · rw [if_neg hmem, if_neg hid, if_neg (by simpa [hid] using hmem)]

theorem SameInput.rejectAll (conn : McpConnection) (requests : List (Nat × PendingRequest)) (error : JsString) :
    SameInput conn (conn.rejectAll requests error) := by
  induction requests generalizing conn with
  | nil => exact .refl conn
  | cons entry rest ih => exact (SameInput.settlePending _ _ _ _).trans (ih _)

/-- What was settled in this event is that `initialize` has failed. -/
def IsFailure (conn : McpConnection) : Prop :=
  conn.woken = true → ∃ error, conn.initialized = some (.settled (.error error))

theorem IsFailure.settlePending (h : conn.IsFailure) (id : Nat) (request : PendingRequest) (error : JsString) :
    (conn.settlePending id request (.error error)).IsFailure := by
  unfold McpConnection.settlePending
  cases request.waiter with
  | initialization => exact fun _ => ⟨error, rfl⟩
  | call number => exact h

theorem IsFailure.rejectAll (h : conn.IsFailure) (requests : List (Nat × PendingRequest)) (error : JsString) :
    (conn.rejectAll requests error).IsFailure := by
  induction requests generalizing conn with
  | nil => exact h
  | cons entry rest ih => exact ih (h.settlePending _ _ _)

theorem Kept.setExited (h : Kept parse conn) (hpend : ∀ id, conn.pending.get? id = none) (hfailure : conn.IsFailure) :
    Kept parse { conn with process := .exited } := by
  obtain ⟨⟨h1, h2, h3, h4, h5, h6, h7, h8, h9, h10, h11, h12, h13, -, -⟩, hwaits, hdone⟩ := h
  refine ⟨⟨h1, h2, h3, h4, h5, h6, h7, h8, h9, h10, h11, h12, h13, fun _ => hpend, ?_⟩, hwaits, hdone⟩
  intro hwoken value hok
  obtain ⟨error, herror⟩ := hfailure hwoken
  cases hok.symm.trans herror

theorem Kept.exit (h : Kept parse conn) (hwoken : conn.woken = false) (code : Option Int) (signal : Option JsString) :
    Kept parse (conn.exit code signal) := by
  unfold McpConnection.exit
  split
  · have hpend : ∀ entry ∈ conn.pending.entries, conn.pending.get? entry.1 = some entry.2 := fun entry hmem =>
      JsMap.get?_of_mem hmem
    obtain ⟨hkept, hget⟩ := h.rejectAll conn.pending.nodup hpend (conn.exitText code signal)
    have hfailure : conn.IsFailure := fun hwas => by cases hwoken.symm.trans hwas
    refine hkept.setExited (fun id => (hget id).trans ?_) (hfailure.rejectAll _ _)
    split
    · rfl
    · next hnot => exact JsMap.get?_eq_none.mpr hnot
  · exact h

theorem SameInput.exit (conn : McpConnection) (code : Option Int) (signal : Option JsString) :
    SameInput conn (conn.exit code signal) := by
  unfold McpConnection.exit
  split
  · exact (SameInput.rejectAll _ _ _).trans ⟨rfl, rfl, rfl, rfl⟩
  · exact .refl conn

/-! ## A call, and the microtasks -/

/-- The input of a call that is not sent to a process that has ended. -/
def MaySend (conn : McpConnection) (aborted : Bool) : Bool :=
  match conn.process, conn.initialized with
  | .exited, some (.settled (.ok _)) => aborted
  | _, _ => true

/-- A call waits, fails, or is sent. -/
theorem Kept.request (h : Kept parse conn) (hwoken : conn.woken = false) (input : RequestInput) (aborted : Bool)
    (hmay : conn.MaySend (aborted && input.hasSignal) = true) : Kept parse (conn.request input aborted) := by
  unfold McpConnection.request
  generalize (aborted && input.hasSignal) = wasAborted at hmay ⊢
  have hwait := isWaiting_new conn input wasAborted
  have hwoken' : (conn.addCall input wasAborted).woken = false := hwoken
  rcases ensureInitialized_cases conn input wasAborted with ⟨was, hinit, heq⟩ | ⟨hnone, ⟨error, heq⟩ | heq⟩
  · rw [heq]
    have hbooks := h.books.addCall (by rw [hinit]; rintro ⟨⟩) input wasAborted
    have hinit' : (conn.addCall input wasAborted).initialized = some was := hinit
    cases was with
    | running =>
      have hsame : (conn.addCall input wasAborted).proceed conn.nextCall = conn.addCall input wasAborted := by
        obtain ⟨call, hget, -⟩ := hwait
        simp only [proceed, hget, hinit']
      rw [hsame]
      exact ⟨hbooks, fun _ _ _ => hinit', fun hwas => by cases hwoken.symm.trans hwas⟩
    | settled outcome =>
      obtain ⟨-, -, hkeptWoken⟩ := proceed_same hwait hinit'
      refine ⟨hbooks.proceed hwait hinit' ?_, fun _ other hother => ?_, fun hwas => ?_⟩
      · intro call value hget habort hok hexited
        have hok : conn.initialized = some (.settled (.ok value)) := hok
        have hexited : conn.process = .exited := hexited
        cases (JsMap.get?_set_self _ _ _).symm.trans hget
        have htrue : wasAborted = true := by simpa only [MaySend, hexited, hok] using hmay
        cases habort.symm.trans htrue
      · -- no older call waits where the outcome is known
        obtain ⟨⟨call, hget, hid, hdone⟩, hne⟩ := (isWaiting_proceed hwait hinit').mp hother
        have hget : (conn.calls.set conn.nextCall ⟨input, wasAborted, none, []⟩).get? other = some call := hget
        rw [JsMap.get?_set, if_neg hne] at hget
        cases hinit.symm.trans (h.waits hwoken other ⟨call, hget, hid, hdone⟩)
      · cases hwoken'.symm.trans (hkeptWoken.symm.trans hwas)
  · rw [heq]
    have hbooks : Books parse { conn.addCall input wasAborted with initialized := some (.settled (.error error)) } :=
      h.books.startCall hnone input wasAborted rfl rfl rfl (.inr ⟨rfl, ⟨error, rfl⟩, rfl⟩)
    have hwait' : IsWaiting { conn.addCall input wasAborted with initialized := some (.settled (.error error)) }
        conn.nextCall := hwait
    obtain ⟨-, -, hkeptWoken⟩ := proceed_same hwait' rfl
    refine ⟨hbooks.proceed hwait' rfl fun call value _ _ hok => (by cases hok), fun _ other hother => ?_, fun hwas => ?_⟩
    · obtain ⟨⟨call, hget, -⟩, hne⟩ := (isWaiting_proceed hwait' rfl).mp hother
      have hget : (conn.calls.set conn.nextCall ⟨input, wasAborted, none, []⟩).get? other = some call := hget
      rw [JsMap.get?_set, if_neg hne, (h.books.absent hnone).1] at hget
      cases hget
    · cases hwoken'.symm.trans (hkeptWoken.symm.trans hwas)
  · obtain ⟨conn', hconn'⟩ : ∃ conn', conn' = (conn.addCall input wasAborted).ensureInitialized := ⟨_, rfl⟩
    rw [← hconn']
    rw [heq] at hconn'
    have hrun : conn'.initialized = some .running := by rw [hconn']; rfl
    have hbooks : Books parse conn' := by
      rw [hconn']
      exact h.books.startCall hnone input wasAborted rfl rfl rfl (.inl ⟨(by rintro ⟨⟩), rfl, rfl, _, _, rfl⟩)
    have hsame : conn'.proceed conn.nextCall = conn' := by
      obtain ⟨call, hget, -⟩ := hwait
      have hget' : conn'.calls.get? conn.nextCall = some call := by rw [hconn']; exact hget
      simp only [proceed, hget', hrun]
    have hwoken'' : conn'.woken = false := by rw [hconn']; exact hwoken
    rw [hsame]
    exact ⟨hbooks, fun _ _ _ => hrun, fun hwas => by cases hwoken''.symm.trans hwas⟩

theorem SameInput.request (conn : McpConnection) (input : RequestInput) (aborted : Bool) :
    SameInput conn (conn.request input aborted) := by
  have hbegun : SameInput conn (conn.addCall input (aborted && input.hasSignal)).ensureInitialized := by
    rcases ensureInitialized_cases conn input (aborted && input.hasSignal) with ⟨was, -, heq⟩ | ⟨-, ⟨error, heq⟩ | heq⟩
    all_goals
      rw [heq]
      exact ⟨rfl, rfl, rfl, rfl⟩
  exact hbegun.trans (.proceed _ _)

end McpConnection

end Beale.Mcp
