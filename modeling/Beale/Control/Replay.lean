import Beale.Control.Steering
import Beale.Library.JsonText

/-!
# Replayed controls

A host that reconnects sends a control again. The stream remembers the last 256 requests it
has accepted, each with the text of its message and the event that answered it.

- `reached_replays`: there, a repeated message is acknowledged and changes nothing, a reused
  request id is rejected, and so is every line that is rejected without effect.
-/

namespace Beale.Control

open Beale.Library

/-! ## The text of a message -/

variable {key line : JsString}

theorem optionalMember_append {α : Type} {f : α → Json} (hf : Function.Injective f)
    {x y : Option α} {rest rest' : List (JsString × Json)} (hrest : ∀ m ∈ rest, m.1 ≠ key)
    (hrest' : ∀ m ∈ rest', m.1 ≠ key)
    (h : (x.map fun a => (key, f a)).toList ++ rest = (y.map fun a => (key, f a)).toList ++ rest') :
    x = y ∧ rest = rest' := by
  cases x with
  | none =>
    cases y with
    | none => exact ⟨rfl, h⟩
    | some b =>
      have hmem : (key, f b) ∈ rest := by
        rw [show rest = (key, f b) :: rest' from h]
        exact List.mem_cons_self
      exact absurd rfl (hrest _ hmem)
  | some a =>
    cases y with
    | none =>
      have hmem : (key, f a) ∈ rest' := by
        rw [show rest' = (key, f a) :: rest from h.symm]
        exact List.mem_cons_self
      exact absurd rfl (hrest' _ hmem)
    | some b =>
      obtain ⟨hhead, htail⟩ := List.cons.inj h
      rw [hf (Prod.ext_iff.mp hhead).2]
      exact ⟨rfl, htail⟩

theorem str_injective : Function.Injective Json.str := fun _ _ h => Json.str.inj h

theorem optionalMember_injective {x y : Option JsString}
    (h : optionalMember key x = optionalMember key y) : x = y := by
  have happend : (x.map fun s => (key, Json.str s)).toList ++ []
      = (y.map fun s => (key, Json.str s)).toList ++ [] := congrArg (· ++ []) h
  exact (optionalMember_append str_injective (by simp) (by simp) happend).1

theorem mem_optionalMember {x : Option JsString} {m : JsString × Json}
    (h : m ∈ optionalMember key x) : m.1 = key := by
  cases x with
  | none => cases h
  | some s => rw [List.mem_singleton.mp h]

theorem reasoningEffort_injective {a b : ReasoningEffort} (h : a.text = b.text) : a = b := by
  cases a <;> cases b <;> first | rfl | exact absurd h (by decide)

theorem decision_injective {a b : Decision} (h : a.text = b.text) : a = b := by
  cases a <;> cases b <;> first | rfl | exact absurd h (by decide)

theorem shellSafetyMode_injective {a b : ShellSafetyMode} (h : a.text = b.text) : a = b := by
  cases a <;> cases b <;> first | rfl | exact absurd h (by decide)

theorem modelSelectionJson_injective : Function.Injective modelSelectionJson := by
  rintro ⟨provider, model, effort, blue⟩ ⟨provider', model', effort', blue'⟩ h
  obtain ⟨hprov, h⟩ := List.cons.inj (Json.obj.inj h)
  obtain ⟨hmodel, h⟩ := List.cons.inj h
  obtain ⟨heffort, h⟩ := List.cons.inj h
  obtain rfl := Json.str.inj (Prod.ext_iff.mp hprov).2
  obtain rfl := Json.str.inj (Prod.ext_iff.mp hmodel).2
  obtain rfl := reasoningEffort_injective (Json.str.inj (Prod.ext_iff.mp heffort).2)
  have hmember : (blue.map fun b => (js "daybreakBlue", Json.bool b)).toList ++ []
      = (blue'.map fun b => (js "daybreakBlue", Json.bool b)).toList ++ [] := congrArg (· ++ []) h
  obtain ⟨rfl, -⟩ :=
    optionalMember_append (fun _ _ => Json.bool.inj) (by simp) (by simp) hmember
  rfl

theorem members_injective {b b' : ControlBody} {id id' : Option JsString} (htype : b.type = b'.type)
    (h : b.members ++ optionalMember (js "requestId") id
      = b'.members ++ optionalMember (js "requestId") id') : b = b' ∧ id = id' := by
  -- the members that come later have other keys
  have last : ∀ {key : JsString}, js "requestId" ≠ key → ∀ {x : Option JsString},
      ∀ m ∈ optionalMember (js "requestId") x, m.1 ≠ key := by
    intro key hkey x m hm
    rw [mem_optionalMember hm]
    exact hkey
  have later : ∀ {key other : JsString} {rest : List (JsString × Json)}, other ≠ key →
      (∀ m ∈ rest, m.1 ≠ key) → ∀ {x : Option JsString},
      ∀ m ∈ optionalMember other x ++ rest, m.1 ≠ key := by
    intro key other rest hkey hrest x m hm
    rcases List.mem_append.mp hm with hm | hm
    · rw [mem_optionalMember hm]
      exact hkey
    · exact hrest m hm
  have value : ∀ {key : JsString} {v v' : Json}, (key, v) = (key, v') → v = v' :=
    fun h => (Prod.ext_iff.mp h).2
  cases b <;> cases b'
  case pause.pause | resume.resume | stop.stop => exact ⟨rfl, optionalMember_injective h⟩
  case configure.configure m m' =>
    obtain ⟨hm, h⟩ := List.cons.inj h
    rw [modelSelectionJson_injective (value hm)]
    exact ⟨rfl, optionalMember_injective h⟩
  case steer.steer instruction m instruction' m' =>
    obtain ⟨hinstruction, h⟩ := List.cons.inj h
    simp only [List.append_eq] at h
    obtain ⟨hm, h⟩ := optionalMember_append modelSelectionJson_injective (last (by decide))
      (last (by decide)) h
    rw [Json.str.inj (value hinstruction), hm]
    exact ⟨rfl, optionalMember_injective h⟩
  case removeSteering.removeSteering target target' =>
    obtain ⟨htgt, h⟩ := List.cons.inj h
    rw [Subtype.ext (Json.str.inj (value htgt))]
    exact ⟨rfl, optionalMember_injective h⟩
  case configureShellSafety.configureShellSafety mode mode' =>
    obtain ⟨hmode, h⟩ := List.cons.inj h
    rw [shellSafetyMode_injective (Json.str.inj (value hmode))]
    exact ⟨rfl, optionalMember_injective h⟩
  case resolveApproval.resolveApproval kind approval decision kind' approval' decision' =>
    obtain ⟨happroval, h⟩ := List.cons.inj h
    obtain ⟨hdecision, h⟩ := List.cons.inj h
    have hkind : kind = kind' := by
      cases kind <;> cases kind' <;> first
        | rfl
        | exact absurd htype (by simp only [ControlBody.type]; decide)
    rw [hkind, Subtype.ext (Json.str.inj (value happroval)),
      decision_injective (Json.str.inj (value hdecision))]
    exact ⟨rfl, optionalMember_injective h⟩
  case runbookExecute.runbookExecute r r' =>
    obtain ⟨hbook, h⟩ := List.cons.inj h
    obtain ⟨book, cell, start, finish⟩ := r
    obtain ⟨book', cell', start', finish'⟩ := r'
    simp only [List.append_eq, List.append_assoc] at h
    obtain ⟨hcell, h⟩ := optionalMember_append str_injective
      (later (by decide) (later (by decide) (last (by decide))))
      (later (by decide) (later (by decide) (last (by decide)))) h
    obtain ⟨hstart, h⟩ := optionalMember_append str_injective
      (later (by decide) (last (by decide))) (later (by decide) (last (by decide))) h
    obtain ⟨hfinish, h⟩ := optionalMember_append str_injective (last (by decide))
      (last (by decide)) h
    have hbook : book = book' := Json.str.inj (value hbook)
    rw [hbook, hcell, hstart, hfinish]
    exact ⟨rfl, optionalMember_injective h⟩
  -- different bodies have different types
  all_goals
    try casesm ApprovalKind
    all_goals exact absurd htype (by simp only [ControlBody.type]; decide)

theorem optionalMember_proper (key : JsString) (x : Option JsString) :
    MembersProper (optionalMember key x) := by
  cases x <;> simp [optionalMember, MembersProper, Json.Proper]

theorem modelSelectionJson_proper (m : ModelSelection) : (modelSelectionJson m).Proper := by
  obtain ⟨provider, model, effort, blue⟩ := m
  cases blue <;> simp [modelSelectionJson, MembersProper, Json.Proper]

/-- The only number in a message is its schema version. -/
theorem members_proper (b : ControlBody) : MembersProper b.members := by
  cases b with
  | pause | resume | stop => trivial
  | configure m => exact ⟨modelSelectionJson_proper m, trivial⟩
  | steer instruction m =>
    cases m with
    | none => exact ⟨trivial, trivial⟩
    | some m => exact ⟨trivial, modelSelectionJson_proper m, trivial⟩
  | removeSteering target => exact ⟨trivial, trivial⟩
  | configureShellSafety mode => exact ⟨trivial, trivial⟩
  | runbookExecute r =>
    refine ⟨trivial, membersProper_iff.mpr fun m hm => ?_⟩
    have optional : ∀ key x, m ∈ optionalMember key x → m.2.Proper :=
      fun key x hm => membersProper_iff.mp (optionalMember_proper key x) m hm
    rcases List.mem_append.mp hm with hm | hm
    · rcases List.mem_append.mp hm with hm | hm
      · exact optional _ _ hm
      · exact optional _ _ hm
    · exact optional _ _ hm
  | resolveApproval kind id decision => exact ⟨trivial, trivial, trivial⟩

theorem messageJson_proper (m : ControlMessage) : (messageJson m).Proper := by
  refine ⟨trivial, trivial, membersProper_iff.mpr fun member hmember => ?_⟩
  rcases List.mem_append.mp hmember with h | h
  · exact membersProper_iff.mp (members_proper m.body) member h
  · exact membersProper_iff.mp (optionalMember_proper _ _) member h

/-- **The text of a message tells it** from every other message. -/
theorem messageLine_injective {m m' : ControlMessage} (h : messageLine m = messageLine m') :
    m = m' := by
  obtain ⟨id, body⟩ := m
  obtain ⟨id', body'⟩ := m'
  have hjson := Json.obj.inj (stringify_injective (messageJson_proper _) (messageJson_proper _) h)
  obtain ⟨-, hjson⟩ := List.cons.inj hjson
  obtain ⟨htype, hmembers⟩ := List.cons.inj hjson
  obtain ⟨hbody, hid⟩ := members_injective (Json.str.inj (Prod.ext_iff.mp htype).2) hmembers
  have hbody : body = body' := hbody
  have hid : id = id' := Option.map_injective Subtype.val_injective hid
  rw [hbody, hid]

/-! ## The replay memory -/

/-- The messages that have taken effect under a request id, oldest first. -/
def acceptedRequests (log : List Observation) : List (RequestId × ControlMessage) :=
  log.filterMap fun
    | .began message => message.requestId.map (·, message)
    | _ => none

theorem acceptedRequests_append (log log' : List Observation) :
    acceptedRequests (log ++ log') = acceptedRequests log ++ acceptedRequests log' :=
  List.filterMap_append

theorem acceptedRequests_emitted (log : List Observation) (event : ControlEvent) :
    acceptedRequests (log ++ [.emitted event]) = acceptedRequests log := by
  rw [acceptedRequests_append]
  exact List.append_nil _

/-- An observation that is neither a message taking effect nor an event reported. -/
def Observation.Quiet : Observation → Prop
  | .began _ | .emitted _ => False
  | _ => True

/-- What is remembered of an accepted request. -/
def processedControl (message : ControlMessage) : ProcessedControl :=
  ⟨messageLine message, acceptedEvent message⟩

namespace ControlStream

/-- The stream remembers its last 256 accepted requests, and nothing else. -/
def Remembers (s : ControlStream) : Prop :=
  s.processedControls.entries
    = ((acceptedRequests s.log).rtake 256).map fun r => (r.1, processedControl r.2)

/-- Nothing has been accepted or reported in between, and the memory is the same. -/
structure QuietSince (s s' : ControlStream) : Prop where
  memory : s'.processedControls = s.processedControls
  log : ∃ os, s'.log = s.log ++ os ∧ ∀ o ∈ os, o.Quiet

theorem QuietSince.refl (s : ControlStream) : QuietSince s s := ⟨rfl, [], by simp, by simp⟩

variable {s s' : ControlStream}

theorem QuietSince.trans {s'' : ControlStream} (h : QuietSince s s') (h' : QuietSince s' s'') :
    QuietSince s s'' where
  memory := h'.memory.trans h.memory
  log := extends_trans h.log h'.log

/-- One quiet observation, beside changes of the other fields. -/
theorem quietSince_one {o : Observation}
    (hmemory : s'.processedControls = s.processedControls) (hlog : s'.log = s.log ++ [o])
    (ho : o.Quiet) : QuietSince s s' := ⟨hmemory, [o], hlog, by simpa using ho⟩

/-- No observation, only changes of the other fields. -/
theorem quietSince_same
    (hmemory : s'.processedControls = s.processedControls) (hlog : s'.log = s.log) :
    QuietSince s s' := ⟨hmemory, [], by rw [hlog, List.append_nil], by simp⟩

theorem ApprovalsOnly.quietSince (h : ApprovalsOnly s s') : QuietSince s s' where
  memory := h.read ControlStream.processedControls fun _ _ _ _ _ => rfl
  log := by
    obtain ⟨os, hlog, hos⟩ := h.log
    refine ⟨os, hlog, fun o ho => ?_⟩
    have happroval := hos o ho
    cases o <;> first | exact happroval.elim | trivial

theorem resolveSteeringWaiters_quietSince (s : ControlStream) (instructions : List JsString) :
    QuietSince s (s.resolveSteeringWaiters instructions) := by
  rw [resolveSteeringWaiters]
  split
  · exact .refl s
  · exact quietSince_one rfl rfl trivial

theorem drainSteering_quietSince (s : ControlStream) : QuietSince s s.drainSteering := by
  have htaken : QuietSince s { s with steeringInstructions := [] } := quietSince_same rfl rfl
  exact htaken.trans (resolveSteeringWaiters_quietSince _ _)

theorem QuietSince.accepted (h : QuietSince s s') :
    acceptedRequests s'.log = acceptedRequests s.log := by
  obtain ⟨os, hlog, hos⟩ := h.log
  have hnone : acceptedRequests os = [] := by
    refine List.filterMap_eq_nil_iff.mpr fun o ho => ?_
    have hquiet := hos o ho
    cases o <;> first | rfl | exact hquiet.elim
  rw [hlog, acceptedRequests_append, hnone, List.append_nil]

theorem QuietSince.remembers (h : QuietSince s s') (hs : s.Remembers) : s'.Remembers := by
  rw [Remembers, h.memory, h.accepted]
  exact hs

/-! ## Lines -/

variable {message : ControlMessage}

/-- A message that takes effect is observed, and then nothing is accepted or reported: one
case for each kind of message. -/
theorem applyMessage_quietSince
    (h : s.applyMessage message = .ok s') : QuietSince (s.observe (.began message)) s' := by
  obtain ⟨requestId, body⟩ := message
  cases body with
  | pause | configure | configureShellSafety => cases h; exact quietSince_same rfl rfl
  | resume =>
    have hresumed : QuietSince (s.observe (.began ⟨requestId, .resume⟩))
        ({ s.observe (.began ⟨requestId, .resume⟩) with paused := false }.resolveResumeWaiters) :=
      quietSince_same rfl rfl
    simp only [applyMessage] at h
    split at h <;> cases h
    · exact hresumed.trans (drainSteering_quietSince _)
    · exact hresumed
  | stop =>
    cases h
    have hwoken : QuietSince (s.observe (.began ⟨requestId, .stop⟩))
        ({ s.observe (.began ⟨requestId, .stop⟩) with paused := false }.resolveResumeWaiters) :=
      quietSince_same rfl rfl
    refine (hwoken.trans (resolveSteeringWaiters_quietSince _ [])).trans ?_
    exact (denyAllApprovals_approvalsOnly _ _).quietSince.trans (quietSince_same rfl rfl)
  | removeSteering target =>
    simp only [applyMessage] at h
    split at h <;> cases h
    exact quietSince_one rfl rfl trivial
  | runbookExecute request =>
    simp only [applyMessage] at h
    split at h
    · cases h
    · split at h <;> cases h
      exact .refl _
  | resolveApproval kind id decision =>
    simp only [applyMessage] at h
    split at h <;> cases h
    exact (resolveApprovalWaiter_approvalsOnly ..).quietSince
  | steer instruction modelSelection =>
    simp only [applyMessage] at h
    have hqueue : ∀ s : ControlStream,
        QuietSince s (s.queueSteering requestId instruction modelSelection) :=
      fun s => quietSince_one rfl rfl trivial
    split at h <;> cases h
    · exact (hqueue _).trans (drainSteering_quietSince _)
    · exact hqueue _

/-- A new request is remembered, and of 257 the oldest is forgotten. -/
theorem remember_entries {processed : JsMap RequestId ProcessedControl}
    {id : RequestId} (hid : message.requestId = some id) (hnew : processed.get? id = none)
    (hlen : processed.entries.length ≤ 256) :
    (remember processed message).entries
      = (processed.entries ++ [(id, processedControl message)]).rtake 256 := by
  have hgrown := JsMap.entries_set_new (processedControl message) hnew
  rw [remember, hid]
  dsimp only
  rw [← hgrown, show ⟨messageLine message, acceptedEvent message⟩ = processedControl message from rfl]
  generalize processed.set id (processedControl message) = grown at hgrown
  have hcount : grown.entries.length = processed.entries.length + 1 := by rw [hgrown]; simp
  cases hents : grown.entries with
  | nil => rw [hents] at hcount; cases hcount
  | cons oldest rest =>
    have hkeys : grown.keys = oldest.1 :: rest.map Prod.fst := by rw [JsMap.keys, hents]; rfl
    rw [hents, List.length_cons] at hcount
    simp only [hkeys, List.length_cons, List.length_map]
    split
    · next hfull =>
      have hdrop : (oldest :: rest).length - 256 = 1 := by rw [List.length_cons]; omega
      rw [JsMap.entries_delete_head hents, List.rtake, hdrop, List.drop_one, List.tail_cons]
    · next hroom =>
      have hdrop : (oldest :: rest).length - 256 = 0 := by rw [List.length_cons]; omega
      rw [hents, List.rtake, hdrop, List.drop_zero]

theorem rtake_map {α β : Type} (f : α → β) (l : List α) (n : Nat) :
    (l.map f).rtake n = (l.rtake n).map f := by
  rw [List.rtake, List.rtake, List.length_map, List.map_drop]

theorem rtake_rtake_concat {α : Type} (l : List α) (x : α) (n : Nat) :
    (l.rtake (n + 1) ++ [x]).rtake (n + 1) = (l ++ [x]).rtake (n + 1) := by
  rw [List.rtake_concat_succ, List.rtake_concat_succ]
  congr 1
  simp [List.rtake_eq_reverse_take_reverse, List.take_take]

/-- The line is counted and answered with an event; nothing else happens. -/
def answered (s : ControlStream) (event : ControlEvent) : ControlStream :=
  s.finishLine s.processedControls event

/-- What a line does: nothing when it is blank, an answer only when it is refused or a replay,
and otherwise its message takes effect and is remembered. -/
theorem handleLine_cases (env : Platform) (s : ControlStream) (line : JsString) :
    (isBlank line = true ∧ s.handleLine env line = s) ∨
    (∃ event, s.handleLine env line = s.answered event) ∨
    ∃ message applied, freshMessage? env s line = some message ∧
      s.applyMessage message = .ok applied ∧
      s.handleLine env line = applied.finishLine (remember applied.processedControls message)
        (.accepted (acceptedEvent message)) := by
  rw [handleLine, freshMessage?]
  split
  · next hblank => exact .inl ⟨hblank, rfl⟩
  · refine .inr ?_
    cases admission env s line with
    | refused error => exact .inl ⟨_, rfl⟩
    | replay event => exact .inl ⟨_, rfl⟩
    | fresh message =>
      cases happly : s.applyMessage message with
      | error error =>
        refine .inl ⟨.invalid error (requestIdFromLine env line), ?_⟩
        simp only [happly]
        rfl
      | ok applied =>
        refine .inr ⟨message, applied, rfl, happly, ?_⟩
        simp only [happly]

theorem fresh_notRemembered {env : Platform} {line : JsString}
    (h : freshMessage? env s line = some message) :
    message.requestId.bind s.processedControls.get? = none := by
  rw [freshMessage?, admission] at h
  cases hparse : parseControlMessage env s.lines line with
  | error error => simp [hparse] at h
  | ok parsed =>
    simp only [hparse] at h
    cases hget : parsed.requestId.bind s.processedControls.get? with
    | none =>
      simp only [hget] at h
      split at h <;> cases h
      exact hget
    | some previous =>
      simp only [hget] at h
      split_ifs at h

theorem remembers_length (hs : s.Remembers) : s.processedControls.entries.length ≤ 256 := by
  rw [hs, List.length_map, List.rtake, List.length_drop]
  omega

theorem handleLine_remembers (env : Platform) (line : JsString)
    (hs : s.Remembers) : (s.handleLine env line).Remembers := by
  rcases handleLine_cases env s line with ⟨-, h⟩ | ⟨event, h⟩ | ⟨message, applied, hfresh, happly, h⟩
  · rw [h]
    exact hs
  · rw [h, Remembers]
    have hlog : acceptedRequests (s.answered event).log = acceptedRequests s.log :=
      acceptedRequests_emitted s.log event
    rw [hlog]
    exact hs
  · have hquiet := applyMessage_quietSince happly
    have hnew := fresh_notRemembered hfresh
    have hlog : acceptedRequests (applied.log ++ [.emitted (.accepted (acceptedEvent message))])
        = acceptedRequests s.log ++ (message.requestId.map (·, message)).toList := by
      rw [acceptedRequests_emitted, hquiet.accepted]
      show acceptedRequests (s.log ++ [.began message]) = _
      rw [acceptedRequests_append]
      cases hid : message.requestId <;> simp [acceptedRequests, hid]
    rw [h, Remembers, finishLine, observe, hlog]
    rw [show applied.processedControls = s.processedControls from hquiet.memory]
    cases hid : message.requestId with
    | none =>
      rw [remember, hid, Option.map_none, Option.toList_none, List.append_nil]
      exact hs
    | some id =>
      rw [hid] at hnew
      rw [remember_entries hid hnew (remembers_length hs), hs]
      rw [Option.map_some, Option.toList_some, ← rtake_map, ← rtake_map, rtake_rtake_concat _ _ 255,
        List.map_append]
      rfl

/-! ## Runs -/

theorem new_remembers (initial : List (RequestId × JsString)) : (new initial).Remembers := by
  rw [Remembers, show acceptedRequests (new initial).log = [] from rfl, List.rtake_nil]
  rfl

theorem lines_remembers (env : Platform) (lines : List JsString)
    (hs : s.Remembers) : (runSteps (handleLine env) s lines).Remembers :=
  runSteps_invariant (fun _ line hs => handleLine_remembers env line hs) hs lines

section

variable (s : ControlStream)

theorem continueCall_quietSince (next : Continuation) : QuietSince s (s.continueCall next) := by
  cases next with
  | take call => exact quietSince_one rfl rfl trivial
  | wait call signal =>
    simp only [continueCall]
    split
    · exact quietSince_one rfl rfl trivial
    · split
      · exact quietSince_one rfl rfl trivial
      · have hwait : QuietSince s
            { s with steeringWaiters := s.steeringWaiters ++ [⟨call, signal⟩] } :=
          quietSince_same rfl rfl
        split
        · exact hwait.trans (drainSteering_quietSince _)
        · exact hwait

theorem waitUntilResumed_quietSince (rest : Continuation) :
    QuietSince s (s.waitUntilResumed rest) := by
  rw [waitUntilResumed]
  split
  · exact quietSince_same rfl rfl
  · exact quietSince_same rfl rfl

theorem abort_quietSince (signal : Nat) : QuietSince s (s.abort signal) := by
  rw [abort]
  split
  · exact .refl s
  · have hsteer : QuietSince s (s.abortSteering signal) := quietSince_one rfl rfl trivial
    exact (hsteer.trans (abortApprovals_approvalsOnly _ .shell signal).quietSince).trans
      (abortApprovals_approvalsOnly _ .tool signal).quietSince

theorem close_quietSince : QuietSince s s.close := by
  have hclose : QuietSince s
      (({ s with started := false, inputEnded := true, buffer := [], paused := false }.observe
        .closed).resolveResumeWaiters) := quietSince_one rfl rfl trivial
  exact (hclose.trans (resolveSteeringWaiters_quietSince _ [])).trans
    (denyAllApprovals_approvalsOnly _ _).quietSince

end

theorem handleEnd_remembers (env : Platform) (hs : s.Remembers) : (s.handleEnd env).Remembers := by
  have hread : (s.endInput.handleLine env (dropReturn s.buffer)).Remembers :=
    handleLine_remembers env _ hs
  have hended : QuietSince (s.endInput.handleLine env (dropReturn s.buffer))
      (({ s.endInput.handleLine env (dropReturn s.buffer) with paused := false }.observe
        .ended).resolveResumeWaiters) := quietSince_one rfl rfl trivial
  exact ((hended.trans (drainSteering_quietSince _)).trans
    (denyAllApprovals_approvalsOnly _ _).quietSince).remembers hread

end ControlStream

open ControlStream

variable {s : ControlStream}

/-- Only the lines of a chunk, and the last line, make the stream remember a request. -/
theorem step_remembers (env : Platform) (i : Input) (hs : s.Remembers) :
    (step env s i).Remembers := by
  cases i with
  | start =>
    simp only [step, start]
    split
    · exact hs
    · exact hs
  | close => exact (close_quietSince s).remembers hs
  | data chunk =>
    simp only [step]
    split
    · have hrest : (s.keepRest chunk).Remembers := hs
      exact lines_remembers env _ hrest
    · exact hs
  | ended =>
    simp only [step]
    split
    · exact handleEnd_remembers env hs
    · exact hs
  | take | wait =>
    have hcount : QuietSince s { s with calls := s.calls + 1 } := quietSince_same rfl rfl
    exact (hcount.trans (waitUntilResumed_quietSince _ _)).remembers hs
  | shellApproval id signal =>
    exact (waitForApproval_approvalsOnly s .shell id signal).quietSince.remembers hs
  | toolApproval id signal =>
    exact (waitForApproval_approvalsOnly s .tool id signal).quietSince.remembers hs
  | abort signal => exact (abort_quietSince s signal).remembers hs
  | microtask =>
    simp only [step, runMicrotask]
    split
    · exact hs
    · next next rest _ =>
      have htaken : QuietSince s { s with microtasks := rest } := quietSince_same rfl rfl
      exact (htaken.trans (continueCall_quietSince _ next)).remembers hs
  | setRunbookExecutionHandler handler => exact hs

/-- The states in which a run comes to a line: after the earlier lines of its chunk, or at the
end of the input. -/
inductive BeforeLine (env : Platform) (initial : List (RequestId × JsString)) :
    ControlStream → JsString → Prop
  | chunk (inputs : List Input) (chunk : JsString) (earlier later : List JsString)
      (line : JsString) (hstarted : (reached env initial inputs).started = true)
      (hlines : (reached env initial inputs).chunkLines chunk = earlier ++ line :: later) :
      BeforeLine env initial
        (runSteps (handleLine env) ((reached env initial inputs).keepRest chunk) earlier) line
  | last (inputs : List Input) (hstarted : (reached env initial inputs).started = true) :
      BeforeLine env initial (reached env initial inputs).endInput
        (dropReturn (reached env initial inputs).buffer)

theorem reached_remembers (env : Platform) (initial : List (RequestId × JsString))
    (inputs : List Input) : (reached env initial inputs).Remembers :=
  runSteps_invariant (fun _ i hs => step_remembers env i hs) (new_remembers initial) inputs

variable {env : Platform}

theorem BeforeLine.remembers {initial : List (RequestId × JsString)}
    (h : BeforeLine env initial s line) : s.Remembers := by
  cases h with
  | chunk inputs chunk earlier later line hstarted hlines =>
    have hrest : ((reached env initial inputs).keepRest chunk).Remembers :=
      reached_remembers env initial inputs
    exact lines_remembers env earlier hrest
  | last inputs hstarted => exact reached_remembers env initial inputs

/-- The answer to a line whose request is remembered: the request is acknowledged again when
its message is the same, and refused when it is not. -/
def replayAnswer (env : Platform) (line : JsString) (message accepted : ControlMessage) :
    ControlEvent :=
  if message = accepted then .accepted { acceptedEvent accepted with replayed := true }
  else .invalid (js "Control requestId was reused with a different payload.")
    (requestIdFromLine env line)

theorem handleLine_replay (hs : s.Remembers)
    {message accepted : ControlMessage} {id : RequestId} (hblank : isBlank line = false)
    (hparse : parseControlMessage env s.lines line = .ok message)
    (hid : message.requestId = some id)
    (hrecent : (id, accepted) ∈ (acceptedRequests s.log).rtake 256) :
    s.handleLine env line = s.answered (replayAnswer env line message accepted) := by
  have hget : s.processedControls.get? id = some (processedControl accepted) := by
    refine JsMap.get?_of_mem ?_
    rw [hs]
    exact List.mem_map.mpr ⟨_, hrecent, rfl⟩
  have hadmission : admission env s line
      = if messageLine accepted ≠ messageLine message then
          .refused (js "Control requestId was reused with a different payload.")
        else .replay { acceptedEvent accepted with replayed := true } := by
    simp only [admission, hparse, hid, Option.bind_some, hget]
    rfl
  rw [handleLine, if_neg (by simp [hblank]), hadmission, replayAnswer]
  by_cases hsame : message = accepted
  · rw [if_neg (by simp [hsame]), if_pos hsame]
    rfl
  · have htext : messageLine accepted ≠ messageLine message :=
      fun h => hsame (messageLine_injective h).symm
    rw [if_pos htext, if_neg hsame]
    rfl

def lineObservations (env : Platform) (s : ControlStream) (line : JsString) : List Observation :=
  (s.handleLine env line).log.drop s.log.length

theorem handleLine_rejected {error : JsString} {requestId : Option RequestId}
    (h : .emitted (.invalid error requestId) ∈ lineObservations env s line) :
    s.handleLine env line = s.answered (.invalid error requestId) := by
  rw [lineObservations] at h
  rcases handleLine_cases env s line with
    ⟨-, heq⟩ | ⟨event, heq⟩ | ⟨message, applied, -, happly, heq⟩
  · rw [heq, List.drop_length] at h
    cases h
  · have hlog : (s.answered event).log.drop s.log.length = [.emitted event] := by
      show (s.log ++ [_]).drop s.log.length = _
      rw [List.drop_left]
    rw [heq, hlog] at h
    cases List.mem_singleton.mp h
    exact heq
  · -- an accepted line observes its message, quiet effects and its acceptance
    obtain ⟨os, hos, hquiet⟩ := (applyMessage_quietSince happly).log
    have hlog : (s.handleLine env line).log
        = s.log ++ (.began message :: os ++ [.emitted (.accepted (acceptedEvent message))]) := by
      rw [heq, finishLine, observe, hos, observe]
      simp
    rw [hlog, List.drop_left] at h
    rcases List.mem_append.mp h with h | h
    · rcases List.mem_cons.mp h with h | h
      · cases h
      · exact (hquiet _ h).elim
    · cases List.mem_singleton.mp h

/-- **Replays are idempotent.** Wherever a run comes to a line, a line under one of the last 256
accepted request ids is only answered: it is acknowledged again when its message is the one
accepted, and rejected when it is another one. Every line that is rejected is only answered. -/
theorem reached_replays (env : Platform) (initial : List (RequestId × JsString))
    (s : ControlStream) (line : JsString) (h : BeforeLine env initial s line) :
    (∀ message accepted id, isBlank line = false →
      parseControlMessage env s.lines line = .ok message → message.requestId = some id →
      (id, accepted) ∈ (acceptedRequests s.log).rtake 256 →
      s.handleLine env line = s.answered (replayAnswer env line message accepted)) ∧
    ∀ error requestId, .emitted (.invalid error requestId) ∈ lineObservations env s line →
      s.handleLine env line = s.answered (.invalid error requestId) :=
  ⟨fun _ _ _ hblank hparse hid hrecent => handleLine_replay h.remembers hblank hparse hid hrecent,
    fun _ _ => handleLine_rejected⟩

def reusedA : ControlMessage := ⟨steerA.requestId, .pause⟩

def replayHost : Platform := messagePlatform [steerA, reusedA] uuidText

/-- That host's stream after the first chunk, before the only line of the next one. -/
def steeredStream (message : ControlMessage) : ControlStream :=
  (reached replayHost [] [.start, .data (messageChunk [steerA])]).keepRest (messageChunk [message])

theorem reached_replays_steered :
    (steeredStream steerA).handleLine replayHost (messageLine steerA)
        = (steeredStream steerA).answered
          (.accepted { acceptedEvent steerA with replayed := true }) ∧
      (steeredStream reusedA).handleLine replayHost (messageLine reusedA)
        = (steeredStream reusedA).answered (.invalid
          (js "Control requestId was reused with a different payload.") steerA.requestId) := by
  have before : ∀ message,
      (reached replayHost [] [.start, .data (messageChunk [steerA])]).chunkLines
        (messageChunk [message]) = [messageLine message] →
      BeforeLine replayHost [] (steeredStream message) (messageLine message) :=
    fun message hlines =>
      BeforeLine.chunk [.start, .data (messageChunk [steerA])] (messageChunk [message]) [] []
        (messageLine message) (by decide +kernel) hlines
  constructor
  · refine ((reached_replays replayHost [] _ _ (before steerA (by decide +kernel))).1 steerA steerA
      ⟨js "A", by decide⟩ (by decide +kernel) rfl rfl (by decide +kernel)).trans ?_
    rw [replayAnswer, if_pos rfl]
  · refine ((reached_replays replayHost [] _ _ (before reusedA (by decide +kernel))).1 reusedA steerA
      ⟨js "A", by decide⟩ (by decide +kernel) rfl rfl (by decide +kernel)).trans ?_
    rw [replayAnswer, if_neg (by decide),
      show requestIdFromLine replayHost (messageLine reusedA) = steerA.requestId by decide +kernel]

end Beale.Control
