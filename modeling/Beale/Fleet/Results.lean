import Beale.Fleet.Spool
import Beale.Library.Client

/-!
# Leases and results

A request is leased to one worker at a time, its result is written in chunks under the lease,
and sealed. The log says who was given a lease, and what was accepted.

- `Effect`, `step_effect`: what a step does to the files and the account of a request.
- `ResultDiscipline`, `reached_resultDiscipline`: one valid lease, only its holder writes, a
  result is final, and a sealed result is the chunks of its last attempt.
- `restarted_result_drops_chunks`: chunks of earlier attempts are no part of it.
-/

namespace Beale.Fleet

open Beale.Library
open Client (exceptBind_ok exceptGuard_ok exceptMap_ok)

variable {R : Type} {env : BrokerPlatform R}

/-! ## What the log says -/

/-- The last lease given out for a request, the chunks accepted since the last accepted
`begin`, and the digest it was sealed with. -/
@[ext] structure Account where
  lease : Option Nat
  chunks : List Bytes
  digest : Option JsString
deriving DecidableEq, Repr

def Account.empty : Account := ⟨none, [], none⟩

/-- What an event says of a request. -/
def Account.note (session id : JsString) (a : Account) : Event → Account
  | .leased session' id' lease =>
    if session' = session ∧ id' = id then { a with lease := some lease } else a
  | .began session' id' _ =>
    if session' = session ∧ id' = id then { a with chunks := [] } else a
  | .accepted session' id' _ bytes =>
    if session' = session ∧ id' = id then { a with chunks := a.chunks ++ [bytes] } else a
  | .sealedWith session' id' _ sha256 =>
    if session' = session ∧ id' = id then { a with digest := some sha256 } else a
  | .removed session' => if session' = session then .empty else a

/-- What the log says of a request. -/
def account (log : List Event) (session id : JsString) : Account :=
  log.foldl (Account.note session id) .empty

theorem account_concat (log : List Event) (e : Event) (session id : JsString) :
    account (log ++ [e]) session id = (account log session id).note session id e := by
  unfold account
  rw [List.foldl_append]
  rfl

def leaseOf : Event → Option Nat
  | .leased _ _ lease => some lease
  | _ => none

namespace Spool

/-- The holder of a lease on the request may use it at this time. -/
def Holds (s : Spool) (session id : JsString) (lease now : Nat) : Prop :=
  ∃ state, s.requireLease session id lease now = .ok state

/-! ## Files -/

variable {s s' : Spool} {session id token : JsString}

theorem files_of_none (h : s.sessions.get? session = none)
    (id : JsString) : s.files session id = .none := by
  unfold files
  rw [h]

variable {directory : SessionDirectory}

theorem files_write
    (h : s.sessions.get? session = some directory) (f : RequestFiles) (session' id' : JsString) :
    (s.write session id f).files session' id' =
      if session' = session ∧ id' = id then f else s.files session' id' := by
  unfold write files
  simp only [JsMap.get?_modify]
  by_cases hsess : session' = session
  · subst hsess
    rw [if_pos rfl, h]
    show ((directory.requests.set id f).get? id').getD .none = _
    rw [JsMap.get?_set]
    by_cases hid : id' = id
    · rw [if_pos hid, if_pos ⟨rfl, hid⟩]
      rfl
    · rw [if_neg hid, if_neg fun h => hid h.2]
  · rw [if_neg hsess, if_neg fun h => hsess h.1]

theorem exists_directory (h : s.files session id ≠ .none) :
    ∃ directory, s.sessions.get? session = some directory := by
  cases hget : s.sessions.get? session with
  | none => exact absurd (files_of_none hget id) h
  | some directory => exact ⟨directory, rfl⟩

variable {state : BrokerState}

theorem directory_ok {found : Option SessionDirectory}
    (h : s.directory session = .ok found) : s.sessions.get? session = found := by
  unfold Spool.directory at h
  split at h
  next => exact Except.ok.inj h
  next => cases h

theorem readState_ok
    (h : s.readState session id = .ok state) : (s.files session id).state = some state := by
  obtain ⟨-, -, h⟩ := exceptBind_ok.mp h
  obtain ⟨-, -, h⟩ := exceptBind_ok.mp h
  split at h
  next state' hstate => rw [hstate, Except.ok.inj h]
  next => cases h

variable {now lease : Nat}

theorem requireLease_ok (h : s.requireLease session id lease now = .ok state) :
    (s.files session id).state = some state ∧ state.state = .pending ∧
      state.leaseId = some lease ∧ now ≤ state.leaseUntil := by
  obtain ⟨state', hread, h⟩ := exceptBind_ok.mp h
  split at h
  next => cases h
  next hvalid =>
    cases h
    simp only [not_or, not_not, Nat.not_lt] at hvalid
    exact ⟨readState_ok hread, hvalid⟩

theorem exists_directory_of_state (h : (s.files session id).state = some state) :
    ∃ directory, s.sessions.get? session = some directory := by
  have hfiles : s.files session id ≠ .none := fun hnone => by
    rw [hnone] at h
    cases h
  exact exists_directory hfiles

theorem authorize_ok (h : s.authorize session token = .ok directory) :
    s.sessions.get? session = some directory := by
  obtain ⟨existing, hdirectory, h⟩ := exceptBind_ok.mp h
  cases existing with
  | none => cases h
  | some directory' =>
    have h : (if (!directory'.token.isEmpty && token = directory'.token) = true then .ok directory'
      else .error (js "Invalid model broker session token.")) = Except.ok directory := h
    split at h
    next => rw [directory_ok hdirectory, Except.ok.inj h]
    next => cases h

/-! ## What a step does to a request -/

/-- What a step leaves of the files of a request, and of its account. -/
inductive Effect (env : BrokerPlatform R) (s : Spool) (i : Input R) (session id : JsString) :
    RequestFiles → Account → Prop where
  | same : Effect env s i session id (s.files session id) (account s.log session id)
  | submitted (serialized : JsString) (writes : Nat) (hnew : (s.files session id).request = none)
    (hid : isId id = true)
    (hcrash : writes < allWrites → ∃ token request,
      i = .crashedSubmit session token request writes ∧
        s.submitWrites env session token request = .ok (newWrites serialized)) :
    Effect env s i session id (((newWrites serialized).take writes).foldl Write.apply
      (s.files session id))
      (account s.log session id)
  | leased (state next : BrokerState) (hstate : (s.files session id).state = some state)
    (hpending : state.state = .pending) (hnext : next.leaseId = some s.issued)
    (hnextPending : next.state = .pending) :
    Effect env s i session id { s.files session id with state := some next }
      { account s.log session id with lease := some s.issued }
  | renewed (lease : Nat) (state next : BrokerState)
    (hstate : (s.files session id).state = some state) (hpending : state.state = .pending)
    (hlease : state.leaseId = some lease) (hnext : next.leaseId = state.leaseId)
    (hnextPending : next.state = .pending) :
    Effect env s i session id { s.files session id with state := some next }
      (account s.log session id)
  | began (lease now : Nat) (hi : i = .beginResult session id lease now)
    (hlease : s.Holds session id lease now) :
    Effect env s i session id { s.files session id with part := some [] }
      { account s.log session id with chunks := [] }
  | accepted (lease now : Nat) (offset : Int) (data : JsString) (part bytes : Bytes)
    (hi : i = .appendResult session id lease now offset data)
    (hlease : s.Holds session id lease now) (hpart : (s.files session id).part = some part) :
    Effect env s i session id { s.files session id with part := some (part ++ bytes) }
      { account s.log session id with chunks := (account s.log session id).chunks ++ [bytes] }
  | sealedWith (lease now : Nat) (bytes : Bytes)
    (hi : i = .sealResult session id lease now (env.sha256 bytes))
    (hlease : s.Holds session id lease now) (hpart : (s.files session id).part = some bytes) :
    Effect env s i session id
      { s.files session id with
        result := some bytes
        state := some { leaseId := none, leaseUntil := 0, state := .done } }
      { account s.log session id with digest := some (env.sha256 bytes) }
  | removed (hi : i = .remove session) : Effect env s i session id .none .empty

variable {i : Input R} {f : RequestFiles}

/-- A call on another request is none on this one. -/
theorem Effect.elsewhere (hfiles : s'.files session id = s.files session id)
    (hlog : account s'.log session id = account s.log session id) :
    Effect env s i session id (s'.files session id) (account s'.log session id) := by
  rw [hfiles, hlog]
  exact .same

/-- What a call that succeeds does: most write the files of one request, and may log what they did. -/
inductive Performed (env : BrokerPlatform R) (s : Spool) (i : Input R) : Spool → Prop where
  | same : Performed env s i s
  | registered (session token : JsString) (hnew : s.sessions.get? session = none) :
    Performed env s i { s with sessions := s.sessions.set session ⟨token, .empty⟩ }
  | wrote {s' : Spool} {session id : JsString} {f : RequestFiles} {events : List Event}
    (hdirectory : ∃ directory, s.sessions.get? session = some directory)
    (hsessions : s'.sessions = (s.write session id f).sessions) (hlog : s'.log = s.log ++ events)
    (hissued : s'.issued = s.issued ∧ events.filterMap leaseOf = [] ∨
      s'.issued = s.issued + 1 ∧ events.filterMap leaseOf = [s.issued])
    (helse : ∀ session' id', ¬(session = session' ∧ id = id') → ∀ a,
      events.foldl (Account.note session' id') a = a)
    (heffect : Effect env s i session id f (account s'.log session id)) : Performed env s i s'
  | removed (session : JsString) (hi : i = .remove session) :
    Performed env s i ({ s with sessions := s.sessions.delete session }.record (.removed session))

theorem register_performed (h : s.register session token = .ok s') : Performed env s i s' := by
  obtain ⟨existing, hdirectory, h⟩ := exceptBind_ok.mp h
  have hget := directory_ok hdirectory
  cases existing with
  | some d =>
    cases h
    exact .same
  | none =>
    cases h
    exact .registered session token hget

/-- A call that writes the files of one request and logs nothing. -/
theorem Performed.write (hdirectory : ∃ directory, s.sessions.get? session = some directory)
    (h : Effect env s i session id f (account s.log session id)) :
    Performed env s i (s.write session id f) :=
  .wrote hdirectory rfl (List.append_nil _).symm (.inl ⟨rfl, rfl⟩) (fun _ _ _ _ => rfl) h

/-- A call that writes them and logs one event about the request. -/
theorem Performed.record {e : Event} (hdirectory : ∃ directory, s.sessions.get? session = some directory)
    (he : leaseOf e = none) (helse : ∀ session' id', ¬(session = session' ∧ id = id') → ∀ a : Account,
      a.note session' id' e = a)
    (h : Effect env s i session id f ((account s.log session id).note session id e)) :
    Performed env s i ((s.write session id f).record e) :=
  .wrote hdirectory rfl rfl (.inl ⟨rfl, List.filterMap_cons_none he⟩) helse
    (account_concat s.log e session id ▸ h)

theorem submitWrites_ok {request : R} {plan : List Write}
    (h : s.submitWrites env session token request = .ok plan) :
    (∃ directory, s.sessions.get? session = some directory) ∧ isId (env.id request) = true ∧
      ((s.files session (env.id request)).request = none ∧
          plan = newWrites (env.stringify request) ∨
        (s.files session (env.id request)).request = some (env.stringify request) ∧ plan = []) := by
  obtain ⟨d, hd, h⟩ := exceptBind_ok.mp h
  obtain ⟨hchecks, h⟩ := exceptGuard_ok.mp h
  obtain ⟨-, h⟩ := exceptGuard_ok.mp h
  have hid : isId (env.id request) = true := by
    cases hisId : isId (env.id request) with
    | true => rfl
    | false => simp [hisId] at hchecks
  refine ⟨⟨d, authorize_ok hd⟩, hid, ?_⟩
  split at h
  next existing hex =>
    split at h
    next => cases h
    next hsame =>
      rw [not_not] at hsame
      exact .inr ⟨hsame ▸ hex, (Except.ok.inj h).symm⟩
  next hnone =>
    split at h
    next => cases h
    next => exact .inl ⟨hnone, (Except.ok.inj h).symm⟩

theorem submit_performed {request : R} {writes : Nat}
    (h : s.submit env session token request writes = .ok s')
    (hcrash : writes < allWrites → i = .crashedSubmit session token request writes) :
    Performed env s i s' := by
  obtain ⟨plan, hplan, h⟩ := exceptBind_ok.mp h
  obtain ⟨hdirectory, hid, hcases⟩ := submitWrites_ok hplan
  cases h
  refine .write hdirectory ?_
  rcases hcases with ⟨hnew, rfl⟩ | ⟨-, rfl⟩
  · exact .submitted _ writes hnew hid fun hlt => ⟨token, request, hcrash hlt, hplan⟩
  · rw [List.take_nil]
    exact .same

/-- The loop of `poll` finds a request that is pending and whose lease is over. -/
theorem pollFrom_some {now : Nat → Nat} {ids : List JsString} {readings readings' : Nat}
    (h : s.pollFrom session now readings ids = .ok (some (id, readings'))) :
    id ∈ ids ∧ ∃ state, (s.files session id).state = some state ∧ state.state = .pending ∧
      ∃ k, state.leaseUntil ≤ now k := by
  induction ids generalizing readings with
  | nil => cases h
  | cons first rest ih =>
    unfold pollFrom at h
    split at h
    next => cases h
    next state hstate =>
      split at h
      next =>
        obtain ⟨hmem, hrest⟩ := ih h
        exact ⟨List.mem_cons_of_mem _ hmem, hrest⟩
      next hpending =>
        split at h
        next =>
          obtain ⟨hmem, hrest⟩ := ih h
          exact ⟨List.mem_cons_of_mem _ hmem, hrest⟩
        next hover =>
          obtain ⟨rfl, -⟩ := Prod.mk.inj (Option.some.inj (Except.ok.inj h))
          refine ⟨List.mem_cons_self, state, readState_ok hstate, ?_, readings, Nat.not_lt.mp hover⟩
          cases hs : state.state with
          | pending => rfl
          | done => exact absurd hs hpending

variable {polled : Option (JsString × Nat)}

theorem poll_ok {now : Nat → Nat} (h : s.poll session now = .ok (s', polled)) :
    polled = none ∧ s' = s ∨
      ∃ id state, (s.files session id).state = some state ∧ state.state = .pending ∧
        (∃ k, state.leaseUntil ≤ now k) ∧ polled = some (id, s.issued) ∧
        (∃ directory, s.sessions.get? session = some directory ∧ id ∈ listed directory) ∧
        ∃ readings, s' = { s.write session id { s.files session id with
            state := some
              { leaseId := some s.issued, leaseUntil := now readings + leaseMs, state := .pending } }
          with issued := s.issued + 1, log := s.log ++ [.leased session id s.issued] } := by
  obtain ⟨existing, hex, h⟩ := exceptBind_ok.mp h
  cases existing with
  | none => cases h
  | some directory =>
    obtain ⟨found, hfound, h⟩ := exceptBind_ok.mp h
    split at h
    next =>
      cases h
      exact .inl ⟨rfl, rfl⟩
    next id readings =>
      cases h
      obtain ⟨hmem, state, hstate, hpending, hover⟩ := pollFrom_some hfound
      exact .inr ⟨id, state, hstate, hpending, hover, rfl, ⟨directory, directory_ok hex, hmem⟩,
        readings, rfl⟩

theorem poll_performed {now : Nat → Nat} (h : s.poll session now = .ok (s', polled)) :
    Performed env s i s' := by
  rcases poll_ok h with ⟨-, rfl⟩ | ⟨id, state, hstate, hpending, -, -, -, readings, rfl⟩
  · exact .same
  · refine .wrote (exists_directory_of_state hstate) rfl rfl (.inr ⟨rfl, rfl⟩)
      (fun _ _ hne _ => if_neg hne) ?_
    rw [account_concat]
    simp only [Account.note, and_self, if_true]
    exact .leased state _ hstate hpending rfl rfl

theorem renew_performed {now : Nat → Nat}
    (h : s.renew session id lease now = .ok s') : Performed env s i s' := by
  obtain ⟨state, hlease, h⟩ := exceptBind_ok.mp h
  obtain ⟨hstate, hpending, hid, -⟩ := requireLease_ok hlease
  cases h
  exact .write (exists_directory_of_state hstate) (.renewed lease state _ hstate hpending hid rfl hpending)

theorem beginResult_performed (h : s.beginResult session id lease now = .ok s') :
    Performed env s (.beginResult session id lease now) s' := by
  obtain ⟨state, hlease, h⟩ := exceptBind_ok.mp h
  cases h
  refine .record (exists_directory_of_state (requireLease_ok hlease).1) rfl
    (fun _ _ hne a => if_neg hne) ?_
  simp only [Account.note, and_self, if_true]
  exact .began lease now rfl ⟨state, hlease⟩

theorem appendResult_performed {offset : Int}
    {data : JsString} (h : s.appendResult env session id lease now offset data = .ok s') :
    Performed env s (.appendResult session id lease now offset data) s' := by
  obtain ⟨state, hlease, h⟩ := exceptBind_ok.mp h
  obtain ⟨-, h⟩ := exceptGuard_ok.mp h
  obtain ⟨-, h⟩ := exceptGuard_ok.mp h
  split at h
  next => cases h
  next part hpart =>
    split at h
    next => cases h
    next =>
      cases h
      refine .record (exists_directory_of_state (requireLease_ok hlease).1) rfl
        (fun _ _ hne a => if_neg hne) ?_
      simp only [Account.note, and_self, if_true]
      exact .accepted lease now offset data part _ rfl ⟨state, hlease⟩ hpart

theorem sealResult_performed
    {sha256 : JsString} (h : s.sealResult env session id lease now sha256 = .ok s') :
    Performed env s (.sealResult session id lease now sha256) s' := by
  obtain ⟨state, hlease, h⟩ := exceptBind_ok.mp h
  split at h
  next => cases h
  next bytes hpart =>
    obtain ⟨hsha, h⟩ := exceptGuard_ok.mp h
    obtain rfl : env.sha256 bytes = sha256 := not_not.mp hsha
    split at h
    next => cases h
    next =>
      split at h
      next => cases h
      next =>
        cases h
        refine .record (exists_directory_of_state (requireLease_ok hlease).1) rfl
          (fun _ _ hne a => if_neg hne) ?_
        simp only [Account.note, and_self, if_true]
        exact .sealedWith lease now bytes rfl ⟨state, hlease⟩ hpart

theorem perform_performed (h : s.perform env i = .ok s') : Performed env s i s' := by
  cases i with
  | register session token => exact register_performed h
  | submit session token request =>
    exact submit_performed h fun hlt => absurd hlt (Nat.lt_irrefl _)
  | crashedSubmit session token request writes => exact submit_performed h fun _ => rfl
  | result session token id =>
    obtain ⟨outcome, -, rfl⟩ := exceptMap_ok.mp h
    exact .same
  | poll session now =>
    obtain ⟨⟨s'', polled⟩, hpoll, rfl⟩ := exceptMap_ok.mp h
    exact poll_performed hpoll
  | renew session id lease now => exact renew_performed h
  | beginResult session id lease now => exact beginResult_performed h
  | appendResult session id lease now offset data => exact appendResult_performed h
  | sealResult session id lease now sha256 => exact sealResult_performed h
  | remove session =>
    obtain ⟨-, -, h⟩ := exceptBind_ok.mp h
    cases h
    exact .removed session rfl

/-- What a call does to a request: one that writes the files of another leaves these. -/
theorem Performed.effect (h : Performed env s i s') (session id : JsString) :
    Effect env s i session id (s'.files session id) (account s'.log session id) := by
  cases h with
  | same => exact .same
  | registered session' token hnew =>
    refine .elsewhere ?_ rfl
    -- a new directory is empty, as one that is not there
    by_cases hsess : session = session'
    · subst hsess
      rw [files_of_none hnew]
      unfold files
      simp only [JsMap.get?_set_self]
      rfl
    · unfold files
      simp only [JsMap.get?_set, if_neg hsess]
  | @wrote _ session' id' f events hdirectory hsessions hlog _ helse heffect =>
    obtain ⟨directory, hdirectory⟩ := hdirectory
    have hfiles : s'.files session id = (s.write session' id' f).files session id := by
      unfold files
      rw [hsessions]
    rw [files_write hdirectory] at hfiles
    by_cases hsame : session = session' ∧ id = id'
    · obtain ⟨rfl, rfl⟩ := hsame
      rw [hfiles, if_pos ⟨rfl, rfl⟩]
      exact heffect
    · refine .elsewhere (hfiles.trans (if_neg hsame)) ?_
      rw [hlog, account, List.foldl_append]
      exact helse session id (fun hboth => hsame ⟨hboth.1.symm, hboth.2.symm⟩) _
  | removed session' hi =>
    have hlog : account (s.log ++ [.removed session']) session id = _ :=
      account_concat s.log (.removed session') session id
    by_cases hsess : session = session'
    · subst hsess
      have hnone : ({ s with sessions := s.sessions.delete session }.record
          (.removed session)).sessions.get? session = none := by
        show (s.sessions.delete session).get? session = none
        rw [JsMap.get?_delete, if_pos rfl]
      show Effect env s _ session id _ (account (s.log ++ [.removed session]) session id)
      rw [hlog, files_of_none hnone]
      simp only [Account.note, if_true]
      exact .removed hi
    · refine .elsewhere ?_ (hlog.trans (if_neg fun h => hsess h.symm))
      unfold files Spool.record
      simp only [JsMap.get?_delete, if_neg hsess]

theorem step_effect (env : BrokerPlatform R) (s : Spool) (i : Input R) (session id : JsString) :
    Effect env s i session id ((s.step env i).files session id)
      (account (s.step env i).log session id) := by
  unfold step
  split
  next s' h => exact (perform_performed h).effect session id
  next => exact .same

/-! ## The files and the account -/

structure Accounted (env : BrokerPlatform R) (f : RequestFiles) (a : Account) : Prop where
  fresh : f.request = none → f = .none
  lease : ∀ state lease, f.state = some state → state.leaseId = some lease → a.lease = some lease
  chunks : f.part.getD [] = a.chunks.flatten
  done : ∀ state, f.state = some state → state.state = .done →
    ∃ bytes, f.result = some bytes ∧ f.part = some bytes ∧ a.digest = some (env.sha256 bytes)
  unleased : ∀ state, f.state = some state → a.lease = none →
    state.leaseUntil = 0 ∧ state.state = .pending

theorem accounted_none : Accounted env .none .empty where
  fresh _ := rfl
  lease state lease h := by cases h
  chunks := rfl
  done state h := by cases h
  unleased state h := by cases h

section

variable (h : s.Holds session id lease now)
include h

theorem Holds.pending : ∃ state, (s.files session id).state = some state ∧ state.state = .pending ∧
      state.leaseId = some lease := by
  obtain ⟨state, hlease⟩ := h
  obtain ⟨hstate, hpending, hid, -⟩ := requireLease_ok hlease
  exact ⟨state, hstate, hpending, hid⟩

theorem Holds.not_done
    (hstate : (s.files session id).state = some state) : state.state ≠ .done := by
  obtain ⟨state', hstate', hpending, -⟩ := h.pending
  rw [hstate] at hstate'
  rw [Option.some.inj hstate', hpending]
  nofun

theorem Holds.request (hinv : Accounted env (s.files session id)
      (account s.log session id)) : (s.files session id).request ≠ none := by
  intro hnone
  obtain ⟨state, hstate, -⟩ := h.pending
  rw [hinv.fresh hnone] at hstate
  cases hstate

theorem Holds.leased (hinv : Accounted env (s.files session id)
      (account s.log session id)) : (account s.log session id).lease ≠ none := by
  obtain ⟨state, hstate, -, hid⟩ := h.pending
  rw [hinv.lease state lease hstate hid]
  nofun

end

/-- One case for each thing that can happen to a request. -/
theorem Effect.accounted {a : Account} (heffect : Effect env s i session id f a)
    (h : Accounted env (s.files session id) (account s.log session id)) : Accounted env f a := by
  cases heffect with
  | same => exact h
  | submitted serialized writes hnew =>
    have hnone := h.fresh hnew
    have hchunks := h.chunks
    rw [hnone] at hchunks ⊢
    match writes with
    | 0 => exact ⟨fun _ => rfl, fun _ _ hstate => (by cases hstate), hchunks,
        fun _ hstate => (by cases hstate), fun _ hstate => (by cases hstate)⟩
    | 1 | 2 => exact ⟨fun hreq => (by cases hreq), fun _ _ hstate => (by cases hstate),
        hchunks, fun _ hstate => (by cases hstate), fun _ hstate => (by cases hstate)⟩
    | _ + 3 =>
      rw [List.take_of_length_le (by simp [newWrites])]
      refine ⟨fun hreq => (by cases hreq), fun state lease hstate hlease => ?_, hchunks,
        fun state hstate hdone => ?_, fun state hstate _ => ?_⟩
      · cases hstate
        cases hlease
      · cases hstate
        cases hdone
      · cases hstate
        exact ⟨rfl, rfl⟩
  | leased state next hstate hpending hnext hnextPending =>
    refine ⟨fun hreq => ?_, fun state' lease hstate' hlease => ?_, h.chunks,
      fun state' hstate' hdone => ?_, fun _ _ hnone => (by cases hnone)⟩
    · rw [h.fresh hreq] at hstate
      cases hstate
    · cases hstate'
      exact hnext.symm.trans hlease
    · cases hstate'
      rw [hnextPending] at hdone
      cases hdone
  | renewed lease state next hstate hpending hlease hnext hnextPending =>
    refine ⟨fun hreq => ?_, fun state' lease hstate' hlease => ?_, h.chunks,
      fun state' hstate' hdone => ?_, fun _ _ hnone => ?_⟩
    · rw [h.fresh hreq] at hstate
      cases hstate
    · cases hstate'
      exact h.lease state lease hstate (hnext ▸ hlease)
    · cases hstate'
      rw [hnextPending] at hdone
      cases hdone
    · rw [h.lease state lease hstate hlease] at hnone
      cases hnone
  | began lease now hi hlease =>
    exact ⟨fun hreq => absurd hreq (hlease.request h), h.lease, rfl,
      fun state hstate hdone => absurd hdone (hlease.not_done hstate), h.unleased⟩
  | accepted lease now offset data part bytes hi hlease hpart =>
    refine ⟨fun hreq => absurd hreq (hlease.request h), h.lease, ?_,
      fun state hstate hdone => absurd hdone (hlease.not_done hstate), h.unleased⟩
    have hchunks := h.chunks
    rw [hpart] at hchunks
    show part ++ bytes = ((account s.log session id).chunks ++ [bytes]).flatten
    rw [List.flatten_append, ← hchunks]
    simp
  | sealedWith lease now bytes hi hlease hpart =>
    refine ⟨fun hreq => absurd hreq (hlease.request h), fun state lease' hstate hid => ?_,
      h.chunks, fun state hstate hdone => ⟨bytes, rfl, hpart, rfl⟩,
      fun _ _ hnone => absurd hnone (hlease.leased h)⟩
    cases hstate
    cases hid
  | removed => exact accounted_none

/-- Each lease id is given out once. -/
structure Issued (s : Spool) : Prop where
  below : ∀ lease ∈ s.log.filterMap leaseOf, lease < s.issued
  nodup : (s.log.filterMap leaseOf).Nodup

theorem Performed.issued (hs : s.Issued) (h : Performed env s i s') : s'.Issued := by
  cases h with
  | same => exact hs
  | registered => exact ⟨hs.below, hs.nodup⟩
  | @wrote _ _ _ _ events _ _ hlog hissued =>
    have hleases : s'.log.filterMap leaseOf = s.log.filterMap leaseOf ++ events.filterMap leaseOf := by
      rw [hlog, List.filterMap_append]
    rcases hissued with ⟨hcount, hnone⟩ | ⟨hcount, hone⟩
    · rw [hnone, List.append_nil] at hleases
      exact ⟨fun lease hlease => hcount ▸ hs.below lease (hleases ▸ hlease), hleases ▸ hs.nodup⟩
    · -- the id given out is the next one
      rw [hone] at hleases
      refine ⟨fun lease hlease => ?_, hleases ▸ List.nodup_append.mpr ⟨hs.nodup, List.nodup_singleton _, ?_⟩⟩
      · rw [hleases] at hlease
        rw [hcount]
        rcases List.mem_append.mp hlease with hlease | hlease
        · exact Nat.lt_succ_of_lt (hs.below lease hlease)
        · rw [List.mem_singleton.mp hlease]
          exact Nat.lt_succ_self _
      · rintro lease hlease _ hlast rfl
        rw [List.mem_singleton.mp hlast] at hlease
        exact absurd (hs.below _ hlease) (Nat.lt_irrefl _)
  | removed session =>
    have hleases : (s.log ++ [Event.removed session]).filterMap leaseOf = s.log.filterMap leaseOf := by
      rw [List.filterMap_append]
      exact List.append_nil _
    exact ⟨fun lease hlease => hs.below lease (hleases ▸ hlease),
      show (List.filterMap leaseOf (s.log ++ [Event.removed session])).Nodup from hleases ▸ hs.nodup⟩

theorem step_issued (h : s.Issued) (i : Input R) : (s.step env i).Issued := by
  unfold step
  split
  next s' hperform => exact (perform_performed hperform).issued h
  next => exact h

/-! ## Tokens -/

def KeepsTokens (s s' : Spool) (session : JsString) : Prop :=
  ∀ directory, s.sessions.get? session = some directory →
    ∃ directory', s'.sessions.get? session = some directory' ∧ directory'.token = directory.token

theorem KeepsTokens.refl (s : Spool) (session : JsString) : KeepsTokens s s session :=
  fun directory hdirectory => ⟨directory, hdirectory, rfl⟩

theorem Performed.keepsTokens (h : Performed env s i s')
    (hremove : i ≠ .remove session) : KeepsTokens s s' session := by
  cases h with
  | same => exact .refl s session
  | registered session' token hnew =>
    intro d hd
    refine ⟨d, ?_, rfl⟩
    simp only [JsMap.get?_set]
    rw [if_neg fun hsess => ?_]
    · exact hd
    · rw [hsess, hnew] at hd
      cases hd
  | @wrote _ session' id f _ _ hsessions =>
    intro d hd
    rw [hsessions, Spool.write]
    simp only [JsMap.get?_modify]
    split
    next hsess =>
      rw [← hsess, hd]
      exact ⟨_, rfl, rfl⟩
    next => exact ⟨d, hd, rfl⟩
  | removed session' hi =>
    intro d hd
    refine ⟨d, ?_, rfl⟩
    show (s.sessions.delete session').get? session = some d
    rw [JsMap.get?_delete, if_neg fun hsess => hremove (by rw [hi, hsess])]
    exact hd

/-! ## Leases and results over whole runs -/

/-- The outcome of a request is known: its `result` is not pending. -/
def Settled (s : Spool) (session id : JsString) (bytes : Bytes) : Prop :=
  ∃ state, (s.files session id).state = some state ∧ state.state = .done ∧
    (s.files session id).result = some bytes

/-- What the holder of a lease may write: the chunks, the result, and that there is one. -/
def resultFiles (f : RequestFiles) : Option Bytes × Option Bytes × Bool :=
  (f.part, f.result, f.state.any (·.state = .done))

/-- The call is on the result of a request, by the holder of a lease. -/
def ByHolder (s : Spool) (session id : JsString) (i : Input R) : Prop :=
  ∃ lease now, s.Holds session id lease now ∧
    (i = .beginResult session id lease now ∨
      (∃ offset data, i = .appendResult session id lease now offset data) ∨
      ∃ sha256, i = .sealResult session id lease now sha256)

end Spool

open Spool

/-- What the leases are for. -/
structure ResultDiscipline (env : BrokerPlatform R) (s : Spool) : Prop where
  /-- the only lease that can be used at any time is the last that was given out -/
  oneLease : ∀ session id lease now, s.Holds session id lease now →
    (account s.log session id).lease = some lease
  distinct : (s.log.filterMap leaseOf).Nodup
  /-- only its holder changes the chunks or the outcome, until the session is removed -/
  onlyHolder : ∀ session id (i : Input R),
    resultFiles ((s.step env i).files session id) ≠ resultFiles (s.files session id) →
      s.ByHolder session id i ∨ i = .remove session
  /-- a result that is not pending stays until the session is removed -/
  final : ∀ session token id bytes, s.result session token id = .ok (.value bytes) →
    ∀ is : List (Input R), (∀ i ∈ is, i ≠ .remove session) →
      (runSteps (step env) s is).result session token id = .ok (.value bytes)
  /-- and is the chunks accepted since the last accepted `begin`, under their digest -/
  sealedChunks : ∀ session token id bytes, s.result session token id = .ok (.value bytes) →
    bytes = (account s.log session id).chunks.flatten ∧
      (account s.log session id).digest = some (env.sha256 bytes)

namespace Spool

variable {s : Spool} {id session : JsString} {bytes : Bytes}

theorem result_value {token : JsString} :
    s.result session token id = .ok (.value bytes) ↔
      isId session = true ∧ isId id = true ∧
        (∃ directory, s.sessions.get? session = some directory ∧ directory.token ≠ [] ∧
          token = directory.token) ∧ s.Settled session id bytes := by
  unfold result authorize readState Spool.directory safeId Settled
  simp only [bind, Except.bind]
  by_cases hsess : isId session = true
  · simp only [hsess, if_true, true_and]
    cases hdirectory : s.sessions.get? session with
    | none => simp
    | some directory =>
      by_cases htoken : directory.token ≠ [] ∧ token = directory.token
      · obtain ⟨hne, rfl⟩ := htoken
        have hempty : directory.token.isEmpty = false := by
          cases ht : directory.token with
          | nil => exact absurd ht hne
          | cons u rest => rfl
        simp only [hempty]
        by_cases hid : isId id = true
        · cases hstate : (s.files session id).state with
          | none => simp [hid]
          | some state =>
            cases hs : state.state with
            | pending => simp [hid, hs]
            | done => cases hres : (s.files session id).result <;> simp [hid, hs, hne]
        · simp [hid]
      · have hauthorized : (!directory.token.isEmpty && decide (token = directory.token)) = false := by
          by_contra htrue
          simp only [Bool.not_eq_false, Bool.and_eq_true, Bool.not_eq_eq_eq_not, Bool.not_true,
            List.isEmpty_eq_false_iff, decide_eq_true_eq] at htrue
          exact htoken htrue
        simp only [hauthorized, Bool.false_eq_true, if_false]
        constructor
        · rintro ⟨⟩
        · rintro ⟨-, ⟨directory', hsame, hne, htoken'⟩, -⟩
          cases hsame
          exact absurd ⟨hne, htoken'⟩ htoken
  · simp [hsess]

variable {i : Input R}

section

variable {f : RequestFiles} {a : Account} (heffect : Effect env s i session id f a)
  (hinv : Accounted env (s.files session id) (account s.log session id))
include heffect hinv

theorem Effect.settled (hremove : i ≠ .remove session) (h : s.Settled session id bytes) :
    f.state = (s.files session id).state ∧ f.result = some bytes := by
  obtain ⟨state, hstate, hdone, hres⟩ := h
  cases heffect with
  | same => exact ⟨rfl, hres⟩
  | submitted serialized writes hnew =>
    rw [hinv.fresh hnew] at hstate
    cases hstate
  | leased state' _ hstate' hpending | renewed _ state' _ hstate' hpending =>
    rw [hstate] at hstate'
    rw [Option.some.inj hstate', hpending] at hdone
    cases hdone
  | began lease now hi hlease | accepted lease now offset data part bytes hi hlease
  | sealedWith lease now bytes hi hlease => exact absurd hdone (hlease.not_done hstate)
  | removed hi => exact absurd hi hremove

/-- Whatever changes the result of a request is a call of the holder, or removes it. -/
theorem Effect.byHolder (hne : resultFiles f ≠ resultFiles (s.files session id)) :
    s.ByHolder session id i ∨ i = .remove session := by
  cases heffect with
  | same => exact absurd rfl hne
  | submitted serialized writes hnew =>
    refine absurd ?_ hne
    rw [hinv.fresh hnew]
    match writes with
    | 0 | 1 | 2 => rfl
    | _ + 3 =>
      rw [List.take_of_length_le (by simp [newWrites])]
      rfl
  | leased state next hstate hpending _ hnext
  | renewed lease state next hstate hpending _ _ hnext =>
    refine absurd ?_ hne
    unfold resultFiles
    simp [hstate, hpending, hnext]
  | began lease now hi hlease => exact .inl ⟨lease, now, hlease, .inl hi⟩
  | accepted lease now offset data part bytes hi hlease =>
    exact .inl ⟨lease, now, hlease, .inr (.inl ⟨offset, data, hi⟩)⟩
  | sealedWith lease now bytes hi hlease => exact .inl ⟨lease, now, hlease, .inr (.inr ⟨_, hi⟩)⟩
  | removed hi => exact .inr hi

end

def SpoolInv (env : BrokerPlatform R) (s : Spool) : Prop :=
  s.Issued ∧ ∀ session id, Accounted env (s.files session id) (account s.log session id)

theorem step_spoolInv (h : s.SpoolInv env) (i : Input R) : (s.step env i).SpoolInv env :=
  ⟨step_issued h.1 i, fun session id => (step_effect env s i session id).accounted (h.2 session id)⟩

theorem step_result (h : s.SpoolInv env) {token : JsString}
    (hres : s.result session token id = .ok (.value bytes))
    (hremove : i ≠ .remove session) :
    (s.step env i).result session token id = .ok (.value bytes) := by
  rw [result_value] at hres ⊢
  obtain ⟨hsess, hid, ⟨directory, hdirectory, hne, rfl⟩, hsettled⟩ := hres
  refine ⟨hsess, hid, ?_, ?_⟩
  · have hkeeps : KeepsTokens s (s.step env i) session := by
      unfold step
      split
      next s' hperform => exact (perform_performed hperform).keepsTokens hremove
      next => exact .refl s session
    obtain ⟨directory', hdir', htoken⟩ := hkeeps directory hdirectory
    exact ⟨directory', hdir', htoken ▸ hne, htoken.symm⟩
  · obtain ⟨hstate, hbytes⟩ := (step_effect env s i session id).settled (h.2 session id) hremove
      hsettled
    obtain ⟨state, hold, hdone, -⟩ := hsettled
    exact ⟨state, hstate.trans hold, hdone, hbytes⟩

end Spool

/-- In every run, leases and results are what they are for. -/
theorem reached_resultDiscipline (env : BrokerPlatform R) (is : List (Input R)) :
    ResultDiscipline env (runSteps (step env) new is) := by
  have hinv : SpoolInv env (runSteps (step env) new is) := by
    refine runSteps_invariant (I := SpoolInv env) (fun s i h => step_spoolInv h i) ?_ is
    exact ⟨⟨by simp [new], by simp [new]⟩, fun session id => accounted_none⟩
  generalize runSteps (step env) new is = s at hinv
  constructor
  · rintro session id lease now ⟨state, hlease⟩
    obtain ⟨hstate, -, hid, -⟩ := requireLease_ok hlease
    exact (hinv.2 session id).lease state lease hstate hid
  · exact hinv.1.nodup
  · intro session id i hne
    exact (step_effect env s i session id).byHolder (hinv.2 session id) hne
  · intro session token id bytes hresult is hremove
    induction is generalizing s with
    | nil => exact hresult
    | cons i is ih =>
      exact ih (s.step env i) (step_spoolInv hinv i)
        (step_result hinv hresult (hremove i (by simp))) fun j hj => hremove j (by simp [hj])
  · intro session token id bytes hresult
    obtain ⟨-, -, -, state, hstate, hdone, hbytes⟩ := result_value.mp hresult
    obtain ⟨bytes', hresult', hpart, hdigest⟩ := (hinv.2 session id).done state hstate hdone
    obtain rfl : bytes = bytes' := Option.some.inj (hbytes.symm.trans hresult')
    refine ⟨?_, hdigest⟩
    rw [← (hinv.2 session id).chunks, hpart]
    rfl

/-! ## A result that is begun again -/

def acceptedChunks (log : List Event) (session id : JsString) : List Bytes :=
  log.filterMap fun
    | .accepted session' id' _ bytes =>
      if session' = session ∧ id' = id then some bytes else none
    | _ => none

/-- Requests that are ids, chunks that are single bytes, and results that are all done. -/
def samplePlatform : BrokerPlatform JsString where
  id := id
  provider := id
  modelId := id
  hasContext := fun _ => true
  stringify := id
  parse := id
  byteLength := List.length
  fromBase64 := fun data => data.map UInt16.toUInt8
  toBase64 := fun bytes => bytes.map UInt8.toUInt16
  sha256 := fun bytes => bytes.map UInt8.toUInt16
  parseResult := fun _ => some (some (js "done"))

/-- The first worker's chunk is dropped when its lease is over and another begins again. -/
def restartedRun : List (Input JsString) :=
  [.register (js "s") (js "t"), .submit (js "s") (js "t") (js "r"),
    .poll (js "s") fun _ => 0,
    .beginResult (js "s") (js "r") 0 0, .appendResult (js "s") (js "r") 0 0 0 [1],
    .poll (js "s") fun _ => 30000,
    .beginResult (js "s") (js "r") 1 30000, .appendResult (js "s") (js "r") 1 30000 0 [2],
    .sealResult (js "s") (js "r") 1 30000 [2]]

theorem restarted_result_drops_chunks :
    ∃ bytes, (runSteps (step samplePlatform) new restartedRun).result (js "s") (js "t") (js "r")
        = .ok (.value bytes) ∧
      bytes ≠ (acceptedChunks (runSteps (step samplePlatform) new restartedRun).log (js "s")
        (js "r")).flatten := by
  refine ⟨[2], ?_, ?_⟩
  · decide +kernel
  · decide +kernel

end Beale.Fleet
