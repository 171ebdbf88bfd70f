import Beale.Auth.Credentials

/-!
# No credential is lost

- `SerialBooks`: the invariant. The calls that have taken effect stand in an order in which, one after the other, they
  give each provider the credential that the file holds.
- `no_credential_lost`: when all calls have ended, the file holds for each provider the result of a serial order of the
  calls for it.
-/

namespace Beale.Auth

open Beale.Library

/-- The calls one after the other. -/
def serial (file : AuthFile) (calls : List CredentialCall) : AuthFile := calls.foldl (fun file call => call.run file) file

def CredentialCall.effect (stored : Option Credential) (call : CredentialCall) : Option Credential :=
  match call.change with
  | .delete => none
  | .modify fn => ((currentCredential call.providerId call.codex stored).bind fn).or stored

/-- The condition on a step. -/
def CredentialHost.Undisturbed (host : CredentialHost) : CredentialEvent → Prop
  | .settle number => ∀ call read updated, host.calls.get? number = some (call, .awaiting read updated) →
    (∀ providerId, providerId ≠ call.providerId → host.file.get? providerId = read.get? providerId) ∧
      (∀ fn, call.change = .modify fn → host.file.get? call.providerId = read.get? call.providerId)
  | _ => True

def CredentialHost.callsOf (host : CredentialHost) (providerId : JsString) : List CredentialCall :=
  (host.calls.values.map Prod.fst).filter fun call => call.providerId = providerId

/-! ## One call -/

section Call

variable {call : CredentialCall} {credentials updated : JsMap JsString Credential}

theorem effect_delete (h : call.change = .delete) (stored : Option Credential) : call.effect stored = none := by
  simp only [CredentialCall.effect, h]

theorem effect_modify {fn : Option Credential → Option Credential} (h : call.change = .modify fn) (stored : Option Credential) :
    call.effect stored = ((currentCredential call.providerId call.codex stored).bind fn).or stored := by
  simp only [CredentialCall.effect, h]

theorem update_get?_self (h : call.update credentials = some updated) :
    updated.get? call.providerId = call.effect (credentials.get? call.providerId) := by
  unfold CredentialCall.update at h
  split at h
  · next hchange =>
    cases h
    rw [JsMap.get?_delete, if_pos rfl, effect_delete hchange]
  · next fn hchange =>
    obtain ⟨credential, hfn, rfl⟩ := Option.map_eq_some_iff.mp h
    rw [JsMap.get?_set_self, effect_modify hchange, hfn]
    rfl

theorem update_get?_other (h : call.update credentials = some updated) {providerId : JsString}
    (hne : providerId ≠ call.providerId) : updated.get? providerId = credentials.get? providerId := by
  unfold CredentialCall.update at h
  split at h
  · cases h
    rw [JsMap.get?_delete, if_neg hne]
  · obtain ⟨credential, -, rfl⟩ := Option.map_eq_some_iff.mp h
    rw [JsMap.get?_set, if_neg hne]

theorem effect_of_update_none (h : call.update credentials = none) :
    call.effect (credentials.get? call.providerId) = credentials.get? call.providerId := by
  unfold CredentialCall.update at h
  split at h
  · cases h
  · next fn hchange =>
    rw [effect_modify hchange, Option.map_eq_none_iff.mp h]
    rfl

/-- A deletion looks at nothing. -/
theorem effect_congr {stored stored' : Option Credential} (h : ∀ fn, call.change = .modify fn → stored = stored') :
    call.effect stored = call.effect stored' := by
  cases hchange : call.change with
  | delete => rw [effect_delete hchange, effect_delete hchange]
  | modify fn => rw [h fn hchange]

variable {file : AuthFile}

theorem get?_of_readAll (h : file.readAll = some credentials) (providerId : JsString) :
    file.get? providerId = credentials.get? providerId := by
  rw [AuthFile.get?, h, Option.bind_some]

theorem readAll_run (h : file.readAll = some credentials) :
    ∃ after, (call.run file).readAll = some after ∧
      after.get? call.providerId = call.effect (credentials.get? call.providerId) := by
  unfold CredentialCall.run
  rw [h, Option.bind_some]
  cases hupd : call.update credentials with
  | some updated => exact ⟨updated, rfl, update_get?_self hupd⟩
  | none => exact ⟨credentials, h, (effect_of_update_none hupd).symm⟩

theorem serial_get? {providerId : JsString} {calls : List CredentialCall} (hcalls : ∀ call ∈ calls, call.providerId = providerId)
    (h : file.readAll = some credentials) :
    (serial file calls).get? providerId = calls.foldl CredentialCall.effect (credentials.get? providerId) := by
  induction calls generalizing file credentials with
  | nil => exact get?_of_readAll h providerId
  | cons call calls ih =>
    obtain ⟨after, hafter, hget⟩ := readAll_run h
    have hthis := hcalls call List.mem_cons_self
    rw [hthis] at hget
    rw [serial, List.foldl_cons, List.foldl_cons, ← hget]
    exact ih (fun other hmem => hcalls other (List.mem_cons_of_mem _ hmem)) hafter

theorem serial_of_unreadable (h : file.readAll = none) (calls : List CredentialCall) :
    serial file calls = file := by
  induction calls with
  | nil => rfl
  | cons call calls ih =>
    have hrun : call.run file = file := by rw [CredentialCall.run, h, Option.bind_none]
    rw [serial, List.foldl_cons, hrun]
    exact ih

end Call

/-! ## All calls -/

/-- The call has taken effect, or never will. -/
def CallPhase.settled : CallPhase → Bool
  | .queued | .awaiting _ _ => false
  | .awaitingNothing | .done => true

def callsIn (order : List (Nat × CredentialCall)) (providerId : JsString) : List CredentialCall :=
  (order.map Prod.snd).filter fun call => call.providerId = providerId

structure SerialBooks (initial : AuthFile) (host : CredentialHost) (order : List (Nat × CredentialCall)) : Prop where
  nodup : order.Nodup
  mem : ∀ number call, (number, call) ∈ order ↔
    ∃ phase, host.calls.get? number = some (call, phase) ∧ phase.settled = true
  numbers : ∀ number call phase, host.calls.get? number = some (call, phase) → number < host.next
  awaits : ∀ number call read updated, host.calls.get? number = some (call, .awaiting read updated) →
    call.update read = some updated ∧ ∃ credentials, initial.readAll = some credentials
  unreadable : initial.readAll = none → host.file = initial
  readable : ∀ credentials, initial.readAll = some credentials →
    ∃ now, host.file.readAll = some now ∧ ∀ providerId,
      now.get? providerId = (callsIn order providerId).foldl CredentialCall.effect (credentials.get? providerId)

section Steps

variable {initial : AuthFile} {host : CredentialHost} {order : List (Nat × CredentialCall)}

theorem callsIn_concat (order : List (Nat × CredentialCall)) (number : Nat) (call : CredentialCall) (providerId : JsString) :
    callsIn (order ++ [(number, call)]) providerId =
      callsIn order providerId ++ if call.providerId = providerId then [call] else [] := by
  simp only [callsIn, List.map_append, List.filter_append, List.map_cons, List.map_nil, List.filter_cons, List.filter_nil,
    decide_eq_true_eq]

variable {number : Nat} {call : CredentialCall}

section

variable (h : SerialBooks initial host order)
include h

theorem SerialBooks.setPhase {phase phase' : CallPhase}
    (hget : host.calls.get? number = some (call, phase)) (hsettled : phase'.settled = phase.settled)
    (hawaits : ∀ read updated, phase' = .awaiting read updated →
      call.update read = some updated ∧ ∃ credentials, initial.readAll = some credentials) :
    SerialBooks initial (host.setPhase number call phase') order := by
  refine ⟨h.nodup, fun other found => ?_, fun other found there hfound => ?_, fun other found read updated hfound => ?_,
    h.unreadable, h.readable⟩
  · rw [h.mem other found]
    simp only [CredentialHost.setPhase, JsMap.get?_set]
    split
    · next hsame =>
      subst hsame
      constructor
      · rintro ⟨there, hthere, hdone⟩
        cases hget.symm.trans hthere
        exact ⟨phase', rfl, hsettled.trans hdone⟩
      · rintro ⟨there, hthere, hdone⟩
        cases hthere
        exact ⟨phase, hget, hsettled.symm.trans hdone⟩
    · exact Iff.rfl
  · simp only [CredentialHost.setPhase, JsMap.get?_set] at hfound
    split at hfound
    · next hsame =>
      subst hsame
      exact h.numbers other call phase hget
    · exact h.numbers other found there hfound
  · simp only [CredentialHost.setPhase, JsMap.get?_set] at hfound
    split at hfound
    · cases hfound
      exact hawaits read updated rfl
    · exact h.awaits other found read updated hfound

theorem SerialBooks.settle {phase : CallPhase}
    (phase' : CallPhase) (hget : host.calls.get? number = some (call, phase)) (hopen : phase.settled = false) (hsettled : phase'.settled = true)
    {file : AuthFile} (hunreadable : initial.readAll = none → file = initial)
    (hread : ∀ credentials now, initial.readAll = some credentials → host.file.readAll = some now →
      ∃ after, file.readAll = some after ∧ after.get? call.providerId = call.effect (now.get? call.providerId) ∧
        ∀ providerId, providerId ≠ call.providerId → after.get? providerId = now.get? providerId) :
    SerialBooks initial { host.setPhase number call phase' with file := file } (order ++ [(number, call)]) := by
  have hfresh : (number, call) ∉ order := fun hmem => by
    obtain ⟨there, hthere, hdone⟩ := (h.mem number call).mp hmem
    cases hget.symm.trans hthere
    cases hopen.symm.trans hdone
  refine ⟨List.nodup_append.mpr ⟨h.nodup, List.nodup_singleton _, fun entry hmem other hone heq => ?_⟩,
    fun other found => ?_, fun other found there hfound => ?_, fun other found read updated hfound => ?_, hunreadable,
    fun credentials hinit => ?_⟩
  · rw [List.mem_singleton.mp hone] at heq
    exact hfresh (heq ▸ hmem)
  · rw [List.mem_append, h.mem other found, List.mem_singleton, Prod.mk.injEq]
    simp only [CredentialHost.setPhase, JsMap.get?_set]
    split
    · next hsame =>
      subst hsame
      constructor
      · rintro (⟨there, hthere, hdone⟩ | ⟨-, rfl⟩)
        · cases hget.symm.trans hthere
          cases hopen.symm.trans hdone
        · exact ⟨phase', rfl, hsettled⟩
      · rintro ⟨there, hthere, -⟩
        cases hthere
        exact .inr ⟨rfl, rfl⟩
    · next hne =>
      constructor
      · rintro (hthere | ⟨hsame, -⟩)
        · exact hthere
        · exact absurd hsame hne
      · exact .inl
  · simp only [CredentialHost.setPhase, JsMap.get?_set] at hfound
    split at hfound
    · next hsame =>
      subst hsame
      exact h.numbers other call phase hget
    · exact h.numbers other found there hfound
  · simp only [CredentialHost.setPhase, JsMap.get?_set] at hfound
    split at hfound
    · cases hfound
      cases hsettled
    · exact h.awaits other found read updated hfound
  · obtain ⟨now, hnow, hbef⟩ := h.readable credentials hinit
    obtain ⟨after, hafter, hself, hother⟩ := hread credentials now hinit hnow
    refine ⟨after, hafter, fun providerId => ?_⟩
    rw [callsIn_concat, List.foldl_append, ← hbef providerId]
    split
    · next hsame =>
      subst hsame
      exact hself
    · next hne => exact hother providerId (Ne.symm hne)

theorem SerialBooks.queue (call : CredentialCall) :
    SerialBooks initial { host with calls := host.calls.set host.next (call, .queued), next := host.next + 1 } order := by
  have hnew : ∀ found, host.calls.get? host.next ≠ some found := fun found hfound =>
    absurd (h.numbers host.next found.1 found.2 hfound) (Nat.lt_irrefl _)
  refine ⟨h.nodup, fun other found => ?_, fun other found there hfound => ?_, fun other found read updated hfound => ?_,
    h.unreadable, h.readable⟩
  · rw [h.mem other found]
    dsimp only
    rw [JsMap.get?_set]
    split
    · next hsame =>
      subst hsame
      constructor
      · rintro ⟨there, hthere, -⟩
        exact absurd hthere (hnew _)
      · rintro ⟨there, hthere, hdone⟩
        cases hthere
        cases hdone
    · exact Iff.rfl
  · dsimp only at hfound ⊢
    rw [JsMap.get?_set] at hfound
    split at hfound
    · next hsame =>
      subst hsame
      exact Nat.lt_succ_self _
    · exact Nat.lt_succ_of_lt (h.numbers other found there hfound)
  · dsimp only at hfound
    rw [JsMap.get?_set] at hfound
    split at hfound
    · cases hfound
    · exact h.awaits other found read updated hfound

theorem SerialBooks.start (call : CredentialCall) :
    SerialBooks initial (host.start call) order := by
  unfold CredentialHost.start
  split
  · split
    · exact h
    · exact h.queue call
  · exact h.queue call

/-- A read: a call that is to write nothing takes effect here. -/
theorem SerialBooks.read
    (hget : host.calls.get? number = some (call, .queued)) : ∃ order', SerialBooks initial (host.read number call) order' := by
  unfold CredentialHost.read
  cases hnow : host.file.readAll with
  | none =>
    refine ⟨_, h.settle .done hget rfl rfl h.unreadable fun credentials now _ hread => ?_⟩
    cases hnow.symm.trans hread
  | some now =>
    dsimp only
    cases hupd : call.update now with
    | some updated =>
      refine ⟨_, h.setPhase hget rfl fun read updated' hphase => ?_⟩
      cases hphase
      refine ⟨hupd, ?_⟩
      cases hinit : initial.readAll with
      | some credentials => exact ⟨credentials, rfl⟩
      | none => cases hinit.symm.trans (h.unreadable hinit ▸ hnow)
    | none =>
      refine ⟨_, h.settle .awaitingNothing hget rfl rfl h.unreadable fun credentials found _ hread => ?_⟩
      cases hnow.symm.trans hread
      exact ⟨now, hnow, (effect_of_update_none hupd).symm, fun _ _ => rfl⟩

theorem SerialBooks.write
    {read updated : JsMap JsString Credential} (hget : host.calls.get? number = some (call, .awaiting read updated))
    (hkept : host.Undisturbed (.settle number)) :
    SerialBooks initial { host.setPhase number call .done with file := .object updated } (order ++ [(number, call)]) := by
  obtain ⟨hupd, credentials, hinit⟩ := h.awaits number call read updated hget
  obtain ⟨hrest, hown⟩ := hkept call read updated hget
  refine h.settle .done hget rfl rfl (fun hnone => ?_) fun _ now _ hnow => ⟨updated, rfl, ?_, fun providerId hne => ?_⟩
  · cases hinit.symm.trans hnone
  · rw [update_get?_self hupd]
    refine effect_congr fun fn hchange => ?_
    rw [← get?_of_readAll hnow, hown fn hchange]
  · rw [update_get?_other hupd hne, ← hrest providerId hne, get?_of_readAll hnow]

theorem SerialBooks.step {event : CredentialEvent} (hkept : host.Undisturbed event) :
    ∃ order', SerialBooks initial (host.step event) order' := by
  cases event with
  | start call => exact ⟨order, h.start call⟩
  | read number =>
    simp only [CredentialHost.step]
    split
    · next call hget =>
      split
      · exact h.read hget
      · exact ⟨order, h⟩
    · exact ⟨order, h⟩
  | settle number =>
    simp only [CredentialHost.step]
    split
    · next call read updated hget => exact ⟨_, h.write hget hkept⟩
    · next call hget => exact ⟨order, h.setPhase hget rfl (by rintro _ _ ⟨⟩)⟩
    · exact ⟨order, h⟩

end

theorem SerialBooks.new (initial : AuthFile) : SerialBooks initial (.new initial) [] := by
  refine ⟨List.nodup_nil, fun number call => ⟨nofun, ?_⟩, nofun, nofun, fun _ => rfl, fun credentials hinit => ?_⟩
  · rintro ⟨phase, hget, -⟩
    cases hget
  · exact ⟨credentials, hinit, fun _ => rfl⟩

/-- Once all calls have ended, each of them has taken effect. -/
theorem SerialBooks.perm (h : SerialBooks initial host order) (hdone : ∀ entry ∈ host.calls.values, entry.2.isDone = true)
    (providerId : JsString) : (callsIn order providerId).Perm (host.callsOf providerId) := by
  have hents : (order.map fun entry => (entry.1, entry.2)).Perm
      (host.calls.entries.map fun entry => (entry.1, entry.2.1)) := by
    rw [List.map_id'']
    · refine (List.perm_ext_iff_of_nodup h.nodup ?_).mpr ?_
      · exact List.Nodup.of_map Prod.fst (by simpa [Function.comp_def] using host.calls.nodup)
      · rintro ⟨number, call⟩
        rw [h.mem number call, List.mem_map]
        constructor
        · rintro ⟨phase, hget, -⟩
          exact ⟨_, JsMap.mem_of_get? hget, rfl⟩
        · rintro ⟨⟨other, found, phase⟩, hmem, heq⟩
          cases heq
          refine ⟨phase, JsMap.get?_of_mem hmem, ?_⟩
          have hended := hdone (found, phase) (List.mem_map_of_mem hmem)
          cases phase with
          | done => rfl
          | _ => cases hended
    · exact fun entry => rfl
  have hcalls := (hents.map Prod.snd).filter fun call => call.providerId = providerId
  simpa only [callsIn, CredentialHost.callsOf, JsMap.values, List.map_map, Function.comp_def] using hcalls

end Steps

theorem no_credential_lost (initial : AuthFile) (events : List CredentialEvent)
    (h : RunMeets CredentialHost.step CredentialHost.Undisturbed (.new initial) events)
    (hdone : ∀ entry ∈ (runSteps CredentialHost.step (.new initial) events).calls.values, entry.2.isDone = true)
    (providerId : JsString) :
    ∃ calls, calls.Perm ((runSteps CredentialHost.step (.new initial) events).callsOf providerId) ∧
      (runSteps CredentialHost.step (.new initial) events).file.get? providerId = (serial initial calls).get? providerId := by
  have hbooks : ∃ order, SerialBooks initial (runSteps CredentialHost.step (.new initial) events) order :=
    runSteps_invariant_of_meets (I := fun host => ∃ order, SerialBooks initial host order)
      (fun host event hbooks hkept => hbooks.elim fun order hbooks => hbooks.step hkept) ⟨[], .new initial⟩ h
  obtain ⟨order, hbooks⟩ := hbooks
  refine ⟨callsIn order providerId, hbooks.perm hdone providerId, ?_⟩
  cases hinitial : initial.readAll with
  | none =>
    rw [serial_of_unreadable hinitial, hbooks.unreadable hinitial]
  | some credentials =>
    obtain ⟨now, hnow, hget⟩ := hbooks.readable credentials hinitial
    rw [get?_of_readAll hnow, hget providerId, serial_get? (fun call hmem => ?_) hinitial]
    exact of_decide_eq_true (List.mem_filter.mp hmem).2

/-- A call for one provider, whole, before one for another. -/
def twoCalls (token : JsString) : List CredentialEvent :=
  [.start ⟨0, js "openai", .modify fun _ => some ⟨false, 0, token⟩, .found none⟩, .read 0, .settle 0,
    .start ⟨0, js "zai", .delete, .found none⟩, .read 1, .settle 1]

theorem no_credential_lost_twoCalls : ∃ calls,
    calls.Perm ((runSteps CredentialHost.step (.new .missing) (twoCalls (js "key"))).callsOf (js "openai")) ∧
      (runSteps CredentialHost.step (.new .missing) (twoCalls (js "key"))).file.get? (js "openai") =
        (serial .missing calls).get? (js "openai") := by
  refine no_credential_lost .missing (twoCalls (js "key")) ?_ ?_ (js "openai")
  · refine ⟨trivial, trivial, ?_, trivial, trivial, ?_, trivial⟩
    · intro call read updated hget
      cases hget
      exact ⟨fun _ _ => rfl, fun _ _ => rfl⟩
    · intro call read updated hget
      cases hget
      exact ⟨fun _ _ => rfl, fun _ _ => rfl⟩
  · intro entry hmem
    have hcalls : (runSteps CredentialHost.step (.new .missing) (twoCalls (js "key"))).calls.values.all
        (fun entry => entry.2.isDone) = true := by
      decide +kernel
    exact List.all_eq_true.mp hcalls entry hmem

/-- The credential of the first provider is stored while the deletion of another one waits between read and write. -/
def overlappingCalls : List CredentialEvent :=
  [.start ⟨0, js "zai", .delete, .found none⟩, .read 0,
    .start ⟨0, js "openai", .modify fun _ => some ⟨false, 0, js "key"⟩, .found none⟩, .read 1, .settle 1, .settle 0]

theorem credential_lost :
    ¬ ∀ providerId, ∃ calls,
      calls.Perm ((runSteps CredentialHost.step (.new .missing) overlappingCalls).callsOf providerId) ∧
        (runSteps CredentialHost.step (.new .missing) overlappingCalls).file.get? providerId =
          (serial .missing calls).get? providerId := by
  intro h
  obtain ⟨calls, hperm, hget⟩ := h (js "openai")
  have hcalls : (runSteps CredentialHost.step (.new .missing) overlappingCalls).callsOf (js "openai") =
      [⟨0, js "openai", .modify fun _ => some ⟨false, 0, js "key"⟩, .found none⟩] := rfl
  rw [hcalls] at hperm
  rw [List.perm_singleton.mp hperm] at hget
  cases hget

end Beale.Auth
