import Beale.Library.JsMap
import Beale.Library.JsString
import Beale.Library.Run

/-!
# The credential file

`FileCredentialStore.modify` and `delete` read the whole file, await an update function, and write the whole file. The
calls of one store for one provider run one after the other; any others run side by side.

- `CredentialCall`: a call, with what its function makes of a credential.
- `CredentialHost.step`: a call starts, reads the file, or writes it.
-/

namespace Beale.Auth

open Beale.Library

structure Credential where
  /-- `type === 'oauth'` -/
  oauth : Bool
  expires : Int
  content : JsString
deriving DecidableEq

/-- The file: what is no JSON object makes every call fail. -/
inductive AuthFile where
  | missing
  | malformed
  | object (credentials : JsMap JsString Credential)

namespace AuthFile

def readAll : AuthFile → Option (JsMap JsString Credential)
  | .missing => some .empty
  | .malformed => none
  | .object credentials => some credentials

def get? (file : AuthFile) (providerId : JsString) : Option Credential :=
  file.readAll.bind fun credentials => credentials.get? providerId

end AuthFile

/-- What `modify` is called with, or `delete`. -/
inductive CredentialChange where
  /-- what the function returns; a rejected promise updates nothing as `undefined` does -/
  | modify (fn : Option Credential → Option Credential)
  | delete

/-- What `#readCodexCredential` finds; it throws where the file cannot be read. -/
inductive CodexCredential where
  | unreadable
  | found (credential : Option Credential)

structure CredentialCall where
  store : Nat
  providerId : JsString
  change : CredentialChange
  codex : CodexCredential

/-- `#currentCredential` of what the file holds for the provider -/
def currentCredential (providerId : JsString) (codex : CodexCredential) (stored : Option Credential) :
    Option (Option Credential) :=
  if providerId ≠ js "openai-codex" then some stored
  else
    match codex with
    | .unreadable => none
    | .found none => some stored
    | .found (some bridged) =>
      match stored with
      | none => some (some bridged)
      | some stored =>
        if ¬ stored.oauth then some (some bridged)
        else some (some (if stored.expires < bridged.expires then bridged else stored))

namespace CredentialCall

variable (call : CredentialCall)

/-- What the call writes, given what it has read. -/
def update (credentials : JsMap JsString Credential) : Option (JsMap JsString Credential) :=
  match call.change with
  | .delete => some (credentials.delete call.providerId)
  | .modify fn =>
    ((currentCredential call.providerId call.codex (credentials.get? call.providerId)).bind fn).map
      (credentials.set call.providerId)

/-- The call alone. -/
def run (file : AuthFile) : AuthFile :=
  match file.readAll.bind call.update with
  | some credentials => .object credentials
  | none => file

end CredentialCall

inductive CallPhase where
  | queued
  | awaiting (read updated : JsMap JsString Credential)
  | awaitingNothing
  | done

def CallPhase.isDone : CallPhase → Bool
  | .done => true
  | _ => false

structure CredentialHost where
  file : AuthFile
  calls : JsMap Nat (CredentialCall × CallPhase)
  next : Nat

inductive CredentialEvent where
  | start (call : CredentialCall)
  | read (call : Nat)
  | settle (call : Nat)

namespace CredentialHost

variable (host : CredentialHost)

/-- Whether the calls before have ended that the call is chained to. -/
def isNext (number : Nat) (call : CredentialCall) : Bool :=
  host.calls.entries.all fun entry =>
    number ≤ entry.1 || entry.2.1.store ≠ call.store || entry.2.1.providerId ≠ call.providerId || entry.2.2.isDone

/-- `modify` throws for Anthropic before it is chained. -/
def start (call : CredentialCall) : CredentialHost :=
  match call.change with
  | .modify _ =>
    if call.providerId = js "anthropic" then host
    else { host with calls := host.calls.set host.next (call, .queued), next := host.next + 1 }
  | .delete => { host with calls := host.calls.set host.next (call, .queued), next := host.next + 1 }

def setPhase (number : Nat) (call : CredentialCall) (phase : CallPhase) : CredentialHost :=
  { host with calls := host.calls.set number (call, phase) }

def read (number : Nat) (call : CredentialCall) : CredentialHost :=
  match host.file.readAll with
  | none => host.setPhase number call .done
  | some credentials =>
    match call.update credentials with
    | some updated => host.setPhase number call (.awaiting credentials updated)
    | none => host.setPhase number call .awaitingNothing

def step (host : CredentialHost) : CredentialEvent → CredentialHost
  | .start call => host.start call
  | .read number =>
    match host.calls.get? number with
    | some (call, .queued) => if host.isNext number call then host.read number call else host
    | _ => host
  | .settle number =>
    match host.calls.get? number with
    | some (call, .awaiting _ updated) => { host.setPhase number call .done with file := .object updated }
    | some (call, .awaitingNothing) => host.setPhase number call .done
    | _ => host

def new (file : AuthFile) : CredentialHost := ⟨file, .empty, 0⟩

end CredentialHost

end Beale.Auth
