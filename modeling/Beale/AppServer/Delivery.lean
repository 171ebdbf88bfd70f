import Beale.AppServer.Replay

/-!
# What becomes of the events

- `ReplaySound`: each frame was sent, is buffered or was dropped; the counters are exact; and a client that is
  ready got the handshake and then frames in order.
- `replay_sound_iff`: a run has the former exactly if its steps meet the latter.
-/

namespace Beale.AppServer

open Beale.Library

def totalBytes (frames : List Frame) : Nat := (frames.map Frame.byteLength).sum

/-- Frames that the buffer can hold together. -/
def Fits (frames : List Frame) : Prop := frames.length ≤ maxReplayFrames ∧ totalBytes frames ≤ maxReplayBytes

/-- A frame that came to a client. -/
def Replay.IsSent (replay : Replay) (frame : Frame) : Prop :=
  ∃ id client, replay.clients.get? id = some client ∧ .frame frame ∈ client.received

/-- A client got the handshake first, and then some of the frames in their order. -/
def IsGreeted (emitted : List Frame) (client : ReplayClient) : Prop :=
  ∃ frames : List Frame, client.received = .handshake :: frames.map .frame ∧ frames.Sublist emitted

structure ReplaySound (replay : Replay) : Prop where
  nodup : replay.emitted.Nodup ∧ replay.pendingClientFrames.Nodup ∧ replay.dropped.Nodup
  placed : ∀ frame, frame ∈ replay.emitted ↔
    replay.IsSent frame ∨ frame ∈ replay.pendingClientFrames ∨ frame ∈ replay.dropped
  sentApart : ∀ frame, replay.IsSent frame → frame ∉ replay.pendingClientFrames ∧ frame ∉ replay.dropped
  pendingApart : ∀ frame ∈ replay.pendingClientFrames, frame ∉ replay.dropped
  fits : Fits replay.pendingClientFrames
  bytes : replay.pendingClientBytes = totalBytes replay.pendingClientFrames
  count : replay.droppedClientFrames = replay.dropped.length
  greeted : ∀ id client, replay.clients.get? id = some client → client.ready = true → IsGreeted replay.emitted client

/-- The frame that a step puts into the buffer, at last. -/
def arrived (replay : Replay) : ReplayEvent → List Frame
  | .emit byteLength => if byteLength ≤ maxReplayBytes then [⟨replay.emitted.length, byteLength⟩] else []
  | _ => []

/-- What a step drops is too large, or too much together with what was buffered after it. -/
def IsJustified (replay : Replay) (event : ReplayEvent) : Prop :=
  ∀ frame ∈ (replay.step event).dropped, frame ∉ replay.dropped → maxReplayBytes < frame.byteLength ∨
    ∃ post, frame :: post <:+ replay.pendingClientFrames ++ arrived replay event ∧ ¬ Fits (frame :: post)

/-- The condition on a step: the first hello of a client comes after the launch of a worker and on a socket that is
open; and a frame that the buffer cannot hold comes while nothing is buffered, or to a client. -/
def ReplayKept (replay : Replay) : ReplayEvent → Bool
  | .message id .hello => (replay.clients.get? id).all fun client =>
      client.readyState = .closed || client.receivedClientHello ||
        replay.handshakeFrame && client.readyState = .isOpen
  | .emit byteLength => byteLength ≤ maxReplayBytes || replay.pendingClientFrames.isEmpty ||
      replay.clients.values.any (·.isListening)
  | _ => true

/-! ## Making room -/

/-- The frames are too many, or too large, to have one more of this size. -/
def IsFull (byteLength : Nat) (frames : List Frame) : Prop :=
  maxReplayFrames ≤ frames.length ∨ maxReplayBytes < totalBytes frames + byteLength

instance (byteLength : Nat) : DecidablePred (IsFull byteLength) := fun _ => inferInstanceAs (Decidable (_ ∨ _))

@[simp] theorem totalBytes_cons (frame : Frame) (frames : List Frame) :
    totalBytes (frame :: frames) = frame.byteLength + totalBytes frames := by
  simp [totalBytes]

@[simp] theorem totalBytes_append (frames frames' : List Frame) :
    totalBytes (frames ++ frames') = totalBytes frames + totalBytes frames' := by
  simp [totalBytes]

/-- With an exact counter the loop evicts while the rest is too full. -/
theorem makeRoom_eq (byteLength : Nat) (frames : List Frame) : makeRoom byteLength frames (totalBytes frames) =
    ((evictFront (IsFull byteLength) frames).1, (evictFront (IsFull byteLength) frames).2,
      (totalBytes (evictFront (IsFull byteLength) frames).2 : Int)) := by
  induction frames with
  | nil => rfl
  | cons frame rest ih =>
    have hrest : (totalBytes (frame :: rest) : Int) - frame.byteLength = totalBytes rest := by
      rw [totalBytes_cons]
      omega
    have hfull : (maxReplayFrames ≤ (frame :: rest).length ∨
        (totalBytes (frame :: rest) : Int) + byteLength > maxReplayBytes) ↔ IsFull byteLength (frame :: rest) :=
      or_congr_right (by omega)
    rw [makeRoom, evictFront, hrest, ih]
    split
    · next h => rw [if_pos (hfull.mp h)]
    · next h => rw [if_neg (fun hthere => h (hfull.mpr hthere))]

theorem Fits.of_suffix {frames frames' : List Frame} (h : Fits frames) (hsuffix : frames' <:+ frames) : Fits frames' := by
  obtain ⟨front, rfl⟩ := hsuffix
  obtain ⟨hlen, hbytes⟩ := h
  rw [List.length_append] at hlen
  rw [totalBytes_append] at hbytes
  exact ⟨by omega, by omega⟩

/-- A frame that can be held has room behind what stays. -/
theorem fits_of_room {byteLength number : Nat} {frames : List Frame} (hfits : Fits frames)
    (hsize : byteLength ≤ maxReplayBytes) :
    Fits ((evictFront (IsFull byteLength) frames).2 ++ [⟨number, byteLength⟩]) := by
  have hone : totalBytes [(⟨number, byteLength⟩ : Frame)] = byteLength := by simp [totalBytes]
  rcases evictFront_rest (IsFull byteLength) frames with hnil | hroom
  · rw [hnil, List.nil_append]
    exact ⟨by simp [maxReplayFrames], by omega⟩
  · simp only [IsFull, not_or] at hroom
    refine ⟨?_, ?_⟩
    · rw [List.length_append, List.length_singleton]
      omega
    · rw [totalBytes_append, hone]
      omega

/-! ## The invariant -/

/-- What holds of the clients and the frames. -/
structure Delivered (replay : Replay) : Prop where
  sound : ReplaySound replay
  numbered : ∀ id client, replay.clients.get? id = some client → id < replay.nextClient
  counted : ∀ frame ∈ replay.emitted, frame.number < replay.emitted.length
  ordered : replay.pendingClientFrames.Sublist replay.emitted
  silent : ∀ id client, replay.clients.get? id = some client → client.receivedClientHello = false →
    client.received = [] ∧ client.ready = false
  welcomed : ∀ id client, replay.clients.get? id = some client → client.receivedClientHello = true →
    IsGreeted replay.emitted client

section Steps

variable {replay : Replay}

theorem Delivered.of_clients (h : Delivered replay) {clients : JsMap Nat ReplayClient}
    (hclients : ∀ id client, clients.get? id = some client → ∃ before, replay.clients.get? id = some before ∧
      client.received = before.received ∧ client.receivedClientHello = before.receivedClientHello ∧
        (client.ready = true → before.ready = true))
    (hbef : ∀ id before, replay.clients.get? id = some before → ∃ client, clients.get? id = some client ∧
      client.received = before.received) : Delivered { replay with clients } := by
  have hsent : ∀ frame, Replay.IsSent { replay with clients } frame ↔ replay.IsSent frame := by
    intro frame
    constructor
    · rintro ⟨id, client, hget, hmem⟩
      obtain ⟨before, hbef, hsame, -⟩ := hclients id client hget
      exact ⟨id, before, hbef, hsame ▸ hmem⟩
    · rintro ⟨id, before, hget, hmem⟩
      obtain ⟨client, hclient, hsame⟩ := hbef id before hget
      exact ⟨id, client, hclient, hsame ▸ hmem⟩
  have hgreeted : ∀ {client before : ReplayClient}, client.received = before.received →
      IsGreeted replay.emitted before → IsGreeted replay.emitted client := by
    rintro client before hsame ⟨frames, hframes, hsub⟩
    exact ⟨frames, hsame.trans hframes, hsub⟩
  refine ⟨⟨h.sound.nodup, fun frame => ?_, fun frame hframe => ?_, h.sound.pendingApart, h.sound.fits, h.sound.bytes,
    h.sound.count, fun id client hget hready => ?_⟩, fun id client hget => ?_, h.counted, h.ordered,
    fun id client hget hhello => ?_, fun id client hget hhello => ?_⟩
  · rw [hsent]
    exact h.sound.placed frame
  · exact h.sound.sentApart frame ((hsent frame).mp hframe)
  · obtain ⟨before, hthere, hsame, -, hwas⟩ := hclients id client hget
    exact hgreeted hsame (h.sound.greeted id before hthere (hwas hready))
  · obtain ⟨before, hthere, -⟩ := hclients id client hget
    exact h.numbered id before hthere
  · obtain ⟨before, hthere, hsame, hsaid, hwas⟩ := hclients id client hget
    obtain ⟨hnil, hready⟩ := h.silent id before hthere (hsaid ▸ hhello)
    refine ⟨hsame.trans hnil, ?_⟩
    by_contra hnow
    rw [hwas (by simpa using hnow)] at hready
    cases hready
  · obtain ⟨before, hthere, hsame, hsaid, -⟩ := hclients id client hget
    exact hgreeted hsame (h.welcomed id before hthere (hsaid ▸ hhello))

variable {client : ReplayClient}

theorem Delivered.setClient (h : Delivered replay) {id : Nat} {before : ReplayClient}
    (hget : replay.clients.get? id = some before) (hrecv : client.received = before.received)
    (hhello : client.receivedClientHello = before.receivedClientHello)
    (hready : client.ready = true → before.ready = true) :
    Delivered { replay with clients := replay.clients.set id client } := by
  refine h.of_clients (fun other now hnow => ?_) fun other was hwas => ?_
  · rw [JsMap.get?_set] at hnow
    split at hnow
    · next heq =>
      cases hnow
      exact ⟨before, heq ▸ hget, hrecv, hhello, hready⟩
    · exact ⟨now, hnow, rfl, rfl, fun hready => hready⟩
  · rw [JsMap.get?_set]
    split
    · next heq =>
      subst heq
      cases hget.symm.trans hwas
      exact ⟨client, rfl, hrecv⟩
    · exact ⟨was, hwas, rfl⟩

/-- All clients are changed, but for what they have received. -/
theorem Delivered.mapClients (h : Delivered replay) (f : ReplayClient → ReplayClient)
    (hrecv : ∀ client, (f client).received = client.received)
    (hhello : ∀ client, (f client).receivedClientHello = client.receivedClientHello)
    (hready : ∀ client, (f client).ready = true → client.ready = true) :
    Delivered { replay with clients := replay.clients.mapValues f } := by
  refine h.of_clients (fun id now hnow => ?_) fun id was hwas => ?_
  · rw [JsMap.get?_mapValues, Option.map_eq_some_iff] at hnow
    obtain ⟨before, hbef, rfl⟩ := hnow
    exact ⟨before, hbef, hrecv before, hhello before, hready before⟩
  · exact ⟨f was, by rw [JsMap.get?_mapValues, hwas]; rfl, hrecv was⟩

theorem Delivered.modifyClient (h : Delivered replay) (id : Nat) (f : ReplayClient → ReplayClient)
    (hrecv : ∀ client, (f client).received = client.received)
    (hhello : ∀ client, (f client).receivedClientHello = client.receivedClientHello)
    (hready : ∀ client, (f client).ready = true → client.ready = true) :
    Delivered { replay with clients := replay.clients.modify id f } := by
  unfold JsMap.modify
  split
  · next before hget => exact h.setClient hget (hrecv before) (hhello before) (hready before)
  · exact h

theorem Delivered.connect (h : Delivered replay) : Delivered (replay.step .connect) := by
  have hget? : ∀ id, (replay.step .connect).clients.get? id =
      if id = replay.nextClient then some ⟨.isOpen, false, false, []⟩ else replay.clients.get? id :=
    fun id => JsMap.get?_set _ _ _ _
  have hfree : ∀ id client, replay.clients.get? id = some client → id ≠ replay.nextClient := by
    intro id client hget
    exact Nat.ne_of_lt (h.numbered id client hget)
  have hsent : ∀ frame, (replay.step .connect).IsSent frame ↔ replay.IsSent frame := by
    intro frame
    constructor
    · rintro ⟨id, client, hget, hmem⟩
      rw [hget?] at hget
      split at hget
      · cases hget
        cases hmem
      · exact ⟨id, client, hget, hmem⟩
    · rintro ⟨id, client, hget, hmem⟩
      exact ⟨id, client, by rw [hget?, if_neg (hfree id client hget), hget], hmem⟩
  refine ⟨⟨h.sound.nodup, fun frame => ?_, fun frame hframe => ?_, h.sound.pendingApart, h.sound.fits, h.sound.bytes,
    h.sound.count, fun id client hget hready => ?_⟩, fun id client hget => ?_, h.counted, h.ordered,
    fun id client hget hhello => ?_, fun id client hget hhello => ?_⟩
  · rw [hsent]
    exact h.sound.placed frame
  · exact h.sound.sentApart frame ((hsent frame).mp hframe)
  all_goals
    rw [hget?] at hget
    split at hget
  · cases hget
    cases hready
  · exact h.sound.greeted id client hget hready
  · next heq => exact heq ▸ Nat.lt_succ_self _
  · exact Nat.lt_succ_of_lt (h.numbered id client hget)
  · cases hget
    exact ⟨rfl, rfl⟩
  · exact h.silent id client hget hhello
  · cases hget
    cases hhello
  · exact h.welcomed id client hget hhello

/-- Frames that are sent one after the other on an open socket. -/
theorem foldl_send (client : ReplayClient) (hopen : client.readyState = .isOpen) (frames : List Frame) :
    frames.foldl (fun client frame => client.send (.frame frame)) client =
      { client with received := client.received ++ frames.map .frame } := by
  induction frames generalizing client with
  | nil => simp
  | cons frame rest ih =>
    have hsend : client.send (.frame frame) = { client with received := client.received ++ [.frame frame] } :=
      if_pos hopen
    rw [List.foldl_cons, ih (client.send (.frame frame)) (by rw [hsend]; exact hopen), hsend]
    simp

theorem foldl_send_lost (client : ReplayClient) (hopen : client.readyState ≠ .isOpen) (frames : List Frame) :
    frames.foldl (fun client frame => client.send (.frame frame)) client = client := by
  induction frames with
  | nil => rfl
  | cons frame rest ih =>
    have hsend : client.send (.frame frame) = client := if_neg hopen
    rw [List.foldl_cons, hsend, ih]

theorem Delivered.hello (h : Delivered replay) {id : Nat}
    (hget : replay.clients.get? id = some client) (hfirst : client.receivedClientHello = false)
    (hopen : client.readyState = .isOpen) (hlaunch : replay.handshakeFrame = true) :
    Delivered (replay.hello id client) := by
  have hnil : client.received = [] := (h.silent id client hget hfirst).1
  have hclients : (replay.hello id client).clients = replay.clients.set id
      ⟨.isOpen, true, true, .handshake :: replay.pendingClientFrames.map .frame⟩ := by
    have hgreeted : client.send .handshake = { client with received := client.received ++ [.handshake] } := if_pos hopen
    have hflushed := foldl_send { client with received := client.received ++ [.handshake] } hopen replay.pendingClientFrames
    simp only [Replay.hello, hlaunch, ↓reduceIte, hgreeted]
    rw [hflushed, hnil]
    simp [hopen]
  have hget? : ∀ other, (replay.hello id client).clients.get? other = if other = id then
      some ⟨.isOpen, true, true, .handshake :: replay.pendingClientFrames.map .frame⟩ else replay.clients.get? other := by
    intro other
    rw [hclients, JsMap.get?_set]
  have hsent : ∀ frame, (replay.hello id client).IsSent frame ↔ replay.IsSent frame ∨ frame ∈ replay.pendingClientFrames := by
    intro frame
    constructor
    · rintro ⟨other, now, hnow, hmem⟩
      rw [hget?] at hnow
      split at hnow
      · cases hnow
        right
        simpa using hmem
      · exact .inl ⟨other, now, hnow, hmem⟩
    · rintro (⟨other, was, hwas, hmem⟩ | hmem)
      · refine ⟨other, was, ?_, hmem⟩
        rw [hget?, if_neg, hwas]
        rintro rfl
        cases hget.symm.trans hwas
        rw [hnil] at hmem
        cases hmem
      · exact ⟨id, _, by rw [hget?, if_pos rfl], by simpa using hmem⟩
  have hgreeted : IsGreeted replay.emitted ⟨.isOpen, true, true, .handshake :: replay.pendingClientFrames.map .frame⟩ :=
    ⟨replay.pendingClientFrames, rfl, h.ordered⟩
  refine ⟨⟨⟨h.sound.nodup.1, List.nodup_nil, h.sound.nodup.2.2⟩, fun frame => ?_, fun frame hframe => ?_,
    fun _ hframe => absurd hframe List.not_mem_nil, ⟨Nat.zero_le _, Nat.zero_le _⟩, rfl, h.sound.count, fun other now hnow hready => ?_⟩, fun other now hnow => ?_,
    h.counted, List.nil_sublist _, fun other now hnow hhello => ?_, fun other now hnow hhello => ?_⟩
  · rw [hsent]
    exact (h.sound.placed frame).trans (by simp [Replay.hello, or_assoc])
  · refine ⟨List.not_mem_nil, ?_⟩
    rcases (hsent frame).mp hframe with hthere | hmem
    · exact (h.sound.sentApart frame hthere).2
    · exact h.sound.pendingApart frame hmem
  all_goals
    rw [hget?] at hnow
    split at hnow
  · cases hnow
    exact hgreeted
  · exact h.sound.greeted other now hnow hready
  · next heq => exact heq ▸ h.numbered id client hget
  · exact h.numbered other now hnow
  · cases hnow
    cases hhello
  · exact h.silent other now hnow hhello
  · cases hnow
    exact hgreeted
  · exact h.welcomed other now hnow hhello

/-! ## Events -/

theorem fresh_of_counted (h : Delivered replay) (byteLength : Nat) :
    (⟨replay.emitted.length, byteLength⟩ : Frame) ∉ replay.emitted := by
  intro hmem
  exact Nat.lt_irrefl _ (h.counted _ hmem)

theorem nodup_emitted (h : Delivered replay) (byteLength : Nat) :
    (replay.emitted ++ [(⟨replay.emitted.length, byteLength⟩ : Frame)]).Nodup := by
  refine List.nodup_append.mpr ⟨h.sound.nodup.1, List.nodup_singleton _, ?_⟩
  rintro frame hmem _ hone rfl
  rw [List.mem_singleton] at hone
  exact fresh_of_counted h byteLength (hone ▸ hmem)

theorem counted_emitted (h : Delivered replay) (byteLength : Nat) :
    ∀ frame ∈ replay.emitted ++ [(⟨replay.emitted.length, byteLength⟩ : Frame)],
      frame.number < (replay.emitted ++ [(⟨replay.emitted.length, byteLength⟩ : Frame)]).length := by
  intro frame hmem
  rw [List.length_append, List.length_singleton]
  rcases List.mem_append.mp hmem with hmem | hmem
  · exact Nat.lt_succ_of_lt (h.counted frame hmem)
  · rw [List.mem_singleton.mp hmem]
    exact Nat.lt_succ_self _

theorem IsGreeted.append {emitted : List Frame} (h : IsGreeted emitted client) (frame : Frame) :
    IsGreeted (emitted ++ [frame]) client := by
  obtain ⟨frames, hframes, hsub⟩ := h
  exact ⟨frames, hframes, hsub.trans (List.sublist_append_left _ _)⟩

/-- A frame that some client gets. -/
theorem Delivered.deliver (h : Delivered replay) (byteLength : Nat)
    (hlisten : replay.clients.values.any (·.isListening) = true) : Delivered (replay.step (.emit byteLength)) := by
  let frame : Frame := ⟨replay.emitted.length, byteLength⟩
  let deliver : ReplayClient → ReplayClient := fun client =>
    if client.isListening then client.send (.frame frame) else client
  have hstep : replay.step (.emit byteLength) =
      { replay with emitted := replay.emitted ++ [frame], clients := replay.clients.mapValues deliver } := by
    simp only [Replay.step, Replay.deliverClientFrame, hlisten, ↓reduceIte]
    rfl
  have hdeliver : ∀ client : ReplayClient, (deliver client).receivedClientHello = client.receivedClientHello ∧
      (deliver client).ready = client.ready ∧ (client.isListening = true ∧
        (deliver client).received = client.received ++ [.frame frame] ∨
        client.isListening = false ∧ (deliver client).received = client.received) := by
    intro client
    simp only [deliver]
    split
    · next hlistens =>
      have hopen : client.readyState = .isOpen := by
        simp only [ReplayClient.isListening, Bool.and_eq_true, decide_eq_true_eq] at hlistens
        exact hlistens.2
      have hsend : client.send (.frame frame) = { client with received := client.received ++ [.frame frame] } := if_pos hopen
      rw [hsend]
      exact ⟨rfl, rfl, .inl ⟨hlistens, rfl⟩⟩
    · next hlistens => exact ⟨rfl, rfl, .inr ⟨by simpa using hlistens, rfl⟩⟩
  have hget? : ∀ id client, (replay.clients.mapValues deliver).get? id = some client →
      ∃ before, replay.clients.get? id = some before ∧ deliver before = client := by
    intro id client hget
    rw [JsMap.get?_mapValues, Option.map_eq_some_iff] at hget
    exact hget
  have hsent : ∀ other, Replay.IsSent { replay with
      emitted := replay.emitted ++ [frame], clients := replay.clients.mapValues deliver } other ↔
        replay.IsSent other ∨ other = frame := by
    intro other
    constructor
    · rintro ⟨id, client, hget, hmem⟩
      obtain ⟨before, hbef, rfl⟩ := hget? id client hget
      obtain ⟨-, -, ⟨-, hrecv⟩ | ⟨-, hrecv⟩⟩ := hdeliver before
      · rw [hrecv, List.mem_append, List.mem_singleton, Received.frame.injEq] at hmem
        exact hmem.imp_left fun hmem => ⟨id, before, hbef, hmem⟩
      · exact .inl ⟨id, before, hbef, hrecv ▸ hmem⟩
    · rintro (⟨id, before, hbef, hmem⟩ | rfl)
      · refine ⟨id, deliver before, by rw [JsMap.get?_mapValues, hbef]; rfl, ?_⟩
        obtain ⟨-, -, ⟨-, hrecv⟩ | ⟨-, hrecv⟩⟩ := hdeliver before
        · rw [hrecv]
          exact List.mem_append_left _ hmem
        · rw [hrecv]
          exact hmem
      · obtain ⟨before, hmem, hlistens⟩ := List.any_eq_true.mp hlisten
        obtain ⟨id, hbef⟩ := JsMap.exists_get?_of_mem_values hmem
        refine ⟨id, deliver before, by rw [JsMap.get?_mapValues, hbef]; rfl, ?_⟩
        obtain ⟨-, -, ⟨-, hrecv⟩ | ⟨hnot, -⟩⟩ := hdeliver before
        · rw [hrecv]
          exact List.mem_append_right _ (List.mem_singleton_self _)
        · rw [hlistens] at hnot
          cases hnot
  have hfresh : frame ∉ replay.emitted := fresh_of_counted h byteLength
  have hemitted : ∀ other, other ∈ replay.pendingClientFrames ∨ other ∈ replay.dropped → other ≠ frame := by
    rintro other hmem rfl
    exact hfresh ((h.sound.placed _).mpr (.inr hmem))
  -- a client that has said hello goes on to get the frames in order
  have hgreeted : ∀ before, IsGreeted replay.emitted before →
      IsGreeted (replay.emitted ++ [frame]) (deliver before) := by
    rintro before ⟨frames, hframes, hsub⟩
    obtain ⟨-, -, ⟨-, hrecv⟩ | ⟨-, hrecv⟩⟩ := hdeliver before
    · exact ⟨frames ++ [frame], by rw [hrecv, hframes]; simp, hsub.append (List.Sublist.refl _)⟩
    · exact ⟨frames, hrecv.trans hframes, hsub.trans (List.sublist_append_left _ _)⟩
  rw [hstep]
  refine ⟨⟨⟨nodup_emitted h byteLength, h.sound.nodup.2⟩, fun other => ?_, fun other hother => ?_, h.sound.pendingApart,
    h.sound.fits, h.sound.bytes, h.sound.count, fun id client hget hready => ?_⟩, fun id client hget => ?_,
    counted_emitted h byteLength, h.ordered.trans (List.sublist_append_left _ _), fun id client hget hhello => ?_,
    fun id client hget hhello => ?_⟩
  · rw [hsent, List.mem_append, List.mem_singleton, h.sound.placed other]
    exact or_right_comm
  · rcases (hsent other).mp hother with hbef | rfl
    · exact h.sound.sentApart other hbef
    · exact ⟨fun hmem => hemitted _ (.inl hmem) rfl, fun hmem => hemitted _ (.inr hmem) rfl⟩
  · obtain ⟨before, hbef, rfl⟩ := hget? id client hget
    exact hgreeted before (h.sound.greeted id before hbef ((hdeliver before).2.1 ▸ hready))
  · obtain ⟨before, hbef, -⟩ := hget? id client hget
    exact h.numbered id before hbef
  · obtain ⟨before, hbef, rfl⟩ := hget? id client hget
    obtain ⟨hsaid, hready, hrecv⟩ := hdeliver before
    obtain ⟨hnil, hnotReady⟩ := h.silent id before hbef (hsaid ▸ hhello)
    have hnot : before.isListening = false := by simp [ReplayClient.isListening, hnotReady]
    rcases hrecv with ⟨hlistens, -⟩ | ⟨-, hsame⟩
    · rw [hnot] at hlistens
      cases hlistens
    · exact ⟨hsame.trans hnil, hready.trans hnotReady⟩
  · obtain ⟨before, hbef, rfl⟩ := hget? id client hget
    exact hgreeted before (h.welcomed id before hbef ((hdeliver before).1 ▸ hhello))

/-- The clients stay as they are where none of them listens. -/
theorem mapValues_send (frame : Frame) (hnone : replay.clients.values.any (·.isListening) = false) :
    replay.clients.mapValues (fun client => if client.isListening then client.send (.frame frame) else client) =
      replay.clients := by
  apply JsMap.ext_entries
  refine (List.map_congr_left (g := id) fun e hmem => ?_).trans (List.map_id _)
  have hnot : e.2.isListening = false := by
    have hvalue : e.2 ∈ replay.clients.values := List.mem_map_of_mem hmem
    simpa using List.any_eq_false.mp hnone e.2 hvalue
  simp [hnot]

theorem Delivered.store (h : Delivered replay) (byteLength : Nat) {dropped kept : List Frame} {count : Nat}
    (hall : dropped ++ kept = replay.pendingClientFrames ++ [⟨replay.emitted.length, byteLength⟩])
    (hfits : Fits kept) (hcount : count = replay.droppedClientFrames + dropped.length) :
    Delivered { replay with
      emitted := replay.emitted ++ [⟨replay.emitted.length, byteLength⟩]
      pendingClientFrames := kept
      pendingClientBytes := totalBytes kept
      droppedClientFrames := count
      dropped := replay.dropped ++ dropped } := by
  let frame : Frame := ⟨replay.emitted.length, byteLength⟩
  have hfresh : frame ∉ replay.emitted := fresh_of_counted h byteLength
  have hmem : ∀ other, other ∈ dropped ∨ other ∈ kept ↔ other ∈ replay.pendingClientFrames ∨ other = frame := by
    intro other
    rw [← List.mem_append, hall, List.mem_append, List.mem_singleton]
  have hplaced : ∀ other, other ∈ replay.emitted ++ [frame] ↔
      replay.IsSent other ∨ other ∈ kept ∨ other ∈ replay.dropped ++ dropped := by
    intro other
    rw [List.mem_append, List.mem_singleton, h.sound.placed other, List.mem_append, or_assoc, or_assoc]
    refine or_congr_right ?_
    rw [← or_assoc (a := other ∈ kept), or_comm (a := other ∈ kept), or_assoc, or_comm (a := other ∈ kept), hmem other,
      or_left_comm]
  have hnodup : (dropped ++ kept).Nodup := by
    rw [hall]
    refine List.nodup_append.mpr ⟨h.sound.nodup.2.1, List.nodup_singleton _, ?_⟩
    rintro other hthere _ hone rfl
    have heq : other = frame := List.mem_singleton.mp hone
    exact hfresh (h.ordered.subset (heq ▸ hthere))
  obtain ⟨hdroppedNodup, hkeptNodup, hdisjoint⟩ := List.nodup_append.mp hnodup
  have hnew : ∀ other, other ∈ dropped ∨ other ∈ kept → ¬ replay.IsSent other ∧ other ∉ replay.dropped := by
    intro other hother
    rcases (hmem other).mp hother with hthere | rfl
    · exact ⟨fun hsent => (h.sound.sentApart other hsent).1 hthere, h.sound.pendingApart other hthere⟩
    · exact ⟨fun hsent => hfresh ((h.sound.placed _).mpr (.inl hsent)),
        fun hdrop => hfresh ((h.sound.placed _).mpr (.inr (.inr hdrop)))⟩
  have hsub : (replay.pendingClientFrames ++ [frame]).Sublist (replay.emitted ++ [frame]) :=
    h.ordered.append (List.Sublist.refl _)
  refine ⟨⟨⟨nodup_emitted h byteLength, hkeptNodup, ?_⟩, fun other => ?_, fun other hsent => ?_, fun other hkept => ?_, hfits,
    rfl, ?_, fun id client hget hready => (h.sound.greeted id client hget hready).append frame⟩, h.numbered,
    counted_emitted h byteLength, ?_, h.silent, fun id client hget hhello => (h.welcomed id client hget hhello).append frame⟩
  · refine List.nodup_append.mpr ⟨h.sound.nodup.2.2, hdroppedNodup, ?_⟩
    rintro other hold _ hdrop rfl
    exact (hnew other (.inl hdrop)).2 hold
  · exact hplaced other
  · have hapart := h.sound.sentApart other hsent
    refine ⟨fun hkept => (hnew other (.inr hkept)).1 hsent, fun hdrop => ?_⟩
    rcases List.mem_append.mp hdrop with hold | hdrop
    · exact hapart.2 hold
    · exact (hnew other (.inl hdrop)).1 hsent
  · intro hdrop
    rcases List.mem_append.mp hdrop with hold | hdrop
    · exact (hnew other (.inr hkept)).2 hold
    · exact hdisjoint other hdrop other hkept rfl
  · rw [hcount, h.sound.count, List.length_append]
  · have hkeptSub : kept.Sublist (dropped ++ kept) := List.sublist_append_right _ _
    rw [hall] at hkeptSub
    exact hkeptSub.trans hsub

variable {byteLength : Nat}

section

variable (h : Delivered replay) (hnone : replay.clients.values.any (·.isListening) = false)
include h hnone

/-- A frame that the buffer can hold is behind what stays. -/
theorem step_emit_stored (hsize : byteLength ≤ maxReplayBytes) :
    replay.step (.emit byteLength) = { replay with
      emitted := replay.emitted ++ [⟨replay.emitted.length, byteLength⟩]
      pendingClientFrames :=
        (evictFront (IsFull byteLength) replay.pendingClientFrames).2 ++ [⟨replay.emitted.length, byteLength⟩]
      pendingClientBytes := totalBytes
        ((evictFront (IsFull byteLength) replay.pendingClientFrames).2 ++ [⟨replay.emitted.length, byteLength⟩])
      droppedClientFrames := replay.droppedClientFrames +
        (evictFront (IsFull byteLength) replay.pendingClientFrames).1.length
      dropped := replay.dropped ++ (evictFront (IsFull byteLength) replay.pendingClientFrames).1 } := by
  have hbytes : ∀ frames : List Frame, (totalBytes frames : Int) + byteLength =
      (totalBytes (frames ++ [⟨replay.emitted.length, byteLength⟩]) : Int) := by
    intro frames
    rw [totalBytes_append, totalBytes_cons]
    simp [totalBytes]
  simp only [Replay.step, Replay.deliverClientFrame, hnone, Bool.false_eq_true, ↓reduceIte, Replay.queueClientFrame,
    mapValues_send _ hnone, h.sound.bytes, makeRoom_eq, Nat.not_lt.mpr hsize, hbytes]

/-- One that it cannot hold is dropped, with all that was buffered. -/
theorem step_emit_tooLarge (hsize : maxReplayBytes < byteLength) :
    replay.step (.emit byteLength) = { replay with
      emitted := replay.emitted ++ [⟨replay.emitted.length, byteLength⟩]
      pendingClientFrames := []
      pendingClientBytes := 0
      droppedClientFrames := replay.droppedClientFrames + replay.pendingClientFrames.length + 1
      dropped := replay.dropped ++ replay.pendingClientFrames ++ [⟨replay.emitted.length, byteLength⟩] } := by
  have hall : evictFront (IsFull byteLength) replay.pendingClientFrames = (replay.pendingClientFrames, []) :=
    evictFront_all _ fun frame post _ => .inr (by omega)
  have hzero : ((totalBytes [] : Nat) : Int) = 0 := rfl
  simp only [Replay.step, Replay.deliverClientFrame, hnone, Bool.false_eq_true, ↓reduceIte, Replay.queueClientFrame,
    mapValues_send _ hnone, h.sound.bytes, makeRoom_eq, hsize, hall, hzero]

end

/-! ## Every step -/

theorem Delivered.emit (h : Delivered replay) (hkept : ReplayKept replay (.emit byteLength) = true) :
    Delivered (replay.step (.emit byteLength)) := by
  cases hlisten : replay.clients.values.any (·.isListening) with
  | true => exact h.deliver byteLength hlisten
  | false =>
    rcases Nat.lt_or_ge maxReplayBytes byteLength with hsize | hsize
    · -- the frame is too large, and nothing is buffered
      have hnil : replay.pendingClientFrames = [] := by
        simpa [ReplayKept, hlisten, Nat.not_le.mpr hsize] using hkept
      rw [step_emit_tooLarge h hlisten hsize, hnil, List.append_nil]
      exact h.store byteLength (by rw [hnil]; rfl) ⟨Nat.zero_le _, Nat.zero_le _⟩ rfl
    · rw [step_emit_stored h hlisten hsize]
      refine h.store byteLength ?_ (fits_of_room h.sound.fits hsize) rfl
      rw [← List.append_assoc, evictFront_append]

variable {event : ReplayEvent}

theorem Delivered.step (h : Delivered replay) (hkept : ReplayKept replay event = true) :
    Delivered (replay.step event) := by
  cases event with
  | connect => exact h.connect
  | message id message =>
    simp only [Replay.step]
    split
    · exact h
    · next client hget =>
      have hclose : Delivered { replay with clients := replay.clients.set id client.close } :=
        h.setClient hget rfl rfl fun hready => hready
      split
      · exact h
      · next hopen =>
        cases message with
        | tooLarge => exact hclose
        | invalid => exact hclose
        | otherSession => exact hclose
        | hello =>
          simp only [Replay.handleDirectClientFrame]
          split
          · exact hclose
          · next hfirst =>
            simp only [ReplayKept, hget, Option.all_some, hfirst, hopen, decide_false, Bool.false_or,
              Bool.and_eq_true, decide_eq_true_eq] at hkept
            exact h.hello hget (by simpa using hfirst) hkept.2 hkept.1
        | control =>
          simp only [Replay.handleDirectClientFrame]
          split
          · exact h
          · exact hclose
  | leaving id => exact h.modifyClient id _ (fun _ => rfl) (fun _ => rfl) fun _ hready => hready
  | close id => exact h.modifyClient id _ (fun _ => rfl) (fun _ => rfl) (by rintro _ ⟨⟩)
  | launch =>
    exact ⟨⟨h.sound.nodup, h.sound.placed, h.sound.sentApart, h.sound.pendingApart, h.sound.fits, h.sound.bytes,
      h.sound.count, h.sound.greeted⟩, h.numbered, h.counted, h.ordered, h.silent, h.welcomed⟩
  | emit byteLength => exact h.emit hkept
  | teardown => exact h.mapClients _ (fun _ => rfl) (fun _ => rfl) (by rintro _ ⟨⟩)

theorem dropped_step (replay : Replay) (hevent : ∀ byteLength, event ≠ .emit byteLength) :
    (replay.step event).dropped = replay.dropped := by
  cases event with
  | emit byteLength => exact absurd rfl (hevent byteLength)
  | message id message =>
    simp only [Replay.step]
    split
    · rfl
    · split
      · rfl
      · cases message <;> simp only [Replay.handleDirectClientFrame, Replay.hello] <;> split <;> rfl
  | _ => rfl

theorem Delivered.justified (h : Delivered replay) (hkept : ReplayKept replay event = true) :
    IsJustified replay event := by
  cases event with
  | emit byteLength =>
    intro frame hmem hnew
    cases hlisten : replay.clients.values.any (·.isListening) with
    | true =>
      simp only [Replay.step, Replay.deliverClientFrame, hlisten, ↓reduceIte] at hmem
      exact absurd hmem hnew
    | false =>
      rcases Nat.lt_or_ge maxReplayBytes byteLength with hsize | hsize
      · have hnil : replay.pendingClientFrames = [] := by
          simpa [ReplayKept, hlisten, Nat.not_le.mpr hsize] using hkept
        rw [step_emit_tooLarge h hlisten hsize, hnil, List.append_nil, List.mem_append, List.mem_singleton] at hmem
        rw [hmem.resolve_left hnew]
        exact .inl hsize
      · rw [step_emit_stored h hlisten hsize, List.mem_append] at hmem
        obtain ⟨post, hsuffix, hfull⟩ := full_of_mem_evictFront _ (hmem.resolve_left hnew)
        refine .inr ⟨post ++ [⟨replay.emitted.length, byteLength⟩], ?_, ?_⟩
        · rw [arrived, if_pos hsize]
          obtain ⟨front, hfront⟩ := hsuffix
          exact ⟨front, by rw [← hfront, List.append_assoc, List.cons_append]⟩
        · rintro ⟨hlen, hbytes⟩
          rw [← List.cons_append, List.length_append, List.length_singleton] at hlen
          rw [← List.cons_append, totalBytes_append, totalBytes_cons] at hbytes
          rcases hfull with hmany | hlarge
          · omega
          · rw [totalBytes_cons] at hlarge
            simp [totalBytes] at hbytes hlarge
            omega
  | _ =>
    intro frame hmem hnew
    rw [dropped_step replay (by intro byteLength heq; cases heq)] at hmem
    exact absurd hmem hnew

/-- A step after which all is well has met the condition. -/
theorem Delivered.kept (h : Delivered replay) (hsound : ReplaySound (replay.step event))
    (hjustified : IsJustified replay event) : ReplayKept replay event = true := by
  cases event with
  | message id message =>
    cases message with
    | hello =>
      cases hget : replay.clients.get? id with
      | none => simp [ReplayKept, hget]
      | some client =>
        simp only [ReplayKept, hget, Option.all_some, Bool.or_eq_true, Bool.and_eq_true, decide_eq_true_eq]
        by_contra hbad
        simp only [not_or] at hbad
        obtain ⟨⟨hclose, hsaid⟩, hlost⟩ := hbad
        have hfirst : client.receivedClientHello = false := by simpa using hsaid
        have hnil : client.received = [] := (h.silent id client hget hfirst).1
        have hstep : replay.step (.message id .hello) = replay.hello id client := by
          simp [Replay.step, hget, hclose, Replay.handleDirectClientFrame, hfirst]
        rw [hstep] at hsound
        -- the client is ready, and its first frame is not the handshake
        obtain ⟨frames, hframes, -⟩ := hsound.greeted id _ (JsMap.get?_set_self _ _ _) rfl
        by_cases hopen : client.readyState = .isOpen
        · have hlaunch : replay.handshakeFrame = false := by
            by_contra hthere
            exact hlost ⟨by simpa using hthere, hopen⟩
          simp only [hlaunch, Bool.false_eq_true, ↓reduceIte, foldl_send client hopen, hnil, List.nil_append] at hframes
          cases hpend : replay.pendingClientFrames with
          | nil => simp [hpend] at hframes
          | cons frame rest => simp [hpend] at hframes
        · have hsend : client.send .handshake = client := if_neg hopen
          simp only [hsend, ite_self, foldl_send_lost client hopen, hnil] at hframes
          cases hframes
    | _ => rfl
  | emit byteLength =>
    by_contra hbad
    simp only [ReplayKept, Bool.or_eq_true, decide_eq_true_eq, not_or, List.isEmpty_iff] at hbad
    obtain ⟨⟨hsize, hpend⟩, hlisten⟩ := hbad
    have hnone : replay.clients.values.any (·.isListening) = false := by simpa using hlisten
    obtain ⟨frame, hmem⟩ := List.exists_mem_of_ne_nil _ hpend
    have hsize : maxReplayBytes < byteLength := Nat.lt_of_not_le hsize
    -- all that was buffered is dropped, though nothing came to be buffered after it
    have hdrop : frame ∈ (replay.step (.emit byteLength)).dropped := by
      rw [step_emit_tooLarge h hnone hsize]
      simp [hmem]
    have hfits : ∀ frames, frames <:+ replay.pendingClientFrames → Fits frames := fun _ => h.sound.fits.of_suffix
    rcases hjustified frame hdrop (h.sound.pendingApart frame hmem) with hlarge | ⟨post, hsuffix, hnot⟩
    · obtain ⟨front, rest, hsplit⟩ := List.append_of_mem hmem
      have hbytes := h.sound.fits.2
      rw [hsplit, totalBytes_append, totalBytes_cons] at hbytes
      omega
    · rw [arrived, if_neg (Nat.not_le.mpr hsize), List.append_nil] at hsuffix
      exact hnot (hfits _ hsuffix)
  | _ => rfl

end Steps

theorem Delivered.new : Delivered .new := by
  have hnone : ∀ id, Replay.new.clients.get? id = none := fun _ => rfl
  have hsent : ∀ frame, ¬ Replay.new.IsSent frame := by
    rintro frame ⟨id, client, hget, -⟩
    cases (hnone id).symm.trans hget
  refine ⟨⟨⟨List.nodup_nil, List.nodup_nil, List.nodup_nil⟩, fun frame => ?_, fun frame hframe => absurd hframe (hsent frame),
    nofun, ⟨Nat.zero_le _, Nat.zero_le _⟩, rfl, rfl, fun id client hget => ?_⟩, fun id client hget => ?_, nofun,
    List.nil_sublist _, fun id client hget => ?_, fun id client hget => ?_⟩
  · constructor
    · nofun
    · rintro (hframe | hframe | hframe)
      · exact absurd hframe (hsent frame)
      · cases hframe
      · cases hframe
  all_goals cases (hnone id).symm.trans hget

/-- From every state that has the invariant. -/
theorem Delivered.runMeets_iff {replay : Replay} (h : Delivered replay) (events : List ReplayEvent) :
    RunMeets Replay.step (fun replay event => ReplaySound (replay.step event) ∧ IsJustified replay event) replay events ↔
      RunMeets Replay.step (fun replay event => ReplayKept replay event = true) replay events :=
  runMeets_iff_of_invariant (I := Delivered)
    (fun _ _ h => ⟨fun hholds => h.kept hholds.1 hholds.2, fun hkept => ⟨(h.step hkept).sound, h.justified hkept⟩⟩)
    (fun _ _ h hkept => h.step hkept) h events

/-- In a run every frame is sent, buffered or dropped with reason, under exact counters, and every client that is ready
got the handshake and then frames in order, exactly if the steps of the run meet the condition. -/
theorem replay_sound_iff (events : List ReplayEvent) :
    RunMeets Replay.step (fun replay event => ReplaySound (replay.step event) ∧ IsJustified replay event) .new events ↔
      RunMeets Replay.step (fun replay event => ReplayKept replay event = true) .new events :=
  Delivered.new.runMeets_iff events

/-- A client says hello before there is a worker; and a frame that is too large drops the one that is buffered. -/
theorem hello_before_launch_or_large_frame :
    ¬ RunMeets Replay.step (fun replay event => ReplaySound (replay.step event) ∧ IsJustified replay event) .new
        [.connect, .message 0 .hello] ∧
      ¬ RunMeets Replay.step (fun replay event => ReplaySound (replay.step event) ∧ IsJustified replay event) .new
        [.launch, .emit 100, .emit 5000000] := by
  rw [Delivered.new.runMeets_iff, Delivered.new.runMeets_iff]
  decide +kernel

end Beale.AppServer
