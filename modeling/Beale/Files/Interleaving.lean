import Beale.Files.Mutation

/-!
# Calls of the file tools on one file

Each call reads the file, checks what it read, and then writes; other calls and
other programs may come in at every `await`.

- `Undisturbed`: nothing has changed the file since the call that changes it now has looked.
- `reached_comparedAndSwapped`: in the runs where that is so, calls replace what they read.
-/

namespace Beale.Files

open Beale.Library

/-! ## The file -/

/-- The inodes that the path has named, the one that it names now, and how often the file has changed. -/
structure Disk where
  inodes : List Bytes
  current : Option Nat
  version : Nat
  valid : ∀ inode, current = some inode → inode < inodes.length

namespace Disk

def contentOf (disk : Disk) (inode : Nat) : Bytes := disk.inodes.getD inode []

/-- What the path reads as, where the file exists. -/
def content (disk : Disk) : Option Bytes := disk.current.map disk.contentOf

/-- A new inode under the path: a file created or renamed to it. -/
def link (disk : Disk) (bytes : Bytes) : Disk where
  inodes := disk.inodes ++ [bytes]
  current := some disk.inodes.length
  version := disk.version + 1
  valid := by
    rintro inode heq
    cases heq
    rw [List.length_append]
    exact Nat.lt_succ_self _

/-- An inode with other bytes. The file has changed if the path still names it. -/
def store (disk : Disk) (inode : Nat) (bytes : Bytes) : Disk where
  inodes := disk.inodes.set inode bytes
  current := disk.current
  version := if disk.current = some inode then disk.version + 1 else disk.version
  valid := by
    intro other heq
    rw [List.length_set]
    exact disk.valid other heq

def unlink (disk : Disk) : Disk where
  inodes := disk.inodes
  current := none
  version := disk.version + 1
  valid := nofun

def writeAt (disk : Disk) (inode position : Nat) (chunk : Bytes) : Disk :=
  let content := disk.contentOf inode
  let padded := content ++ List.replicate (position - content.length) 0
  disk.store inode (padded.take position ++ chunk ++ content.drop (position + chunk.length))

variable {disk : Disk} {inode : Nat}

theorem version_store (h : disk.current = some inode) (bytes : Bytes) :
    (disk.store inode bytes).version = disk.version + 1 := if_pos h

theorem content_link (disk : Disk) (bytes : Bytes) : (disk.link bytes).content = some bytes := by
  simp [content, contentOf, link]

theorem contentOf_store (h : disk.current = some inode) (bytes : Bytes) :
    (disk.store inode bytes).contentOf inode = bytes := by
  simp [contentOf, store, disk.valid inode h]

theorem contentOf_writeAt (h : disk.current = some inode) {written : Bytes}
    (hcont : disk.contentOf inode = written) (chunk : Bytes) :
    (disk.writeAt inode written.length chunk).contentOf inode = written ++ chunk := by
  rw [writeAt, contentOf_store h, hcont]
  simp

/-- The file has changed, and its version with it, or it is what it was. -/
def Advances (disk disk' : Disk) : Prop :=
  disk.version < disk'.version ∨
    disk'.version = disk.version ∧ disk'.current = disk.current ∧
      ∀ inode, disk.current = some inode → disk'.contentOf inode = disk.contentOf inode

theorem Advances.refl (disk : Disk) : Advances disk disk := .inr ⟨rfl, rfl, fun _ _ => rfl⟩

theorem advances_link (disk : Disk) (bytes : Bytes) : Advances disk (disk.link bytes) := .inl (Nat.lt_succ_self _)

theorem advances_unlink (disk : Disk) : Advances disk disk.unlink := .inl (Nat.lt_succ_self _)

theorem advances_store (disk : Disk) (inode : Nat) (bytes : Bytes) : Advances disk (disk.store inode bytes) := by
  by_cases h : disk.current = some inode
  · refine .inl ?_
    rw [version_store h]
    exact Nat.lt_succ_self _
  · refine .inr ⟨if_neg h, rfl, fun other hother => ?_⟩
    have hne : inode ≠ other := by
      rintro rfl
      exact h hother
    simp [contentOf, store, hne]

theorem Advances.version_le {disk' : Disk} (h : Advances disk disk') : disk.version ≤ disk'.version := by
  rcases h with hlt | ⟨heq, -, -⟩
  · exact hlt.le
  · exact heq.ge

theorem Advances.content {disk' : Disk} (h : Advances disk disk') (heq : disk'.version = disk.version) :
    disk'.current = disk.current ∧ ∀ inode, disk.current = some inode → disk'.contentOf inode = disk.contentOf inode := by
  rcases h with hlt | ⟨-, hsame⟩
  · omega
  · exact hsame

end Disk

/-! ## A call -/

/-- What a call that succeeded has done: the version it read, the bytes it replaced, and what it left. -/
structure Applied where
  readAt : Nat
  replaced : Option Bytes
  leftAt : Nat
  left : Option Bytes
deriving DecidableEq

inductive Phase where
  | waiting
  /-- `open(path, "r")` has returned. -/
  | opened (inode readAt : Nat)
  | reading (inode readAt : Nat) (bytes : Bytes)
  /-- The checks are over, and `mkdir` is awaited. -/
  | checked (readAt : Nat) (existing : Option Bytes) (bytes : Bytes)
  /-- `writeFile` has opened the file, and has written some bytes; `seen` is the version that it left. -/
  | writing (inode readAt : Nat) (replaced : Option Bytes) (written rest : Bytes) (seen : Nat)
  | succeeded (applied : Applied)
  | failed
deriving DecidableEq

structure Call where
  input : MutationInput
  managed : Bool
  phase : Phase

/-- What a call does next. A read and a write may come short: the number is how far they come. -/
inductive Move where
  | openFile
  | stat
  | read (n : Nat)
  | write
  | writeChunk (n : Nat)
  | fail

section

variable (digest : Bytes → JsString)

def check (input : MutationInput) (readAt : Nat) (existing : Option Bytes) : Phase :=
  match nextContent digest input existing with
  | .ok bytes => .checked readAt existing bytes
  | .error _ => .failed

/-- What a call does between two awaits. -/
def Call.perform (call : Call) (disk : Disk) (move : Move) : Disk × Phase :=
  match move, call.phase with
  | .openFile, .waiting =>
    match disk.current with
    | none => (disk, check digest call.input disk.version none)
    | some inode => (disk, .opened inode disk.version)
  | .stat, .opened inode readAt =>
    (disk, if maxFileBytes < (disk.contentOf inode).length then .failed else .reading inode readAt [])
  | .read n, .reading inode readAt bytes =>
    let chunk := ((disk.contentOf inode).drop bytes.length).take (min (n + 1) (maxFileBytes + 1 - bytes.length))
    if chunk = [] then (disk, check digest call.input readAt (some bytes))
    else if maxFileBytes < (bytes ++ chunk).length then (disk, .failed)
    else (disk, .reading inode readAt (bytes ++ chunk))
  | .write, .checked readAt existing bytes =>
    if call.managed && existing.isSome then
      (disk.link bytes, .succeeded ⟨readAt, disk.content, disk.version + 1, (disk.link bytes).content⟩)
    else
      match disk.current with
      | some inode =>
        -- `flag: existing ? "w" : "wx"`
        if existing.isSome then (disk.store inode [], .writing inode readAt disk.content [] bytes (disk.version + 1))
        else (disk, .failed)
      | none => (disk.link [], .writing disk.inodes.length readAt none [] bytes (disk.version + 1))
  | .writeChunk n, .writing inode readAt replaced written rest _ =>
    let chunk := rest.take (n + 1)
    let disk' := disk.writeAt inode written.length chunk
    if rest.drop (n + 1) = [] then (disk', .succeeded ⟨readAt, replaced, disk'.version, disk'.content⟩)
    else (disk', .writing inode readAt replaced (written ++ chunk) (rest.drop (n + 1)) disk'.version)
  | .fail, .succeeded applied => (disk, .succeeded applied)
  | .fail, _ => (disk, .failed)
  | _, phase => (disk, phase)

/-! ## Runs -/

/-- The file, and the calls of the tools on it. -/
structure State where
  disk : Disk
  calls : List Call

inductive Event where
  | move (call : Nat) (move : Move)
  | overwrite (inode : Nat) (bytes : Bytes)
  | replace (bytes : Bytes)
  | remove

def step (s : State) : Event → State
  | .move i move =>
    match s.calls[i]? with
    | none => s
    | some call =>
      let (disk, phase) := call.perform digest s.disk move
      { disk, calls := s.calls.set i { call with phase } }
  | .overwrite inode bytes => { s with disk := s.disk.store inode bytes }
  | .replace bytes => { s with disk := s.disk.link bytes }
  | .remove => { s with disk := s.disk.unlink }

def start (disk : Disk) (calls : List (MutationInput × Bool)) : State where
  disk := disk
  calls := calls.map fun call => ⟨call.1, call.2, .waiting⟩

end

/-- A call that changes the file finds it as it was when it read it, or as it left it itself; and
what an edit writes has no unpaired surrogate. -/
def Call.undisturbed (call : Call) (disk : Disk) : Move → Bool
  | .write =>
    match call.phase with
    | .checked readAt existing _ =>
      existing.isNone && disk.current.isSome || disk.version = readAt && staysWellFormed call.input existing
    | _ => true
  | .writeChunk _ =>
    match call.phase with
    | .writing _ _ _ _ _ seen => disk.version = seen
    | _ => true
  | _ => true

def Undisturbed (s : State) : Event → Prop
  | .move i move => s.calls[i]?.all (·.undisturbed s.disk move) = true
  | _ => True

instance Undisturbed.decidable (s : State) : (event : Event) → Decidable (Undisturbed s event)
  | .move i move => inferInstanceAs (Decidable (s.calls[i]?.all (·.undisturbed s.disk move) = true))
  | .overwrite _ _ | .replace _ | .remove => .isTrue trivial

/-- Each call that succeeded has replaced the bytes it read by what it was asked for, and of two of
them one has read the file after the other had left it. -/
structure ComparedAndSwapped (digest : Bytes → JsString) (s : State) : Prop where
  asked : ∀ call ∈ s.calls, ∀ applied, call.phase = .succeeded applied →
    ∃ left, applied.left = some left ∧ WrittenAsAsked digest call.input applied.replaced left
  once : ∀ (i j : Nat) (call call' : Call) (applied applied' : Applied), i ≠ j → s.calls[i]? = some call → s.calls[j]? = some call' →
    call.phase = .succeeded applied → call'.phase = .succeeded applied' →
    applied.readAt ≠ applied'.readAt ∧ (applied.leftAt ≤ applied'.readAt ∨ applied'.leftAt ≤ applied.readAt)

/-! ## What a call knows -/

section

variable {digest : Bytes → JsString}

inductive Call.Performed (digest : Bytes → JsString) (call : Call) (disk : Disk) : Move → Disk → Phase → Prop where
  | stays (move : Move) : Performed digest call disk move disk call.phase
  | fails (move : Move) : Performed digest call disk move disk .failed
  | opened {inode : Nat} (hcurrent : disk.current = some inode) :
      Performed digest call disk .openFile disk (.opened inode disk.version)
  | begun {inode readAt : Nat} (hphase : call.phase = .opened inode readAt) :
      Performed digest call disk .stat disk (.reading inode readAt [])
  | read {n inode readAt : Nat} {bytes chunk : Bytes} (hphase : call.phase = .reading inode readAt bytes)
      (hchunk : chunk <+: (disk.contentOf inode).drop bytes.length) (hlen : (bytes ++ chunk).length ≤ maxFileBytes) :
      Performed digest call disk (.read n) disk (.reading inode readAt (bytes ++ chunk))
  | absent {bytes : Bytes} (hcurrent : disk.current = none) (hnext : nextContent digest call.input none = .ok bytes) :
      Performed digest call disk .openFile disk (.checked disk.version none bytes)
  | checked {n inode readAt : Nat} {existing bytes : Bytes} (hphase : call.phase = .reading inode readAt existing)
      (hend : existing.length ≤ maxFileBytes → (disk.contentOf inode).drop existing.length = [])
      (hnext : nextContent digest call.input (some existing) = .ok bytes) :
      Performed digest call disk (.read n) disk (.checked readAt (some existing) bytes)
  | renamed {readAt : Nat} {existing : Option Bytes} {bytes : Bytes} (hphase : call.phase = .checked readAt existing bytes)
      (hexists : existing.isSome = true) :
      Performed digest call disk .write (disk.link bytes)
        (.succeeded ⟨readAt, disk.content, disk.version + 1, (disk.link bytes).content⟩)
  | truncated {readAt inode : Nat} {existing : Option Bytes} {bytes : Bytes} (hphase : call.phase = .checked readAt existing bytes)
      (hexists : existing.isSome = true) (hcurrent : disk.current = some inode) :
      Performed digest call disk .write (disk.store inode []) (.writing inode readAt disk.content [] bytes (disk.version + 1))
  | created {readAt : Nat} {existing : Option Bytes} {bytes : Bytes} (hphase : call.phase = .checked readAt existing bytes)
      (hcurrent : disk.current = none) :
      Performed digest call disk .write (disk.link []) (.writing disk.inodes.length readAt none [] bytes (disk.version + 1))
  | finished {n inode readAt seen : Nat} {replaced : Option Bytes} {written rest : Bytes}
      (hphase : call.phase = .writing inode readAt replaced written rest seen) :
      Performed digest call disk (.writeChunk n) (disk.writeAt inode written.length rest)
        (.succeeded ⟨readAt, replaced, (disk.writeAt inode written.length rest).version, (disk.writeAt inode written.length rest).content⟩)
  | wrote {n inode readAt seen : Nat} {replaced : Option Bytes} {written rest chunk rest' : Bytes}
      (hphase : call.phase = .writing inode readAt replaced written rest seen) (hrest : rest = chunk ++ rest') :
      Performed digest call disk (.writeChunk n) (disk.writeAt inode written.length chunk)
        (.writing inode readAt replaced (written ++ chunk) rest' (disk.writeAt inode written.length chunk).version)

variable (digest) in
theorem check_cases (input : MutationInput) (readAt : Nat) (existing : Option Bytes) :
    check digest input readAt existing = .failed ∨
      ∃ bytes, nextContent digest input existing = .ok bytes ∧ check digest input readAt existing = .checked readAt existing bytes := by
  rw [check]
  cases hnext : nextContent digest input existing with
  | ok bytes => exact .inr ⟨bytes, rfl, rfl⟩
  | error e => exact .inl rfl

theorem Call.performed (call : Call) (disk : Disk) (move : Move) :
    call.Performed digest disk move (call.perform digest disk move).1 (call.perform digest disk move).2 := by
  fun_cases Call.perform digest call disk move with
  | case1 hphase hcurrent =>
    rcases check_cases digest call.input disk.version none with heq | ⟨bytes, hnext, heq⟩
    · rw [heq]
      exact .fails _
    · rw [heq]
      exact .absent hcurrent hnext
  | case2 hphase inode hcurrent => exact .opened hcurrent
  | case3 inode readAt hphase =>
    by_cases hsize : maxFileBytes < (disk.contentOf inode).length
    · rw [if_pos hsize]
      exact .fails _
    · rw [if_neg hsize]
      exact .begun hphase
  | case4 n inode readAt bytes hphase chunk hchunk =>
    rcases check_cases digest call.input readAt (some bytes) with heq | ⟨next, hnext, heq⟩
    · rw [heq]
      exact .fails _
    · rw [heq]
      refine .checked hphase (fun hlen => ?_) hnext
      rcases List.take_eq_nil_iff.mp hchunk with hzero | hend
      · omega
      · exact hend
  | case5 => exact .fails _
  | case6 n inode readAt bytes hphase chunk hchunk hlen =>
    exact .read hphase (List.take_prefix _ _) (Nat.le_of_not_lt hlen)
  | case7 readAt existing bytes hphase hmanaged => exact .renamed hphase (Bool.and_eq_true_iff.mp hmanaged).2
  | case8 readAt existing bytes hphase hmanaged inode hcurrent hexists => exact .truncated hphase hexists hcurrent
  | case9 => exact .fails _
  | case10 readAt existing bytes hphase hmanaged hcurrent => exact .created hphase hcurrent
  | case11 n inode readAt replaced written rest seen hphase chunk disk' hrest =>
    have hchunk : chunk = rest := by
      have hsplit := List.take_append_drop (n + 1) rest
      rwa [hrest, List.append_nil] at hsplit
    have hdisk : disk' = disk.writeAt inode written.length rest := congrArg (disk.writeAt inode written.length) hchunk
    rw [hdisk]
    exact .finished hphase
  | case12 n inode readAt replaced written rest seen hphase chunk disk' hrest =>
    exact .wrote hphase (List.take_append_drop _ _).symm
  | case13 applied hphase =>
    rw [← hphase]
    exact .stays _
  | case14 => exact .fails _
  | case15 => exact .stays _

/-- What a call knows of the file in each phase, as long as nothing has changed it. -/
def PhaseSound (digest : Bytes → JsString) (disk : Disk) (input : MutationInput) : Phase → Prop
  | .waiting => True
  | .opened inode readAt => readAt ≤ disk.version ∧ (readAt = disk.version → disk.current = some inode)
  | .reading inode readAt bytes =>
    readAt ≤ disk.version ∧ bytes.length ≤ maxFileBytes ∧
      (readAt = disk.version → disk.current = some inode ∧ bytes <+: disk.contentOf inode)
  | .checked readAt existing bytes =>
    readAt ≤ disk.version ∧ nextContent digest input existing = .ok bytes ∧ (readAt = disk.version → disk.content = existing)
  | .writing inode readAt replaced written rest seen =>
    readAt < seen ∧ seen ≤ disk.version ∧ WrittenAsAsked digest input replaced (written ++ rest) ∧
      (seen = disk.version → disk.current = some inode ∧ disk.contentOf inode = written)
  | .succeeded applied =>
    applied.readAt < applied.leftAt ∧ applied.leftAt ≤ disk.version ∧
      ∃ left, applied.left = some left ∧ WrittenAsAsked digest input applied.replaced left
  | .failed => True

variable {disk disk' : Disk} {phase : Phase} {input : MutationInput}

/-- What changes the file leaves a call with what it knew, or with nothing that it could write by. -/
theorem PhaseSound.advance (h : PhaseSound digest disk input phase)
    (hadvances : disk.Advances disk') : PhaseSound digest disk' input phase := by
  have hle := hadvances.version_le
  cases phase with
  | waiting => trivial
  | opened inode readAt =>
    obtain ⟨hread, hcurrent⟩ := h
    refine ⟨hread.trans hle, fun heq => ?_⟩
    obtain ⟨hsame, -⟩ := hadvances.content (by omega)
    rw [hsame]
    exact hcurrent (by omega)
  | reading inode readAt bytes =>
    obtain ⟨hread, hlen, hcurrent⟩ := h
    refine ⟨hread.trans hle, hlen, fun heq => ?_⟩
    obtain ⟨hsame, hcont⟩ := hadvances.content (by omega)
    obtain ⟨hinode, hbytes⟩ := hcurrent (by omega)
    rw [hsame, hcont inode hinode]
    exact ⟨hinode, hbytes⟩
  | checked readAt existing bytes =>
    obtain ⟨hread, hnext, hex⟩ := h
    refine ⟨hread.trans hle, hnext, fun heq => ?_⟩
    obtain ⟨hsame, hcont⟩ := hadvances.content (by omega)
    rw [← hex (by omega), Disk.content, Disk.content, hsame]
    exact Option.map_congr fun inode hinode => hcont inode hinode
  | writing inode readAt replaced written rest seen =>
    obtain ⟨hread, hseen, hasked, hcurrent⟩ := h
    refine ⟨hread, hseen.trans hle, hasked, fun heq => ?_⟩
    obtain ⟨hsame, hcont⟩ := hadvances.content (by omega)
    obtain ⟨hinode, hwr⟩ := hcurrent (by omega)
    rw [hsame, hcont inode hinode]
    exact ⟨hinode, hwr⟩
  | succeeded applied => exact ⟨h.1, h.2.1.trans hle, h.2.2⟩
  | failed => trivial

variable {call : Call}

theorem undisturbed_write {readAt : Nat} {existing : Option Bytes} {bytes : Bytes}
    (hphase : call.phase = .checked readAt existing bytes) (h : call.undisturbed disk .write = true)
    (hwrites : existing.isSome = true ∨ disk.current = none) :
    disk.version = readAt ∧ staysWellFormed call.input existing = true := by
  rw [Call.undisturbed, hphase] at h
  have hnot : (existing.isNone && disk.current.isSome) = false := by
    rcases hwrites with hexists | hcurrent
    · rw [← Option.not_isSome, hexists]
      rfl
    · rw [hcurrent, Option.isSome_none, Bool.and_false]
  simp only [hnot, Bool.false_or, Bool.and_eq_true, decide_eq_true_eq] at h
  exact h

theorem undisturbed_writeChunk {n inode readAt seen : Nat} {replaced : Option Bytes}
    {written rest : Bytes} (hphase : call.phase = .writing inode readAt replaced written rest seen)
    (h : call.undisturbed disk (.writeChunk n) = true) : seen = disk.version := by
  rw [Call.undisturbed, hphase] at h
  exact (of_decide_eq_true h).symm

variable {move : Move}

theorem Call.Performed.advances
    (h : call.Performed digest disk move disk' phase) : disk.Advances disk' := by
  cases h with
  | stays | fails | opened | begun | read | absent | checked => exact Disk.Advances.refl _
  | renamed | created => exact Disk.advances_link _ _
  | truncated | finished | wrote => exact Disk.advances_store _ _ _

/-- A move that is not disturbed keeps what the call knows. -/
theorem Call.Performed.sound
    (h : call.Performed digest disk move disk' phase) (hsound : PhaseSound digest disk call.input call.phase)
    (hcalm : call.undisturbed disk move = true) : PhaseSound digest disk' call.input phase := by
  cases h with
  | stays => exact hsound
  | fails => trivial
  | opened hcurrent => exact ⟨le_rfl, fun _ => hcurrent⟩
  | begun hphase =>
    rw [hphase] at hsound
    exact ⟨hsound.1, Nat.zero_le _, fun heq => ⟨hsound.2 heq, List.nil_prefix⟩⟩
  | @read n inode readAt bytes chunk hphase hchunk hlen =>
    rw [hphase] at hsound
    refine ⟨hsound.1, hlen, fun heq => ?_⟩
    obtain ⟨hinode, rest, hrest⟩ := hsound.2.2 heq
    rw [← hrest, List.drop_left] at hchunk
    refine ⟨hinode, ?_⟩
    rw [← hrest]
    exact (List.prefix_append_right_inj _).mpr hchunk
  | absent hcurrent hnext =>
    refine ⟨le_rfl, hnext, fun _ => ?_⟩
    rw [Disk.content, hcurrent]
    rfl
  | @checked n inode readAt existing bytes hphase hend hnext =>
    rw [hphase] at hsound
    refine ⟨hsound.1, hnext, fun heq => ?_⟩
    obtain ⟨hinode, rest, hrest⟩ := hsound.2.2 heq
    have hnil := hend hsound.2.1
    rw [← hrest, List.drop_left] at hnil
    rw [Disk.content, hinode, Option.map_some, ← hrest, hnil, List.append_nil]
  | renamed hphase hexists =>
    obtain ⟨hver, hwell⟩ := undisturbed_write hphase hcalm (.inl hexists)
    rw [hphase] at hsound
    obtain ⟨-, hnext, hex⟩ := hsound
    refine ⟨?_, le_rfl, _, Disk.content_link _ _, ?_⟩
    · exact Nat.lt_succ_of_le hver.ge
    · rw [hex hver.symm]
      exact nextContent_sound hnext hwell
  | truncated hphase hexists hcurrent =>
    obtain ⟨hver, hwell⟩ := undisturbed_write hphase hcalm (.inl hexists)
    rw [hphase] at hsound
    obtain ⟨-, hnext, hex⟩ := hsound
    refine ⟨by omega, (Disk.version_store hcurrent _).ge, ?_, fun _ => ⟨hcurrent, Disk.contentOf_store hcurrent _⟩⟩
    rw [hex hver.symm]
    exact nextContent_sound hnext hwell
  | created hphase hcurrent =>
    obtain ⟨hver, hwell⟩ := undisturbed_write hphase hcalm (.inr hcurrent)
    rw [hphase] at hsound
    obtain ⟨-, hnext, hex⟩ := hsound
    have hnone := hex hver.symm
    rw [Disk.content, hcurrent] at hnone
    refine ⟨by omega, le_rfl, ?_, fun _ => ⟨rfl, ?_⟩⟩
    · rw [Option.map_none] at hnone
      rw [hnone]
      exact nextContent_sound hnext hwell
    · exact Option.some.inj (Disk.content_link disk [])
  | finished hphase =>
    have hseen := undisturbed_writeChunk hphase hcalm
    rw [hphase] at hsound
    obtain ⟨hread, -, hasked, hknown⟩ := hsound
    obtain ⟨hcurrent, hwr⟩ := hknown hseen
    refine ⟨?_, le_rfl, _, ?_, hasked⟩
    · rw [Disk.writeAt, Disk.version_store hcurrent]
      exact (hread.trans_eq hseen).trans (Nat.lt_succ_self _)
    · rw [Disk.content]
      show disk.current.map _ = _
      rw [hcurrent, Option.map_some, Disk.contentOf_writeAt hcurrent hwr]
  | wrote hphase hrest =>
    have hseen := undisturbed_writeChunk hphase hcalm
    rw [hphase] at hsound
    obtain ⟨hread, -, hasked, hknown⟩ := hsound
    obtain ⟨hcurrent, hwr⟩ := hknown hseen
    refine ⟨?_, le_rfl, ?_, fun _ => ⟨hcurrent, Disk.contentOf_writeAt hcurrent hwr _⟩⟩
    · rw [Disk.writeAt, Disk.version_store hcurrent]
      omega
    · rw [List.append_assoc, ← hrest]
      exact hasked

/-! ## Two calls -/

/-- Of two calls that have written, one read after the other left; and a call that can go on writing
has read after each one that is through. -/
def Ordered (version : Nat) : Phase → Phase → Prop
  | .succeeded applied, .succeeded applied' => applied.leftAt ≤ applied'.readAt ∨ applied'.leftAt ≤ applied.readAt
  | .succeeded applied, .writing _ readAt _ _ _ seen => seen = version → applied.leftAt ≤ readAt
  | _, _ => True

variable {applied : Applied}

/-- The call that moves has read after every one that is through already. -/
theorem Call.Performed.ordered
    (h : call.Performed digest disk move disk' phase) (hcalm : call.undisturbed disk move = true)
    (hleft : applied.leftAt ≤ disk.version)
    (hord : Ordered disk.version (.succeeded applied) call.phase) : Ordered disk'.version (.succeeded applied) phase := by
  cases h with
  | stays => exact hord
  | fails | opened | begun | read | absent | checked => trivial
  | renamed hphase hexists =>
    obtain ⟨hver, -⟩ := undisturbed_write hphase hcalm (.inl hexists)
    exact .inl (hver ▸ hleft)
  | truncated hphase hexists hcurrent =>
    obtain ⟨hver, -⟩ := undisturbed_write hphase hcalm (.inl hexists)
    exact fun _ => hver ▸ hleft
  | created hphase hcurrent =>
    obtain ⟨hver, -⟩ := undisturbed_write hphase hcalm (.inr hcurrent)
    exact fun _ => hver ▸ hleft
  | finished hphase =>
    rw [hphase] at hord
    exact .inl (hord (undisturbed_writeChunk hphase hcalm))
  | wrote hphase =>
    rw [hphase] at hord
    exact fun _ => hord (undisturbed_writeChunk hphase hcalm)

/-- A call that is through has changed the file with its last move. -/
theorem Call.Performed.succeeded
    (h : call.Performed digest disk move disk' (.succeeded applied)) (hsound : PhaseSound digest disk call.input call.phase)
    (hcalm : call.undisturbed disk move = true) :
    call.phase = .succeeded applied ∧ disk' = disk ∨ disk.version < disk'.version := by
  generalize hphase : Phase.succeeded applied = phase at h
  cases h with
  | stays => exact .inl ⟨rfl, rfl⟩
  | fails | opened | begun | read | absent | checked | truncated | created | wrote => cases hphase
  | renamed => exact .inr (Nat.lt_succ_self _)
  | finished hwrite =>
    have hseen := undisturbed_writeChunk hwrite hcalm
    rw [hwrite] at hsound
    obtain ⟨hcurrent, -⟩ := hsound.2.2.2 hseen
    refine .inr ?_
    rw [Disk.writeAt, Disk.version_store hcurrent]
    exact Nat.lt_succ_self _

/-- What holds of the file and the calls on it. -/
structure CallsSound (digest : Bytes → JsString) (s : State) : Prop where
  sound : ∀ call ∈ s.calls, PhaseSound digest s.disk call.input call.phase
  ordered : ∀ (i j : Nat) (call call' : Call), i ≠ j → s.calls[i]? = some call → s.calls[j]? = some call' →
    Ordered s.disk.version call.phase call'.phase

/-- The order of two calls is kept where the file advances. -/
theorem Ordered.advance {phase' : Phase}
    (h : Ordered disk.version phase phase') (hsound : PhaseSound digest disk input phase') (hadvances : disk.Advances disk') :
    Ordered disk'.version phase phase' := by
  have hle := hadvances.version_le
  cases phase with
  | succeeded applied =>
    cases phase' with
    | succeeded applied' => exact h
    | writing inode readAt replaced written rest seen =>
      intro heq
      have hseen : seen ≤ disk.version := hsound.2.1
      exact h (by omega)
    | _ => trivial
  | _ => trivial

variable {s : State}

theorem CallsSound.changed (h : CallsSound digest s) (hadvances : s.disk.Advances disk) :
    CallsSound digest { s with disk } where
  sound call hcall := (h.sound call hcall).advance hadvances
  ordered i j call call' hne hcall hcall' :=
    (h.ordered i j call call' hne hcall hcall').advance (h.sound call' (List.mem_of_getElem? hcall')) hadvances

theorem Ordered.symm {version : Nat} {applied' : Applied} (h : Ordered version (.succeeded applied) (.succeeded applied')) :
    Ordered version (.succeeded applied') (.succeeded applied) := Or.symm h

theorem CallsSound.moved (h : CallsSound digest s) {i : Nat} (hcall : s.calls[i]? = some call)
    (hperf : call.Performed digest s.disk move disk phase)
    (hcalm : call.undisturbed s.disk move = true) :
    CallsSound digest { disk, calls := s.calls.set i { call with phase } } := by
  have hknown := h.sound call (List.mem_of_getElem? hcall)
  have hadvances := hperf.advances
  have hsound := hperf.sound hknown hcalm
  refine ⟨fun other hother => ?_, fun j k callj callk hne hj hk => ?_⟩
  · rcases List.mem_or_eq_of_mem_set hother with hother | rfl
    · exact (h.sound other hother).advance hadvances
    · exact hsound
  · rw [List.getElem?_set] at hj hk
    by_cases hij : i = j
    · -- the call that moved comes first: only one that is through matters
      subst hij
      rw [if_neg hne] at hk
      rw [if_pos rfl, if_pos (List.getElem?_eq_some_iff.mp hcall).1] at hj
      cases hj
      cases phase with
      | succeeded applied =>
        have hother := h.sound callk (List.mem_of_getElem? hk)
        rcases hperf.succeeded hknown hcalm with ⟨hphase, rfl⟩ | hlt
        · have hord := h.ordered i k call callk hne hcall hk
          rwa [hphase] at hord
        · cases hphase : callk.phase with
          | succeeded applied' =>
            rw [hphase] at hother
            have hord := h.ordered k i callk call (Ne.symm hne) hk hcall
            rw [hphase] at hord
            exact (hperf.ordered hcalm hother.2.1 hord).symm
          | writing inode readAt replaced written rest seen =>
            rw [hphase] at hother
            intro heq
            have hseen : seen ≤ s.disk.version := hother.2.1
            exact absurd (heq ▸ hseen) (Nat.not_le_of_lt hlt)
          | _ => trivial
      | _ => trivial
    · rw [if_neg hij] at hj
      by_cases hik : i = k
      · subst hik
        rw [if_pos rfl, if_pos (List.getElem?_eq_some_iff.mp hcall).1] at hk
        cases hk
        have hord := h.ordered j i callj call hne hj hcall
        have hfirst := h.sound callj (List.mem_of_getElem? hj)
        cases hphase : callj.phase with
        | succeeded applied =>
          rw [hphase] at hord hfirst
          exact hperf.ordered hcalm hfirst.2.1 hord
        | _ => trivial
      · rw [if_neg hik] at hk
        exact (h.ordered j k callj callk hne hj hk).advance (h.sound callk (List.mem_of_getElem? hk)) hadvances

/-- **A step that is not disturbed keeps the calls sound.** -/
theorem CallsSound.step {event : Event} (h : CallsSound digest s) (hcalm : Undisturbed s event) :
    CallsSound digest (step digest s event) := by
  cases event with
  | overwrite inode bytes => exact h.changed (Disk.advances_store _ _ _)
  | replace bytes => exact h.changed (Disk.advances_link _ _)
  | remove => exact h.changed (Disk.advances_unlink _)
  | move i move =>
    cases hcall : s.calls[i]? with
    | none =>
      simp only [Files.step, hcall]
      exact h
    | some call =>
      rw [Undisturbed, hcall] at hcalm
      simp only [Files.step, hcall]
      exact h.moved hcall (call.performed s.disk move) hcalm

theorem callsSound_start (disk : Disk) (calls : List (MutationInput × Bool)) : CallsSound digest (start disk calls) := by
  have hwait : ∀ call ∈ (start disk calls).calls, call.phase = .waiting := by
    rintro call hcall
    obtain ⟨_, -, rfl⟩ := List.mem_map.mp hcall
    rfl
  refine ⟨fun call hcall => ?_, fun i j call call' _ hcall hcall' => ?_⟩
  · rw [hwait call hcall]
    trivial
  · rw [hwait call (List.mem_of_getElem? hcall)]
    trivial

theorem CallsSound.comparedAndSwapped (h : CallsSound digest s) : ComparedAndSwapped digest s where
  asked call hcall applied hphase := by
    have hsound := h.sound call hcall
    rw [hphase] at hsound
    exact hsound.2.2
  once i j call call' applied applied' hne hcall hcall' hphase hphase' := by
    have hsound := h.sound call (List.mem_of_getElem? hcall)
    have hsound' := h.sound call' (List.mem_of_getElem? hcall')
    have hord := h.ordered i j call call' hne hcall hcall'
    rw [hphase] at hsound hord
    rw [hphase'] at hsound' hord
    have hread : applied.readAt < applied.leftAt := hsound.1
    have hread' : applied'.readAt < applied'.leftAt := hsound'.1
    refine ⟨?_, hord⟩
    rcases hord with hle | hle
    · omega
    · omega

/-- **In a run in which nothing disturbs the calls that write, they replace the bytes they read, by
what they were asked for, and no two of them the same version.** -/
theorem reached_comparedAndSwapped (disk : Disk) (calls : List (MutationInput × Bool)) {events : List Event}
    (h : RunMeets (step digest) Undisturbed (start disk calls) events) :
    ComparedAndSwapped digest (runSteps (step digest) (start disk calls) events) :=
  (runSteps_invariant_of_meets (fun _ _ hs hmeets => hs.step hmeets) (callsSound_start disk calls) h).comparedAndSwapped

end

def sampleDigest (bytes : Bytes) : JsString := bytes.map fun b => UInt16.ofNat b.toNat

/-- The file reads `hi`. -/
def sampleDisk : Disk := ⟨[[104, 105]], some 0, 0, by rintro inode ⟨⟩; decide⟩

/-- One call writes `ho`, the other makes the `i` of `hi` an `e`. -/
def sampleCalls : List (MutationInput × Bool) := [
  (⟨.write, some (.str (js "ho")), none, none, some (.str (js "hi")), none⟩, false),
  (⟨.edit, none, some (.str (js "i")), some (.str (js "e")), some (.str (js "hi")), none⟩, false)]

def reads (call : Nat) : List Event := [.move call .openFile, .move call .stat, .move call (.read 1), .move call (.read 0)]

def writes (call : Nat) : List Event := [.move call .write, .move call (.writeChunk 0), .move call (.writeChunk 0)]

theorem reached_comparedAndSwapped_oneByOne :
    ComparedAndSwapped sampleDigest (runSteps (step sampleDigest) (start sampleDisk sampleCalls) (reads 1 ++ writes 1 ++ reads 0 ++ writes 0)) :=
  reached_comparedAndSwapped sampleDisk sampleCalls (by decide +kernel)

/-- Both calls read `hi`, both succeed, and the first one's text is gone. -/
theorem both_applied :
    ¬ ComparedAndSwapped sampleDigest (runSteps (step sampleDigest) (start sampleDisk sampleCalls) (reads 0 ++ reads 1 ++ writes 0 ++ writes 1)) := by
  intro h
  have hfirst : ((runSteps (step sampleDigest) (start sampleDisk sampleCalls) (reads 0 ++ reads 1 ++ writes 0 ++ writes 1)).calls[0]?.map (·.phase)) =
      some (.succeeded ⟨0, some [104, 105], 3, some (encodeUtf8 (js "ho"))⟩) := by decide +kernel
  have hsecond : ((runSteps (step sampleDigest) (start sampleDisk sampleCalls) (reads 0 ++ reads 1 ++ writes 0 ++ writes 1)).calls[1]?.map (·.phase)) =
      some (.succeeded ⟨0, some (encodeUtf8 (js "ho")), 6, some (encodeUtf8 (js "he"))⟩) := by decide +kernel
  obtain ⟨call, hcall, hphase⟩ := Option.map_eq_some_iff.mp hfirst
  obtain ⟨call', hcall', hphase'⟩ := Option.map_eq_some_iff.mp hsecond
  exact (h.once 0 1 call call' _ _ (by decide) hcall hcall' hphase hphase').1 rfl

end Beale.Files
