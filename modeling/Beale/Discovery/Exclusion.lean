import Beale.Discovery.Lock

/-!
# Who holds the lock of the app server

- `LockBooks`: the invariant, with what each process knows of the file that it has read.
- `lock_sound_iff`: a run is sound if and only if each of its steps meets the condition.
-/

namespace Beale.Discovery

open Beale.Library
open LockHost

namespace LockHost

variable (host : LockHost)

/-- The file is the lock of another live process, or is being written by it. -/
def HeldByOther (number : Nat) (file : LockFile) : Prop :=
  ∃ process, file.owner ≠ number ∧ host.processes.get? file.owner = some process ∧ process.alive = true ∧
    (process.holds = true ∨ process.phase = .writing file.number)

def OwnerDied (file : LockFile) : Prop := ∃ process, host.processes.get? file.owner = some process ∧ process.alive = false

/-- What the process has read that is to remove the file now. -/
def removes (number : Nat) : Option (Option LockFile) :=
  match host.processes.get? number with
  | some process =>
    if process.alive then
      match process.phase with
      | .unlinking _ seen | .releaseUnlinking seen => some seen
      | _ => none
    else none
  | none => none

/-- `acquireDiscoveryLock` while no other process moves. -/
def acquireAlone (number : Nat) : LockHost :=
  runSteps step host (.acquire number :: List.replicate 6 (.advance number))

/-- The process has acquired the lock, and not released it. -/
def holds (number : Nat) : Bool :=
  match host.processes.get? number with
  | some process => process.holds && process.alive
  | none => false

end LockHost

/-- What a step does, and the state before it. -/
structure LockSound (host : LockHost) (event : LockEvent) : Prop where
  exclusive : ∀ number number', (host.step event).holds number = true → (host.step event).holds number' = true →
    number = number'
  respected : ∀ number seen file, event = .advance number → host.removes number = some seen → host.lock = some file →
    ¬ host.HeldByOther number file
  acquired : ∀ number process, host.processes.get? number = some process → process.alive = true → process.phase = .idle →
    (∀ file, host.lock = some file → host.OwnerDied file) → (host.acquireAlone number).holds number = true

/-- The condition on a step. -/
structure LockKept (host : LockHost) (event : LockEvent) : Prop where
  asRead : ∀ number seen file, event = .advance number → host.removes number = some seen → host.lock = some file →
    host.HeldByOther number file → seen = some file ∧ file.pid ≠ none
  ownPid : ∀ number process file pid, host.processes.get? number = some process → process.alive = true →
    process.phase = .idle → host.lock = some file → host.OwnerDied file → file.pid = some pid → pid ≠ process.pid →
      host.isProcessAlive pid = false

/-! ## Processes -/

section Processes

variable {host host' : LockHost} {number : Nat} {process : Process}

theorem isProcessAlive_iff (host : LockHost) (pid : Nat) : host.isProcessAlive pid = true ↔
    ∃ number process, host.processes.get? number = some process ∧ process.alive = true ∧ process.pid = pid := by
  rw [isProcessAlive, List.any_eq_true]
  constructor
  · rintro ⟨⟨number, process⟩, hmem, halive⟩
    rw [Bool.and_eq_true, beq_iff_eq] at halive
    exact ⟨number, process, JsMap.get?_of_mem hmem, halive⟩
  · rintro ⟨number, process, hget, halive, hpid⟩
    refine ⟨(number, process), JsMap.mem_of_get? hget, ?_⟩
    rw [Bool.and_eq_true, beq_iff_eq]
    exact ⟨halive, hpid⟩

/-- Processes keep their ids, and stay dead. -/
def Grows (host host' : LockHost) : Prop :=
  ∀ number process, host.processes.get? number = some process →
    ∃ process', host'.processes.get? number = some process' ∧ process'.pid = process.pid ∧
      (process.alive = false → process'.alive = false)

/-- The owner of a file has the process id that stands there. -/
def Known (host : LockHost) (file : LockFile) : Prop :=
  ∃ process, host.processes.get? file.owner = some process ∧ ∀ pid, file.pid = some pid → process.pid = pid

variable {file : LockFile}

theorem Known.grows (h : Known host file) (hgrows : Grows host host') : Known host' file := by
  obtain ⟨process, hget, hpid⟩ := h
  obtain ⟨process', hget', hsame, -⟩ := hgrows _ process hget
  exact ⟨process', hget', fun pid hfile => hsame.trans (hpid pid hfile)⟩

theorem LockHost.OwnerDied.grows (h : host.OwnerDied file) (hgrows : Grows host host') : host'.OwnerDied file := by
  obtain ⟨process, hget, hdead⟩ := h
  obtain ⟨process', hget', -, hstays⟩ := hgrows _ process hget
  exact ⟨process', hget', hstays hdead⟩

/-- What a process knows of the lock. -/
structure ProcessBooks (host : LockHost) (number : Nat) (process : Process) : Prop where
  holding : process.alive = true → process.holds = true →
    ∃ file, host.lock = some { number := file, owner := number, pid := some process.pid }
  writing : ∀ file, process.alive = true → process.phase = .writing file →
    host.lock = some { number := file, owner := number, pid := none }
  seeking : ∀ attempt seen, process.alive = true →
    (process.phase = .unlinking attempt seen ∨ ∃ ownerPid, process.phase = .testing attempt seen ownerPid) →
      process.holds = false ∧ ∀ file, seen = some file → Known host file
  tested : ∀ attempt seen ownerPid, process.phase = .testing attempt seen ownerPid →
    ∃ file, seen = some file ∧ file.pid = some ownerPid
  judged : ∀ attempt seen file, process.phase = .unlinking attempt seen → seen = some file → file.pid ≠ none →
    host.OwnerDied file
  released : ∀ seen, process.phase = .releaseUnlinking seen →
    ∃ file, seen = some file ∧ file.pid = some process.pid ∧ Known host file

structure LockBooks (host : LockHost) : Prop where
  numbers : ∀ number process, host.processes.get? number = some process → number < host.next
  distinct : ∀ number number' process process', host.processes.get? number = some process →
    host.processes.get? number' = some process' → process.alive = true → process'.alive = true →
      process.pid = process'.pid → number = number'
  lock : ∀ file, host.lock = some file → Known host file
  books : ∀ number process, host.processes.get? number = some process → ProcessBooks host number process

theorem ProcessBooks.grows (h : ProcessBooks host number process) (hgrows : Grows host host')
    (hheld : process.alive = true → (process.holds = true ∨ ∃ file, process.phase = .writing file) →
      host'.lock = host.lock) : ProcessBooks host' number process := by
  refine ⟨fun halive hholds => ?_, fun file halive hphase => ?_, fun attempt seen halive hphase => ?_, h.tested,
    fun attempt seen file hphase hseen hpid => (h.judged attempt seen file hphase hseen hpid).grows hgrows,
    fun seen hphase => ?_⟩
  · rw [hheld halive (.inl hholds)]
    exact h.holding halive hholds
  · rw [hheld halive (.inr ⟨file, hphase⟩)]
    exact h.writing file halive hphase
  · obtain ⟨hfree, hknown⟩ := h.seeking attempt seen halive hphase
    exact ⟨hfree, fun file hseen => (hknown file hseen).grows hgrows⟩
  · obtain ⟨file, hseen, hpid, hknown⟩ := h.released seen hphase
    exact ⟨file, hseen, hpid, hknown.grows hgrows⟩

variable {process' : Process}

theorem grows_set (hget : host.processes.get? number = some process)
    (hprocesses : host'.processes = host.processes.set number process') (hpid : process'.pid = process.pid)
    (halive : process.alive = false → process'.alive = false) : Grows host host' := by
  intro other found hfound
  by_cases hsame : other = number
  · subst hsame
    cases hget.symm.trans hfound
    refine ⟨process', ?_, hpid, halive⟩
    rw [hprocesses, JsMap.get?_set_self]
  · refine ⟨found, ?_, rfl, fun h => h⟩
    rw [hprocesses, JsMap.get?_set, if_neg hsame]
    exact hfound

theorem LockBooks.move (h : LockBooks host) (hget : host.processes.get? number = some process)
    (hprocesses : host'.processes = host.processes.set number process') (hnext : host.next ≤ host'.next)
    (hpid : process'.pid = process.pid) (halive : process.alive = false → process'.alive = false)
    (hlock : ∀ file, host'.lock = some file → Known host' file) (hbooks : ProcessBooks host' number process')
    (hrest : host'.lock = host.lock ∨ ∀ file, host.lock = some file → ¬ host.HeldByOther number file) :
    LockBooks host' := by
  have hgrows := grows_set hget hprocesses hpid halive
  have hcases : ∀ {other found}, host'.processes.get? other = some found →
      other = number ∧ found = process' ∨ other ≠ number ∧ host.processes.get? other = some found := by
    intro other found hfound
    by_cases hsame : other = number
    · subst hsame
      rw [hprocesses, JsMap.get?_set_self] at hfound
      cases hfound
      exact .inl ⟨rfl, rfl⟩
    · rw [hprocesses, JsMap.get?_set, if_neg hsame] at hfound
      exact .inr ⟨hsame, hfound⟩
  have hlives : process'.alive = true → process.alive = true := fun hnow => by
    cases hbef : process.alive with
    | true => rfl
    | false => cases (halive hbef).symm.trans hnow
  refine ⟨fun other found hfound => ?_, fun other other' found found' hfound hfound' hlive hlive' hsame => ?_, hlock,
    fun other found hfound => ?_⟩
  · rcases hcases hfound with ⟨rfl, -⟩ | ⟨-, hfound⟩
    · exact Nat.lt_of_lt_of_le (h.numbers other process hget) hnext
    · exact Nat.lt_of_lt_of_le (h.numbers other found hfound) hnext
  · rcases hcases hfound with ⟨rfl, rfl⟩ | ⟨-, hfound⟩
    · rcases hcases hfound' with ⟨rfl, -⟩ | ⟨-, hfound'⟩
      · rfl
      · exact h.distinct other other' process found' hget hfound' (hlives hlive) hlive' (hpid.symm.trans hsame)
    · rcases hcases hfound' with ⟨rfl, rfl⟩ | ⟨-, hfound'⟩
      · exact h.distinct other other' found process hfound hget hlive (hlives hlive') (hsame.trans hpid)
      · exact h.distinct other other' found found' hfound hfound' hlive hlive' hsame
  · rcases hcases hfound with ⟨rfl, rfl⟩ | ⟨hne, hfound⟩
    · exact hbooks
    · refine (h.books other found hfound).grows hgrows fun hlive hheld => ?_
      rcases hrest with hsame | hrest
      · exact hsame
      · rcases hheld with hholds | ⟨file, hphase⟩
        · obtain ⟨file, hfile⟩ := (h.books other found hfound).holding hlive hholds
          exact absurd ⟨found, hne, hfound, hlive, .inl hholds⟩ (hrest _ hfile)
        · have hfile := (h.books other found hfound).writing file hlive hphase
          exact absurd ⟨found, hne, hfound, hlive, .inr hphase⟩ (hrest _ hfile)

theorem ProcessBooks.plain (hholding : process.alive = true → process.holds = true →
      ∃ file, host.lock = some { number := file, owner := number, pid := some process.pid })
    (hphase : process.phase = .idle ∨ process.phase = .releasing ∨ (∃ attempt, process.phase = .creating attempt) ∨
      ∃ attempt, process.phase = .reading attempt) : ProcessBooks host number process := by
  have hnot : (∀ file, process.phase ≠ .writing file) ∧ (∀ attempt seen, process.phase ≠ .unlinking attempt seen) ∧
      (∀ attempt seen ownerPid, process.phase ≠ .testing attempt seen ownerPid) ∧
        ∀ seen, process.phase ≠ .releaseUnlinking seen := by
    rcases hphase with hphase | hphase | ⟨attempt, hphase⟩ | ⟨attempt, hphase⟩ <;> rw [hphase] <;>
      exact ⟨nofun, nofun, nofun, nofun⟩
  obtain ⟨hwrite, hunlink, htesting, hreleasing⟩ := hnot
  refine ⟨hholding, fun file _ h => absurd h (hwrite file), fun attempt seen _ h => ?_,
    fun attempt seen ownerPid h => absurd h (htesting attempt seen ownerPid),
    fun attempt seen file h => absurd h (hunlink attempt seen), fun seen h => absurd h (hreleasing seen)⟩
  rcases h with h | ⟨ownerPid, h⟩
  · exact absurd h (hunlink attempt seen)
  · exact absurd h (htesting attempt seen ownerPid)

/-! ## Steps -/

theorem LockBooks.spawn (h : LockBooks host) (pid : Nat) : LockBooks (host.spawn pid) := by
  unfold LockHost.spawn
  split
  · exact h
  · next hfree =>
    rw [not_or] at hfree
    have hnone : ∀ {other found}, host.processes.get? other = some found → found.alive = true → found.pid ≠ pid :=
      fun {other found} hfound halive hsame => hfree.2 ((isProcessAlive_iff host pid).mpr ⟨other, found, hfound, halive, hsame⟩)
    have hcases : ∀ {other found}, (host.processes.set host.next
          { pid := pid, alive := true, phase := .idle, holds := false }).get? other = some found →
        other = host.next ∧ found = { pid := pid, alive := true, phase := .idle, holds := false } ∨
          host.processes.get? other = some found := by
      intro other found hfound
      rw [JsMap.get?_set] at hfound
      split at hfound
      · next hsame =>
        cases hfound
        exact .inl ⟨hsame, rfl⟩
      · exact .inr hfound
    have hgrows : Grows host { host with
        processes := host.processes.set host.next { pid := pid, alive := true, phase := .idle, holds := false }
        next := host.next + 1 } := by
      intro other found hfound
      refine ⟨found, ?_, rfl, fun hdead => hdead⟩
      dsimp only
      rw [JsMap.get?_set, if_neg (Nat.ne_of_lt (h.numbers other found hfound))]
      exact hfound
    refine ⟨fun other found hfound => ?_, fun other other' found found' hfound hfound' hlive hlive' hsame => ?_,
      fun file hfile => (h.lock file hfile).grows hgrows, fun other found hfound => ?_⟩
    · rcases hcases hfound with ⟨rfl, -⟩ | hfound
      · exact Nat.lt_succ_self _
      · exact Nat.lt_succ_of_lt (h.numbers other found hfound)
    · rcases hcases hfound with ⟨rfl, rfl⟩ | hfound
      · rcases hcases hfound' with ⟨rfl, -⟩ | hfound'
        · rfl
        · exact absurd hsame.symm (hnone hfound' hlive')
      · rcases hcases hfound' with ⟨rfl, rfl⟩ | hfound'
        · exact absurd hsame (hnone hfound hlive)
        · exact h.distinct other other' found found' hfound hfound' hlive hlive' hsame
    · rcases hcases hfound with ⟨rfl, rfl⟩ | hfound
      · exact .plain (by rintro _ ⟨⟩) (.inl rfl)
      · exact (h.books other found hfound).grows hgrows fun _ _ => rfl

section Actions

variable (h : LockBooks host) (hget : host.processes.get? number = some process)
include h hget

theorem LockBooks.put {process' : Process} (hpid : process'.pid = process.pid)
    (halive : process.alive = false → process'.alive = false)
    (hbooks : ProcessBooks (host.put number process') number process') : LockBooks (host.put number process') := by
  refine h.move hget rfl (Nat.le_refl _) hpid halive (fun file hfile => ?_) hbooks (.inl rfl)
  exact (h.lock file hfile).grows (grows_set hget rfl hpid halive)

theorem LockBooks.crash : LockBooks (host.put number { process with alive := false }) := by
  have hbooks := h.books number process hget
  have hgrows : Grows host (host.put number { process with alive := false }) := grows_set hget rfl rfl fun _ => rfl
  refine h.put hget rfl (fun _ => rfl) ⟨nofun, nofun, nofun, hbooks.tested, ?_, ?_⟩
  · intro attempt seen file hphase hseen hpid
    exact (hbooks.judged attempt seen file hphase hseen hpid).grows hgrows
  · intro seen hphase
    obtain ⟨file, hseen, hpid, hknown⟩ := hbooks.released seen hphase
    exact ⟨file, hseen, hpid, hknown.grows hgrows⟩

/-- The process goes on to a step that has not read the file. -/
theorem LockBooks.goTo {phase : Phase}
    (hphase : phase = .idle ∨ phase = .releasing ∨ (∃ attempt, phase = .creating attempt) ∨
      ∃ attempt, phase = .reading attempt) : LockBooks (host.put number { process with phase := phase }) :=
  h.put hget rfl (fun hdead => hdead) (.plain (h.books number process hget).holding hphase)

theorem LockBooks.call {phase : Phase} (hphase : phase = .creating 0 ∨ phase = .releasing) :
    LockBooks (host.call number process phase) := by
  unfold LockHost.call
  split
  · refine h.goTo hget ?_
    rcases hphase with rfl | rfl
    · exact .inr (.inr (.inl ⟨0, rfl⟩))
    · exact .inr (.inl rfl)
  · exact h

theorem LockBooks.fail : LockBooks (host.fail number process) := by
  unfold LockHost.fail
  split
  · exact h.goTo hget (.inl rfl)
  · exact h.goTo hget (.inl rfl)
  · exact h.goTo hget (.inl rfl)
  · exact h

theorem LockBooks.create (attempt : Nat) : LockBooks (host.create number process attempt) := by
  unfold LockHost.create
  split
  · next hnone =>
    refine h.move hget rfl (Nat.le_succ _) rfl (fun hdead => hdead) (fun file hfile => ?_) ?_
      (.inr fun file hfile => by cases hnone.symm.trans hfile)
    · cases hfile
      exact ⟨_, JsMap.get?_set_self _ _ _, nofun⟩
    · refine ⟨fun halive hholds => ?_, fun file _ hphase => ?_, fun attempt seen _ hphase => ?_, nofun, nofun, nofun⟩
      · obtain ⟨file, hfile⟩ := (h.books number process hget).holding halive hholds
        cases hnone.symm.trans hfile
      · cases hphase
        rfl
      · rcases hphase with hphase | ⟨ownerPid, hphase⟩ <;> cases hphase
  · exact h.goTo hget (.inr (.inr (.inr ⟨attempt, rfl⟩)))

theorem LockBooks.write {file : Nat} (halive : process.alive = true) (hphase : process.phase = .writing file) :
    LockBooks (host.write number process file) := by
  have hlock := (h.books number process hget).writing file halive hphase
  have hwr : (host.write number process file).lock =
      some { number := file, owner := number, pid := some process.pid } := by
    simp [LockHost.write, hlock]
  refine h.move hget rfl (Nat.le_refl _) rfl (fun hdead => hdead) (fun other hother => ?_) (.plain (fun _ _ => ?_) (.inl rfl))
    (.inr fun other hother => ?_)
  · rw [hwr] at hother
    cases hother
    exact ⟨_, JsMap.get?_set_self _ _ _, fun pid hpid => Option.some.inj hpid⟩
  · exact ⟨file, hwr⟩
  · rw [hlock] at hother
    cases hother
    rintro ⟨owner, hne, -⟩
    exact hne rfl

/-- A file that bears the id of a live process is not held by another one. -/
theorem LockBooks.not_held (halive : process.alive = true) {file : LockFile} (hfile : host.lock = some file)
    (hpid : file.pid = some process.pid) : ¬ host.HeldByOther number file := by
  rintro ⟨owner, hne, howner, hlives, -⟩
  obtain ⟨known, hknown, hsame⟩ := h.lock file hfile
  cases howner.symm.trans hknown
  exact hne (h.distinct file.owner number owner process howner hget hlives halive (hsame _ hpid))

variable {attempt : Nat}

theorem LockBooks.read (halive : process.alive = true) : LockBooks (host.read number process attempt) := by
  have hbooks := h.books number process hget
  have hgrows : ∀ phase, Grows host (host.put number { process with phase := phase }) :=
    fun phase => grows_set hget rfl rfl fun hdead => hdead
  unfold LockHost.read
  split
  · next hnone =>
    have hfree : process.holds = false := by
      cases hholds : process.holds with
      | false => rfl
      | true =>
        obtain ⟨file, hfile⟩ := hbooks.holding halive hholds
        cases hnone.symm.trans hfile
    refine h.put hget rfl (fun hdead => hdead) ⟨fun _ hholds => ?_, nofun, fun other seen _ hphase => ?_, nofun, ?_, nofun⟩
    · cases hfree.symm.trans hholds
    · rcases hphase with hphase | ⟨ownerPid, hphase⟩
      · cases hphase
        exact ⟨hfree, nofun⟩
      · cases hphase
    · intro other seen file hphase hseen
      cases hphase
      cases hseen
  · next lock hlock =>
    have hfreeOf : lock.pid ≠ some process.pid → process.holds = false := by
      intro hother
      cases hholds : process.holds with
      | false => rfl
      | true =>
        obtain ⟨file, hfile⟩ := hbooks.holding halive hholds
        cases hlock.symm.trans hfile
        exact absurd rfl hother
    split
    · next hempty =>
      have hfree := hfreeOf (by rw [hempty]; nofun)
      refine h.put hget rfl (fun hdead => hdead) ⟨fun _ hholds => ?_, nofun, fun other seen _ hphase => ?_, nofun, ?_, nofun⟩
      · cases hfree.symm.trans hholds
      · rcases hphase with hphase | ⟨ownerPid, hphase⟩
        · cases hphase
          refine ⟨hfree, fun file hseen => ?_⟩
          cases hseen
          exact (h.lock lock hlock).grows (hgrows _)
        · cases hphase
      · intro other seen file hphase hseen hpid
        cases hphase
        cases hseen
        exact absurd hempty hpid
    · next ownerPid hpid =>
      split
      · next hown =>
        subst hown
        refine h.move hget rfl (Nat.le_refl _) rfl (fun hdead => hdead) (fun file hfile => ?_)
          (.plain (fun _ _ => ⟨lock.number, ?_⟩) (.inl rfl)) (.inr fun file hfile => ?_)
        · cases hfile
          exact ⟨_, JsMap.get?_set_self _ _ _, fun pid hsame => Option.some.inj (hpid.symm.trans hsame)⟩
        · simp only [hpid]
        · cases hlock.symm.trans hfile
          exact h.not_held hget halive hlock hpid
      · next hother =>
        have hfree := hfreeOf (by rw [hpid]; exact fun hsame => hother (Option.some.inj hsame))
        refine h.put hget rfl (fun hdead => hdead)
          ⟨fun _ hholds => ?_, nofun, fun other seen _ hphase => ?_, fun other seen found hphase => ?_, nofun, nofun⟩
        · cases hfree.symm.trans hholds
        · rcases hphase with hphase | ⟨found, hphase⟩
          · cases hphase
          · cases hphase
            refine ⟨hfree, fun file hseen => ?_⟩
            cases hseen
            exact (h.lock lock hlock).grows (hgrows _)
        · cases hphase
          exact ⟨lock, rfl, hpid⟩

theorem LockBooks.test {seen : Option LockFile} {ownerPid : Nat} (halive : process.alive = true)
    (hphase : process.phase = .testing attempt seen ownerPid) :
    LockBooks (host.test number process attempt seen ownerPid) := by
  have hbooks := h.books number process hget
  obtain ⟨hfree, hknown⟩ := hbooks.seeking attempt seen halive (.inr ⟨ownerPid, hphase⟩)
  unfold LockHost.test
  cases hlives : host.isProcessAlive ownerPid with
  | true =>
    rw [if_pos rfl]
    exact h.goTo hget (.inl rfl)
  | false =>
    rw [if_neg nofun]
    have hgrows : Grows host (host.put number { process with phase := .unlinking attempt seen }) :=
      grows_set hget rfl rfl fun hdead => hdead
    refine h.put hget rfl (fun hdead => hdead) ⟨fun _ hholds => ?_, nofun, fun other found _ hunlink => ?_, nofun, ?_, nofun⟩
    · cases hfree.symm.trans hholds
    · rcases hunlink with hunlink | ⟨other, hunlink⟩
      · cases hunlink
        exact ⟨hfree, fun file hseen => (hknown file hseen).grows hgrows⟩
      · cases hunlink
    · intro other found file hunlink hseen hpid
      cases hunlink
      -- the owner has the process id that was found dead
      obtain ⟨tested, htested, hfile⟩ := hbooks.tested attempt seen ownerPid hphase
      cases htested.symm.trans hseen
      obtain ⟨owner, howner, hsame⟩ := hknown file hseen
      have hdead : owner.alive = false := by
        cases hstill : owner.alive with
        | false => rfl
        | true =>
          have halive := (isProcessAlive_iff host ownerPid).mpr ⟨_, owner, howner, hstill, hsame ownerPid hfile⟩
          cases hlives.symm.trans halive
      exact LockHost.OwnerDied.grows ⟨owner, howner, hdead⟩ hgrows

theorem LockBooks.unlink {seen : Option LockFile} (halive : process.alive = true)
    (hphase : process.phase = .unlinking attempt seen)
    (hfree : ∀ file, host.lock = some file → ¬ host.HeldByOther number file) :
    LockBooks (host.unlink number process attempt) := by
  have hnot := ((h.books number process hget).seeking attempt seen halive (.inl hphase)).1
  refine h.move hget rfl (Nat.le_refl _) rfl (fun hdead => hdead) nofun (.plain (fun _ hholds => ?_) ?_) (.inr hfree)
  · cases hnot.symm.trans hholds
  · dsimp only
    split
    · exact .inr (.inr (.inl ⟨attempt + 1, rfl⟩))
    · exact .inl rfl

theorem LockBooks.releaseRead : LockBooks (host.releaseRead number process) := by
  unfold LockHost.releaseRead
  split
  · next hown =>
    obtain ⟨file, hfile, hpid⟩ := Option.bind_eq_some_iff.mp hown
    have hgrows : Grows host (host.put number { process with phase := .releaseUnlinking host.lock }) :=
      grows_set hget rfl rfl fun hdead => hdead
    refine h.put hget rfl (fun hdead => hdead) ⟨(h.books number process hget).holding, nofun, fun other seen _ hphase => ?_,
      nofun, nofun, fun seen hphase => ?_⟩
    · rcases hphase with hphase | ⟨ownerPid, hphase⟩ <;> cases hphase
    · cases hphase
      exact ⟨file, hfile, hpid, (h.lock file hfile).grows hgrows⟩
  · exact h.goTo hget (.inl rfl)

theorem LockBooks.releaseUnlink (hfree : ∀ file, host.lock = some file → ¬ host.HeldByOther number file) :
    LockBooks (host.releaseUnlink number process) := by
  refine h.move hget rfl (Nat.le_refl _) rfl (fun hdead => hdead) nofun (.plain (fun halive hholds => ?_) (.inl rfl))
    (.inr hfree)
  dsimp only at hholds
  rw [Bool.and_eq_true] at hholds
  obtain ⟨file, hfile⟩ := (h.books number process hget).holding halive hholds.1
  rw [hfile] at hholds
  cases hholds.2

theorem LockBooks.advance (halive : process.alive = true)
    (hfree : ∀ seen file, host.removes number = some seen → host.lock = some file → ¬ host.HeldByOther number file) :
    LockBooks (host.advance number process) := by
  have hremoves : ∀ seen, (process.phase = .releaseUnlinking seen ∨ ∃ attempt, process.phase = .unlinking attempt seen) →
      host.removes number = some seen := by
    intro seen hphase
    simp only [removes, hget, if_pos halive]
    rcases hphase with hphase | ⟨attempt, hphase⟩ <;> rw [hphase]
  unfold LockHost.advance
  split
  · exact h
  · next attempt _ => exact h.create hget attempt
  · next file hphase => exact h.write hget halive hphase
  · next attempt _ => exact h.read hget halive
  · next attempt seen ownerPid hphase => exact h.test hget halive hphase
  · next attempt seen hphase =>
    exact h.unlink hget halive hphase fun file => hfree seen file (hremoves seen (.inr ⟨attempt, hphase⟩))
  · exact h.releaseRead hget
  · next seen hphase => exact h.releaseUnlink hget fun file => hfree seen file (hremoves seen (.inl hphase))

end Actions

variable {event : LockEvent}

/-- What a process that has read the file removes under the condition. -/
theorem LockBooks.respected (h : LockBooks host) (hkept : LockKept host event) {seen : Option LockFile}
    (hevent : event = .advance number) (hremoves : host.removes number = some seen)
    (hlock : host.lock = some file) : ¬ host.HeldByOther number file := by
  intro hheld
  obtain ⟨rfl, hpid⟩ := hkept.asRead number seen file hevent hremoves hlock hheld
  simp only [removes] at hremoves
  split at hremoves
  · next process hget =>
    have hbooks := h.books number process hget
    split at hremoves
    · next halive =>
      split at hremoves
      · next attempt seen hphase =>
        cases hremoves
        obtain ⟨owner, howner, hdead⟩ := hbooks.judged attempt _ file hphase rfl hpid
        obtain ⟨held, -, hthere, hlives, -⟩ := hheld
        cases howner.symm.trans hthere
        cases hdead.symm.trans hlives
      · next seen hphase =>
        cases hremoves
        obtain ⟨found, hfound, hown, -⟩ := hbooks.released _ hphase
        cases hfound
        exact h.not_held hget halive hlock hown hheld
      · cases hremoves
    · cases hremoves
  · cases hremoves

theorem LockBooks.act (h : LockBooks host) {action : Nat → Process → LockHost}
    (haction : ∀ process, host.processes.get? number = some process → process.alive = true →
      LockBooks (action number process)) : LockBooks (host.act number action) := by
  unfold LockHost.act
  split
  · next process hget =>
    split
    · next halive => exact haction process hget halive
    · exact h
  · exact h

theorem LockBooks.step (h : LockBooks host) (hkept : LockKept host event) :
    LockBooks (host.step event) := by
  cases event <;> simp only [LockHost.step]
  case spawn pid => exact h.spawn pid
  case crash number => exact h.act fun process hget _ => h.crash hget
  case acquire number => exact h.act fun process hget _ => h.call hget (.inl rfl)
  case release number => exact h.act fun process hget _ => h.call hget (.inr rfl)
  case advance number =>
    exact h.act fun process hget halive => h.advance hget halive fun seen file => h.respected hkept rfl
  case fail number => exact h.act fun process hget _ => h.fail hget

theorem LockBooks.exclusive (h : LockBooks host) {number' : Nat} (hholds : host.holds number = true)
    (hholds' : host.holds number' = true) : number = number' := by
  have hlock : ∀ {number : Nat}, host.holds number = true →
      ∃ file pid, host.lock = some { number := file, owner := number, pid := some pid } := by
    intro number hholds
    simp only [holds] at hholds
    split at hholds
    · next process hget =>
      rw [Bool.and_eq_true] at hholds
      obtain ⟨file, hfile⟩ := (h.books number process hget).holding hholds.2 hholds.1
      exact ⟨file, process.pid, hfile⟩
    · cases hholds
  obtain ⟨file, pid, hfile⟩ := hlock hholds
  obtain ⟨file', pid', hfile'⟩ := hlock hholds'
  cases hfile.symm.trans hfile'
  rfl

/-! ## A process alone -/

theorem get?_put (host : LockHost) (number : Nat) (process : Process) :
    (host.put number process).processes.get? number = some process := JsMap.get?_set_self _ _ _

section

variable (hget : host.processes.get? number = some process)
include hget

theorem step_advance (halive : process.alive = true) :
    host.step (.advance number) = host.advance number process := by
  simp only [step, act, hget, if_pos halive]

theorem isProcessAlive_put
    (hpid : process'.pid = process.pid) (halive : process'.alive = process.alive) (pid : Nat) :
    (host.put number process').isProcessAlive pid = host.isProcessAlive pid := by
  rw [Bool.eq_iff_iff, isProcessAlive_iff, isProcessAlive_iff]
  constructor
  · rintro ⟨other, found, hfound, hlives, hsame⟩
    simp only [put, JsMap.get?_set] at hfound
    split at hfound
    · cases hfound
      exact ⟨number, process, hget, halive.symm.trans hlives, hpid.symm.trans hsame⟩
    · exact ⟨other, found, hfound, hlives, hsame⟩
  · rintro ⟨other, found, hfound, hlives, hsame⟩
    by_cases hthis : other = number
    · subst hthis
      cases hget.symm.trans hfound
      exact ⟨other, process', get?_put _ _ _, halive.trans hlives, hpid.trans hsame⟩
    · refine ⟨other, found, ?_, hlives, hsame⟩
      simp only [put, JsMap.get?_set, if_neg hthis]
      exact hfound

/-- The process does nothing more. -/
theorem runSteps_idle (hidle : process.phase = .idle) (steps : Nat) :
    runSteps step host (List.replicate steps (.advance number)) = host := by
  have hstep : host.step (.advance number) = host := by
    simp only [step, act, hget, advance, hidle, ite_self]
  induction steps with
  | zero => rfl
  | succ steps ih => rw [List.replicate_succ, runSteps_cons, hstep, ih]

theorem holds_of_get : host.holds number = (process.holds && process.alive) := by
  simp only [holds, hget]

section

variable (halive : process.alive = true)
include halive

theorem advance_put (process' : Process)
    (hpid : process'.pid = process.pid) (hlives : process'.alive = process.alive)
    (hstep : host.advance number process = host.put number process') :
    (host.step (.advance number)).processes.get? number = some process' ∧
      (host.step (.advance number)).lock = host.lock ∧
        ∀ pid, (host.step (.advance number)).isProcessAlive pid = host.isProcessAlive pid := by
  rw [step_advance hget halive, hstep]
  exact ⟨get?_put _ _ _, rfl, isProcessAlive_put hget hpid hlives⟩

/-- Without a file, the process creates and writes it. -/
theorem holds_of_creating {attempt : Nat}
    (hphase : process.phase = .creating attempt) (hlock : host.lock = none) (steps : Nat) :
    (runSteps step host (List.replicate (steps + 2) (.advance number))).holds number = true := by
  have hcreate : (host.step (.advance number)).processes.get? number =
      some { process with phase := .writing host.next } := by
    rw [step_advance hget halive]
    simp only [advance, hphase, create, hlock]
    exact get?_put _ _ _
  rw [List.replicate_succ, List.replicate_succ, runSteps_cons, runSteps_cons]
  generalize host.step (.advance number) = created at hcreate ⊢
  have hwr : (created.step (.advance number)).processes.get? number =
      some { process with phase := .idle, holds := true } := by
    rw [step_advance hcreate halive]
    exact get?_put _ _ _
  generalize created.step (.advance number) = written at hwr ⊢
  rw [runSteps_idle hwr rfl, holds_of_get hwr]
  simp only [halive, Bool.and_self]

/-- A file that is judged stale is removed, and then created anew. -/
theorem holds_of_unlinking
    {seen : Option LockFile} (hphase : process.phase = .unlinking 0 seen) (steps : Nat) :
    (runSteps step host (List.replicate (steps + 3) (.advance number))).holds number = true := by
  have hrem : (host.step (.advance number)).processes.get? number = some { process with phase := .creating 1 } ∧
      (host.step (.advance number)).lock = none := by
    rw [step_advance hget halive]
    simp only [advance, hphase]
    exact ⟨get?_put _ _ _, rfl⟩
  rw [List.replicate_succ, runSteps_cons]
  generalize host.step (.advance number) = removed at hrem ⊢
  exact holds_of_creating hrem.1 halive rfl hrem.2 steps

theorem reading_of_lock
    (hidle : process.phase = .idle) {lock : LockFile} (hlock : host.lock = some lock) :
    ∃ found : LockHost, host.acquireAlone number =
        runSteps step found (List.replicate 5 (.advance number)) ∧
      found.processes.get? number = some { process with phase := .reading 0 } ∧ found.lock = some lock ∧
        ∀ pid, found.isProcessAlive pid = host.isProcessAlive pid := by
  have hcall : host.step (.acquire number) = host.put number { process with phase := .creating 0 } := by
    simp only [step, act, hget, if_pos halive, call, if_pos hidle]
  have hcalled : (host.step (.acquire number)).processes.get? number = some { process with phase := .creating 0 } ∧
      (host.step (.acquire number)).lock = some lock ∧
        ∀ pid, (host.step (.acquire number)).isProcessAlive pid = host.isProcessAlive pid := by
    rw [hcall]
    exact ⟨get?_put _ _ _, hlock, isProcessAlive_put hget rfl rfl⟩
  rw [acquireAlone, runSteps_cons, List.replicate_succ, runSteps_cons]
  generalize host.step (.acquire number) = called at hcalled ⊢
  obtain ⟨hcreating, hthere, hsame⟩ := hcalled
  obtain ⟨hreading, hstays, hkeeps⟩ := advance_put hcreating halive
    { process with phase := .reading 0 } rfl rfl (by simp only [advance, create, hthere])
  exact ⟨_, rfl, hreading, hstays.trans hthere, fun pid => (hkeeps pid).trans (hsame pid)⟩

/-- `acquireDiscoveryLock` succeeds, alone, unless another process lives under the id in the file. -/
theorem acquireAlone_holds (hidle : process.phase = .idle)
    (hcond : ∀ lock pid, host.lock = some lock → lock.pid = some pid → pid ≠ process.pid → host.isProcessAlive pid = false) :
    (host.acquireAlone number).holds number = true := by
  cases hlock : host.lock with
  | none =>
    have hcall : host.step (.acquire number) = host.put number { process with phase := .creating 0 } := by
      simp only [step, act, hget, if_pos halive, call, if_pos hidle]
    have hcalled : (host.step (.acquire number)).processes.get? number = some { process with phase := .creating 0 } ∧
        (host.step (.acquire number)).lock = none := by
      rw [hcall]
      exact ⟨get?_put _ _ _, hlock⟩
    rw [acquireAlone, runSteps_cons]
    generalize host.step (.acquire number) = called at hcalled ⊢
    exact holds_of_creating hcalled.1 halive rfl hcalled.2 4
  | some lock =>
    obtain ⟨found, hrun, hfound, hthere, hsame⟩ := reading_of_lock hget halive hidle hlock
    rw [hrun]
    cases hpid : lock.pid with
    | none =>
      obtain ⟨hunlink, -⟩ := advance_put hfound halive { process with phase := .unlinking 0 (some lock) }
        rfl rfl (by simp only [advance, LockHost.read, hthere, hpid])
      rw [List.replicate_succ, runSteps_cons]
      exact holds_of_unlinking hunlink halive rfl 1
    | some pid =>
      by_cases hown : pid = process.pid
      · have hheld : (found.step (.advance number)).processes.get? number =
            some { process with phase := .idle, holds := true } := by
          rw [step_advance hfound halive]
          simp only [advance, LockHost.read, hthere, hpid, if_pos hown]
          exact get?_put _ _ _
        rw [List.replicate_succ, runSteps_cons, runSteps_idle hheld rfl, holds_of_get hheld]
        simp only [halive, Bool.and_self]
      · obtain ⟨htesting, -, hkeeps⟩ := advance_put hfound halive
          { process with phase := .testing 0 (some lock) pid } rfl rfl
          (by simp only [advance, LockHost.read, hthere, hpid, if_neg hown])
        have hdead : (found.step (.advance number)).isProcessAlive pid = false := by
          rw [hkeeps, hsame]
          exact hcond lock pid hlock hpid hown
        rw [List.replicate_succ, runSteps_cons, List.replicate_succ, runSteps_cons]
        generalize found.step (.advance number) = read at htesting hdead ⊢
        obtain ⟨hunlink, -⟩ := advance_put htesting halive
          { process with phase := .unlinking 0 (some lock) } rfl rfl
          (by simp only [advance, test, hdead, Bool.false_eq_true, if_false])
        exact holds_of_unlinking hunlink halive rfl 0

theorem acquireAlone_fails
    (hidle : process.phase = .idle) (hfree : process.holds = false) {lock : LockFile} {pid : Nat} (hlock : host.lock = some lock)
    (hpid : lock.pid = some pid) (hother : pid ≠ process.pid) (hlives : host.isProcessAlive pid = true) :
    (host.acquireAlone number).holds number = false := by
  obtain ⟨found, hrun, hfound, hthere, hsame⟩ := reading_of_lock hget halive hidle hlock
  obtain ⟨htesting, -, hkeeps⟩ := advance_put hfound halive
    { process with phase := .testing 0 (some lock) pid } rfl rfl
    (by simp only [advance, LockHost.read, hthere, hpid, if_neg hother])
  have halive' : (found.step (.advance number)).isProcessAlive pid = true := by
    rw [hkeeps, hsame]
    exact hlives
  rw [hrun, List.replicate_succ, runSteps_cons, List.replicate_succ, runSteps_cons]
  generalize found.step (.advance number) = read at htesting halive' ⊢
  obtain ⟨hended, -⟩ := advance_put htesting halive { process with phase := .idle } rfl rfl
    (by simp only [advance, test, halive', if_true])
  rw [runSteps_idle hended rfl, holds_of_get hended]
  simp only [hfree, Bool.false_and]

end

end

theorem LockBooks.free_of_dead (h : LockBooks host) (hget : host.processes.get? number = some process)
    (halive : process.alive = true) (hlock : host.lock = some file) (hdead : host.OwnerDied file) :
    process.holds = false := by
  cases hholds : process.holds with
  | false => rfl
  | true =>
    obtain ⟨held, hheld⟩ := (h.books number process hget).holding halive hholds
    cases hlock.symm.trans hheld
    obtain ⟨owner, howner, hgone⟩ := hdead
    cases hget.symm.trans howner
    cases halive.symm.trans hgone

theorem LockBooks.sound (h : LockBooks host) (hkept : LockKept host event) : LockSound host event := by
  refine ⟨fun number number' => (h.step hkept).exclusive, fun number seen file => h.respected hkept,
    fun number process hget halive hidle hdead => acquireAlone_holds hget halive hidle ?_⟩
  intro lock pid hlock hpid hother
  exact hkept.ownPid number process lock pid hget halive hidle hlock (hdead lock hlock) hpid hother

theorem LockBooks.kept (h : LockBooks host) (hsound : LockSound host event) : LockKept host event := by
  refine ⟨fun number seen file hevent hremoves hlock hheld => ?_,
    fun number process file pid hget halive hidle hlock hdead hpid hother => ?_⟩
  · exact absurd hheld (hsound.respected number seen file hevent hremoves hlock)
  · cases hlives : host.isProcessAlive pid with
    | false => rfl
    | true =>
      have hfails := acquireAlone_fails hget halive hidle (h.free_of_dead hget halive hlock hdead) hlock hpid hother hlives
      have hholds := hsound.acquired number process hget halive hidle fun other hthere => by
        cases hlock.symm.trans hthere
        exact hdead
      cases hfails.symm.trans hholds

end Processes

theorem LockBooks.new : LockBooks .new := ⟨nofun, fun _ _ _ _ hget => (nomatch hget), nofun, nofun⟩

theorem lock_sound_iff (events : List LockEvent) :
    RunMeets LockHost.step LockSound .new events ↔ RunMeets LockHost.step LockKept .new events := by
  have hiff : ∀ host event, LockBooks host → (LockSound host event ↔ LockKept host event) :=
    fun host event h => ⟨h.kept, h.sound⟩
  exact runMeets_iff_of_invariant hiff (fun host event h hkept => h.step hkept) LockBooks.new events

/-! ## Runs with two starters -/

/-- The second starter reads the file that the first one has created and not written. -/
def emptyRead : List LockEvent :=
  [.spawn 10, .spawn 11, .acquire 0, .acquire 1, .advance 0, .advance 1, .advance 1, .advance 1, .advance 1, .advance 0]

/-- Two starters judge the lock of a dead process; one removes the lock that the other one has acquired. -/
def staleRead : List LockEvent :=
  [.spawn 10, .acquire 0, .advance 0, .advance 0, .crash 0, .spawn 11, .spawn 12, .acquire 2, .acquire 3, .advance 2,
    .advance 3, .advance 2, .advance 3, .advance 2, .advance 3, .advance 2, .advance 2, .advance 2, .advance 3, .advance 3]

/-- The process id of a dead owner belongs to another live process. -/
def reusedPid : List LockEvent :=
  [.spawn 10, .acquire 0, .advance 0, .advance 0, .crash 0, .spawn 10, .spawn 11]

theorem not_always_sound :
    ¬ RunMeets LockHost.step LockSound .new (emptyRead ++ [.advance 1]) ∧
      ¬ RunMeets LockHost.step LockSound .new (staleRead ++ [.advance 3]) ∧
        ¬ RunMeets LockHost.step LockSound .new (reusedPid ++ [.acquire 3]) := by
  refine ⟨fun h => ?_, fun h => ?_, fun h => ?_⟩
  · exact absurd (h.last.exclusive 0 1 (by decide +kernel) (by decide +kernel)) (by decide)
  · exact absurd (h.last.exclusive 2 3 (by decide +kernel) (by decide +kernel)) (by decide)
  · have hget : (runSteps LockHost.step .new reusedPid).processes.get? 3 =
        some { pid := 11, alive := true, phase := .idle, holds := false } := by
      decide +kernel
    have hlock : (runSteps LockHost.step .new reusedPid).lock = some { number := 1, owner := 0, pid := some 10 } := by
      decide +kernel
    have howner : (runSteps LockHost.step .new reusedPid).processes.get? 0 =
        some { pid := 10, alive := false, phase := .idle, holds := true } := by
      decide +kernel
    have hholds := h.last.acquired 3 _ hget rfl rfl fun file hfile => by
      cases hlock.symm.trans hfile
      exact ⟨_, howner, rfl⟩
    have hfails := acquireAlone_fails hget rfl rfl rfl hlock rfl (by decide) (by decide +kernel)
    cases hfails.symm.trans hholds

end Beale.Discovery
