import Beale.Focus.Persistence
import Mathlib.Algebra.BigOperators.Group.Finset.Basic

/-!
# The bound on repeated recalls

The guard admits a recall up to a limit, and then a probe once an interval has passed.
The books record what a run admits in the epoch it is in. The count of a fingerprint in
the guard is the number of its recalls, cut at the limit, so a recall that comes too
early has used up the external change.

- `EpochBooks`: the turns of the admitted recalls, and the external signals.
- `probes`, `early`: the recalls beyond the limit, after the interval or before it.
- `RecallBooks`: what the books say about the guard.
- `reached_recallsBounded`: the bound, at every moment of every run.
-/

namespace Beale.Focus

open Beale.Library

variable {env : FocusPlatform} {opts : FocusOptions} {g : ResearchFocusGuard}

/-! ## What the books record -/

/-- What a run has admitted in the current epoch. -/
structure EpochBooks where
  turns : JsString → List Int
  signals : Nat

def EpochBooks.empty : EpochBooks := ⟨fun _ => [], 0⟩

def EpochBooks.enter (books : EpochBooks) (fingerprint : JsString) (turn : Int) : EpochBooks :=
  { books with
    turns := Function.update books.turns fingerprint (books.turns fingerprint ++ [turn]) }

theorem EpochBooks.enter_turns (books : EpochBooks) (fingerprint : JsString) (turn : Int)
    (fingerprint' : JsString) :
    (books.enter fingerprint turn).turns fingerprint' =
      if fingerprint' = fingerprint then books.turns fingerprint ++ [turn]
      else books.turns fingerprint' :=
  Function.update_apply ..

def EpochBooks.record (env : FocusPlatform) (opts : FocusOptions) (g : ResearchFocusGuard)
    (books : EpochBooks) : FocusInput → EpochBooks
  | .before request =>
    if request.kind = .recall ∧ (g.beforeToolCall env opts request).2.block = false then
      books.enter (toolFingerprint env request.toolName request.input) request.turn
    else books
  | .externalChange => { books with signals := books.signals + 1 }
  | _ => books

def EpochBooks.after (env : FocusPlatform) (opts : FocusOptions) (g : ResearchFocusGuard)
    (books : EpochBooks) (input : FocusInput) : EpochBooks :=
  if (g.step env opts input).progressEpoch = g.progressEpoch then books.record env opts g input
  else .empty

def watch (env : FocusPlatform) (opts : FocusOptions) (s : ResearchFocusGuard × EpochBooks)
    (input : FocusInput) : ResearchFocusGuard × EpochBooks :=
  (s.1.step env opts input, s.2.after env opts s.1 input)

/-- The `i`-th recall is the first one, or comes an interval after the one before it. -/
def comesSpaced (opts : FocusOptions) (turns : List Int) (i : Nat) : Bool :=
  i = 0 || decide (opts.recallProbeIntervalTurns ≤ turns.getD i 0 - turns.getD (i - 1) 0)

/-- The recalls beyond the limit that come after the interval. -/
def probes (opts : FocusOptions) (turns : List Int) : Nat :=
  (List.range turns.length).countP fun i => decide (opts.maxDuplicateReadsPerEpoch ≤ i) && comesSpaced opts turns i

/-- The recalls beyond the limit that come before it. -/
def early (opts : FocusOptions) (turns : List Int) : Nat :=
  (List.range turns.length).countP fun i => decide (opts.maxDuplicateReadsPerEpoch ≤ i) && !comesSpaced opts turns i

/-! ## Counting -/

variable {turns : List Int} {turn : Int}

theorem length_le_probes_add_early (opts : FocusOptions) (turns : List Int) :
    turns.length ≤ opts.maxDuplicateReadsPerEpoch + probes opts turns + early opts turns := by
  unfold probes early
  generalize turns.length = n
  induction n with
  | zero => exact Nat.zero_le _
  | succ n ih =>
    simp only [List.range_succ, List.countP_append, List.countP_singleton]
    by_cases hle : opts.maxDuplicateReadsPerEpoch ≤ n
    · cases comesSpaced opts turns n <;> simp [hle] <;> omega
    · omega

theorem comesSpaced_concat_lt {i : Nat} (h : i < turns.length) :
    comesSpaced opts (turns ++ [turn]) i = comesSpaced opts turns i := by
  have hbef : i - 1 < turns.length := by omega
  simp [comesSpaced, List.getElem?_append_left h, List.getElem?_append_left hbef]

/-- The recall at the end comes an interval after the last one. -/
def EndsSpaced (opts : FocusOptions) (last : Option Int) (turn : Int) : Prop :=
  ∀ t ∈ last, opts.recallProbeIntervalTurns ≤ turn - t

theorem comesSpaced_concat (h : EndsSpaced opts turns.getLast? turn) :
    comesSpaced opts (turns ++ [turn]) turns.length = true := by
  rcases turns.eq_nil_or_concat with rfl | ⟨before, last, rfl⟩
  · rfl
  · have hspaced := h last (by simp)
    simp [comesSpaced, List.getD_eq_getElem?_getD, hspaced]

theorem early_concat (opts : FocusOptions) (turns : List Int) (turn : Int) :
    early opts (turns ++ [turn]) = early opts turns +
      if opts.maxDuplicateReadsPerEpoch ≤ turns.length ∧ comesSpaced opts (turns ++ [turn]) turns.length = false
      then 1 else 0 := by
  unfold early
  rw [List.length_append, List.length_singleton, List.range_succ, List.countP_append,
    List.countP_singleton]
  congr 1
  · refine List.countP_congr fun i hi => ?_
    rw [comesSpaced_concat_lt (List.mem_range.mp hi)]
  · simp

/-! ## What the guard remembers of recalls -/

/-- What the guard decides a recall by. -/
structure RecallState where
  progressEpoch : Nat
  readCounts : JsMap JsString ReadCount
  externalProbeAvailable : Bool

def ResearchFocusGuard.recallState (g : ResearchFocusGuard) : RecallState where
  progressEpoch := g.progressEpoch
  readCounts := g.readCounts
  externalProbeAvailable := g.externalProbeAvailable

@[simp] theorem turn_recallState (g : ResearchFocusGuard) (n : Int) :
    (g.turn n).1.recallState = g.recallState := by
  unfold ResearchFocusGuard.turn
  split
  · rfl
  · rfl

variable (env opts) in
theorem countConvergence_recallState (g : ResearchFocusGuard) (call : TrackedCall) :
    (g.countConvergence env opts call).recallState = g.recallState := by
  unfold ResearchFocusGuard.countConvergence
  split
  · rfl
  · split
    · rfl
    · rfl

variable (env opts) in
theorem countDurable_recallState (g : ResearchFocusGuard) (call : TrackedCall) (changed : Bool) :
    (g.countDurable env opts call changed).recallState = g.recallState := by
  unfold ResearchFocusGuard.countDurable
  split
  · rfl
  · split
    · rfl
    · rfl

theorem finishTurn_recallState (g : ResearchFocusGuard) (n : Int) (toolOnly : Bool) :
    (g.finishTurn n toolOnly).1.recallState = g.recallState := by
  unfold ResearchFocusGuard.finishTurn
  split
  · rfl
  · rfl

theorem nextEpoch_recallState {origin : ResearchFocusGuard}
    (h : g.recallState = origin.recallState) (n : Int) :
    (g.nextEpoch n).recallState = ⟨origin.progressEpoch + 1, .empty, false⟩ :=
  congrArg (fun epoch => (⟨epoch + 1, .empty, false⟩ : RecallState))
    (congrArg RecallState.progressEpoch ((turn_recallState g n).trans h))

variable (env opts) in
/-- An outcome is progress, and all counts of recalls are forgotten, or it leaves them. -/
theorem afterToolCall_recallState (g : ResearchFocusGuard) (outcome : ResearchFocusToolOutcome) :
    (g.afterToolCall env opts outcome).1.recallState = g.recallState ∨
      (g.afterToolCall env opts outcome).1.recallState = ⟨g.progressEpoch + 1, .empty, false⟩ := by
  unfold ResearchFocusGuard.afterToolCall
  cases g.accepted env outcome with
  | none => exact .inl rfl
  | some call =>
    simp only
    split
    · refine .inr (nextEpoch_recallState ?_ call.turn)
      exact (countDurable_recallState env opts _ call _).trans
        (countConvergence_recallState env opts g call)
    · exact .inl (countConvergence_recallState env opts g call)

def RecallState.previous (s : RecallState) (fingerprint : JsString) : Option ReadCount :=
  (s.readCounts.get? fingerprint).filter (·.epoch = s.progressEpoch)

/-- How often the guard has admitted a fingerprint in this epoch, as far as it counts. -/
def RecallState.count (s : RecallState) (fingerprint : JsString) : Nat :=
  ((s.previous fingerprint).map ReadCount.count).getD 0

def RecallState.counted (s : RecallState) (fingerprint : JsString) (n : Nat) (turn : Int)
    (available : Bool) : RecallState :=
  ⟨s.progressEpoch, s.readCounts.set fingerprint ⟨s.progressEpoch, n, turn⟩, available⟩

/-- An admitted recall is below the limit, after the interval, or uses the external change. -/
inductive Admitted (opts : FocusOptions) (s : RecallState) (fingerprint : JsString) (turn : Int) :
    RecallState → Prop
  | below (h : s.count fingerprint < opts.maxDuplicateReadsPerEpoch) :
    Admitted opts s fingerprint turn
      (s.counted fingerprint (s.count fingerprint + 1) turn s.externalProbeAvailable)
  | spaced (h : opts.maxDuplicateReadsPerEpoch ≤ s.count fingerprint)
    (hspaced : EndsSpaced opts ((s.previous fingerprint).map ReadCount.lastAllowedTurn) turn) :
    Admitted opts s fingerprint turn
      (s.counted fingerprint opts.maxDuplicateReadsPerEpoch turn s.externalProbeAvailable)
  | external (h : opts.maxDuplicateReadsPerEpoch ≤ s.count fingerprint)
    (havailable : s.externalProbeAvailable = true) :
    Admitted opts s fingerprint turn
      (s.counted fingerprint opts.maxDuplicateReadsPerEpoch turn false)

theorem beforeRecall_cases (g : ResearchFocusGuard) (request : ResearchFocusToolRequest) :
    let answer := g.beforeRecall env opts request
    (answer.2.block = true ∧ answer.1.recallState = g.recallState) ∨
      (answer.2.block = false ∧
        Admitted opts g.recallState (toolFingerprint env request.toolName request.input)
          request.turn answer.1.recallState) := by
  set s := g.recallState with hs
  set fingerprint := toolFingerprint env request.toolName request.input with hfingerprint
  have hprev : (g.readCounts.get? fingerprint).filter (·.epoch = g.progressEpoch) =
      s.previous fingerprint := rfl
  unfold ResearchFocusGuard.beforeRecall
  simp only [← hfingerprint, hprev]
  by_cases hbelow : s.count fingerprint < opts.maxDuplicateReadsPerEpoch
  · have hnot : ¬ opts.maxDuplicateReadsPerEpoch ≤ s.count fingerprint := by omega
    simp only [RecallState.count] at hnot
    simp only [hnot, decide_false, Bool.false_and, Bool.false_eq_true, if_false]
    exact .inr ⟨rfl, .below hbelow⟩
  · have hle : opts.maxDuplicateReadsPerEpoch ≤ s.count fingerprint := by omega
    have hcount := hle
    simp only [RecallState.count] at hcount
    cases hpassed : ((s.previous fingerprint).map fun p =>
        decide (request.turn - p.lastAllowedTurn ≥ opts.recallProbeIntervalTurns)).getD true with
    | true =>
      simp only [hcount, decide_true, Bool.and_true, Bool.true_or, Bool.not_true,
        Bool.and_false, Bool.false_and, Bool.false_eq_true, if_false, if_true]
      refine .inr ⟨rfl, .spaced hle ?_⟩
      intro t ht
      obtain ⟨p, hp, rfl⟩ := Option.map_eq_some_iff.mp ht
      rw [hp] at hpassed
      exact of_decide_eq_true hpassed
    | false =>
      cases havailable : g.externalProbeAvailable with
      | true =>
        simp only [hcount, decide_true, Bool.and_true, Bool.and_false, Bool.not_false, Bool.false_or,
          Bool.not_true, Bool.false_eq_true, if_false, if_true]
        exact .inr ⟨rfl, .external hle havailable⟩
      | false =>
        simp only [hcount, decide_true, Bool.and_true, Bool.and_false, Bool.not_false, Bool.false_or,
          if_true]
        exact .inl ⟨trivial, rfl⟩

variable (env opts) in
theorem beforeToolCall_cases (g : ResearchFocusGuard) (request : ResearchFocusToolRequest) :
    let answer := g.beforeToolCall env opts request
    (¬(request.kind = .recall ∧ answer.2.block = false) ∧ answer.1.recallState = g.recallState) ∨
      ((request.kind = .recall ∧ answer.2.block = false) ∧
        Admitted opts g.recallState (toolFingerprint env request.toolName request.input)
          request.turn answer.1.recallState) := by
  have hturn := turn_recallState g request.turn
  unfold ResearchFocusGuard.beforeToolCall
  simp only
  split
  · exact .inl ⟨fun h => absurd h.2 (by simp), hturn⟩
  · split
    · exact .inl ⟨fun h => absurd h.2 (by simp), hturn⟩
    · split
      next hkind => exact .inl ⟨fun h => hkind h.1, hturn⟩
      next hkind =>
        rcases beforeRecall_cases (g.turn request.turn).1 request with
          ⟨hblock, hsame⟩ | ⟨hpass, hadm⟩
        · exact .inl ⟨fun h => by simp [h.2] at hblock, hsame.trans hturn⟩
        · rw [hturn] at hadm
          exact .inr ⟨⟨not_not.mp hkind, hpass⟩, hadm⟩

/-! ## The books -/

/-- The counts of the guard are those of the books, and the recalls that came early have used
up external signals. -/
structure RecallBooks (opts : FocusOptions) (s : RecallState) (books : EpochBooks) : Prop where
  count : ∀ fingerprint, s.count fingerprint =
    min (books.turns fingerprint).length opts.maxDuplicateReadsPerEpoch
  last : ∀ fingerprint, (s.previous fingerprint).map ReadCount.lastAllowedTurn =
    (books.turns fingerprint).getLast?
  signalled : ∀ fingerprints : Finset JsString,
    (∑ fingerprint ∈ fingerprints, early opts (books.turns fingerprint)) +
      s.externalProbeAvailable.toNat ≤ books.signals

variable {s s' : RecallState} {books : EpochBooks} {fingerprint : JsString}

theorem recallBooks_empty (opts : FocusOptions) (epoch : Nat) :
    RecallBooks opts ⟨epoch, .empty, false⟩ .empty where
  count _ := rfl
  last _ := rfl
  signalled _ := by simp [EpochBooks.empty, early]

theorem counted_previous (s : RecallState) (fingerprint : JsString) (n : Nat) (turn : Int)
    (available : Bool) (fingerprint' : JsString) :
    (s.counted fingerprint n turn available).previous fingerprint' =
      if fingerprint' = fingerprint then some ⟨s.progressEpoch, n, turn⟩
      else s.previous fingerprint' := by
  unfold RecallState.previous RecallState.counted
  simp only [JsMap.get?_set]
  split
  · simp [Option.filter]
  · rfl

theorem Admitted.counted (h : Admitted opts s fingerprint turn s') (hbooks : RecallBooks opts s books) :
    ∃ available, s' = s.counted fingerprint
      (min ((books.turns fingerprint).length + 1) opts.maxDuplicateReadsPerEpoch) turn available := by
  have hcount := hbooks.count fingerprint
  cases h with
  | below h | spaced h _ | external h _ => exact ⟨_, by congr 1; omega⟩

/-- One more recall that comes early uses up the external change. -/
theorem Admitted.early_le (h : Admitted opts s fingerprint turn s')
    (hbooks : RecallBooks opts s books) :
    early opts (books.turns fingerprint ++ [turn]) + s'.externalProbeAvailable.toNat ≤
      early opts (books.turns fingerprint) + s.externalProbeAvailable.toNat := by
  have hcount := hbooks.count fingerprint
  rw [early_concat]
  cases h with
  | below h =>
    rw [if_neg fun hearly => by omega]
    exact le_rfl
  | spaced h hspaced =>
    rw [hbooks.last] at hspaced
    rw [comesSpaced_concat hspaced, if_neg fun hearly => by simp at hearly]
    exact le_rfl
  | external h havailable =>
    rw [havailable]
    show _ + (if _ then 1 else 0) + 0 ≤ _ + 1
    split
    · exact le_rfl
    · exact Nat.le_succ _

theorem sum_enter_of_not_mem (fingerprints : Finset JsString) (h : fingerprint ∉ fingerprints) :
    ∑ f ∈ fingerprints, early opts ((books.enter fingerprint turn).turns f) =
      ∑ f ∈ fingerprints, early opts (books.turns f) :=
  Finset.sum_congr rfl fun f hf => by
    rw [EpochBooks.enter_turns, if_neg (ne_of_mem_of_not_mem hf h)]

theorem RecallBooks.enter (hbooks : RecallBooks opts s books)
    (h : Admitted opts s fingerprint turn s') : RecallBooks opts s' (books.enter fingerprint turn) := by
  have hearly := h.early_le hbooks
  obtain ⟨available, rfl⟩ := h.counted hbooks
  constructor
  · intro fingerprint'
    rw [RecallState.count, counted_previous, EpochBooks.enter_turns]
    split
    · simp
    · exact hbooks.count fingerprint'
  · intro fingerprint'
    rw [counted_previous, EpochBooks.enter_turns]
    split
    · simp
    · exact hbooks.last fingerprint'
  · intro fingerprints
    have hsum := hbooks.signalled fingerprints
    show _ ≤ books.signals
    by_cases hmem : fingerprint ∈ fingerprints
    · rw [← Finset.add_sum_erase _ _ hmem] at hsum ⊢
      rw [sum_enter_of_not_mem _ (Finset.notMem_erase _ _), EpochBooks.enter_turns, if_pos rfl]
      omega
    · rw [early_concat] at hearly
      rw [sum_enter_of_not_mem _ hmem]
      omega

theorem Admitted.progressEpoch_eq (h : Admitted opts s fingerprint turn s') :
    s'.progressEpoch = s.progressEpoch := by
  cases h <;> rfl

theorem RecallBooks.same {input : FocusInput} (h : RecallBooks opts g.recallState books)
    (hsame : (g.step env opts input).recallState = g.recallState)
    (hrec : books.record env opts g input = books) :
    RecallBooks opts (g.step env opts input).recallState (books.after env opts g input) := by
  have hepoch : (g.step env opts input).progressEpoch = g.progressEpoch :=
    congrArg RecallState.progressEpoch hsame
  rw [EpochBooks.after, if_pos hepoch, hrec, hsame]
  exact h

theorem RecallBooks.step (h : RecallBooks opts g.recallState books) (input : FocusInput) :
    RecallBooks opts (g.step env opts input).recallState (books.after env opts g input) := by
  cases input with
  | before request =>
    rcases beforeToolCall_cases env opts g request with
      ⟨hnot, hsame⟩ | ⟨hrecall, hadm⟩
    · exact h.same hsame (if_neg hnot)
    · have hepoch : (g.step env opts (.before request)).progressEpoch = g.progressEpoch :=
        hadm.progressEpoch_eq
      rw [EpochBooks.after, if_pos hepoch, EpochBooks.record, if_pos hrecall]
      exact h.enter hadm
  | after outcome =>
    rcases afterToolCall_recallState env opts g outcome with hsame | hnext
    · exact h.same hsame rfl
    · have hepoch : (g.step env opts (.after outcome)).progressEpoch = g.progressEpoch + 1 :=
        congrArg RecallState.progressEpoch hnext
      rw [EpochBooks.after, if_neg (by omega)]
      exact hnext ▸ recallBooks_empty opts _
  | finish n toolOnly => exact h.same (finishTurn_recallState g n toolOnly) rfl
  | externalChange =>
    have hepoch : (g.step env opts .externalChange).progressEpoch = g.progressEpoch := rfl
    rw [EpochBooks.after, if_pos hepoch]
    refine ⟨h.count, h.last, fun fingerprints => ?_⟩
    have hsum := h.signalled fingerprints
    exact Nat.add_le_add_right (le_trans (Nat.le_add_right _ _) hsum) 1
  | noteSteering messages => exact h.same rfl rfl
  | replaceSteering messages => exact h.same rfl rfl

/-! ## The bound -/

/-- Of a fingerprint no more recalls are admitted than the limit, the probes after the interval
and one for each external signal; and a signal does so for one fingerprint only. -/
structure RecallsBounded (opts : FocusOptions) (books : EpochBooks) : Prop where
  bounded : ∀ fingerprint, (books.turns fingerprint).length ≤ opts.maxDuplicateReadsPerEpoch +
    probes opts (books.turns fingerprint) + books.signals
  together : ∀ fingerprints : Finset JsString,
    ∑ fingerprint ∈ fingerprints, early opts (books.turns fingerprint) ≤ books.signals

theorem RecallBooks.bounded (h : RecallBooks opts s books) : RecallsBounded opts books where
  bounded fingerprint := by
    have hearly := h.signalled {fingerprint}
    rw [Finset.sum_singleton] at hearly
    have hlen := length_le_probes_add_early opts (books.turns fingerprint)
    omega
  together fingerprints := le_trans (Nat.le_add_right _ _) (h.signalled fingerprints)

variable (opts) in
theorem create_recallState (initialState : Option ResearchFocusPersistedState) :
    ∃ epoch, (create opts initialState).recallState = ⟨epoch, .empty, false⟩ := by
  unfold create restore
  split
  · split
    · split
      · exact ⟨_, rfl⟩
      · exact ⟨_, rfl⟩
    · exact ⟨_, rfl⟩
  · exact ⟨_, rfl⟩

/-- At every moment of every run the recalls that were admitted in the current epoch are
bounded. -/
theorem reached_recallsBounded (env : FocusPlatform) (opts : FocusOptions)
    (initialState : Option ResearchFocusPersistedState) (inputs : List FocusInput) :
    RecallsBounded opts
      (runSteps (watch env opts) (create opts initialState, .empty) inputs).2 := by
  have hstart : RecallBooks opts (create opts initialState).recallState .empty := by
    obtain ⟨epoch, hcreated⟩ := create_recallState opts initialState
    rw [hcreated]
    exact recallBooks_empty opts epoch
  exact (runSteps_invariant
    (I := fun s : ResearchFocusGuard × EpochBooks => RecallBooks opts s.1.recallState s.2)
    (fun _ input h => h.step input) hstart inputs).bounded

end Beale.Focus
