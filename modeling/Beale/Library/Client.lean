import Beale.Library.Run

/-!
# Clients of a shared store

A client reads the store, decides, and writes in transactions that commit or roll back. Reads
and transactions are atomic; what lies between them is not.
-/

namespace Beale.Library

variable {δ ε α β : Type}

/-! ## Clients -/

/-- What a client does until it returns or throws. An error in a transaction rolls it back and
is thrown. -/
inductive Client (δ ε α : Type) where
  | done (result : Except ε α)
  | read (next : δ → Client δ ε α)
  | transact (body : δ → Except ε δ) (next : Client δ ε α)

namespace Client

/-- One client after the other; an error skips the rest. -/
def bind : Client δ ε α → (α → Client δ ε β) → Client δ ε β
  | .done (.ok a), f => f a
  | .done (.error e), _ => .done (.error e)
  | .read next, f => .read fun s => (next s).bind f
  | .transact body next, f => .transact body (next.bind f)

instance : Monad (Client δ ε) where
  pure a := .done (.ok a)
  bind := bind

/-- What a computation without the store gives. -/
def check (result : Except ε α) : Client δ ε α := .done result

def query (f : δ → α) : Client δ ε α := .read fun s => .done (.ok (f s))

def commit (body : δ → Except ε δ) : Client δ ε Unit := .transact body (.done (.ok ()))

/-- The client alone: what it returns, and the store it leaves. -/
def run : Client δ ε α → δ → Except ε α × δ
  | .done result, s => (result, s)
  | .read next, s => (next s).run s
  | .transact body next, s =>
    match body s with
    | .ok s' => next.run s'
    | .error e => (.error e, s)

theorem bind_def (c : Client δ ε α) (f : α → Client δ ε β) : c >>= f = c.bind f := rfl

@[simp] theorem run_pure (a : α) (s : δ) : (pure a : Client δ ε α).run s = (.ok a, s) := rfl

@[simp] theorem run_check (r : Except ε α) (s : δ) : (check r).run s = (r, s) := rfl

@[simp] theorem run_query (f : δ → α) (s : δ) : (query f : Client δ ε α).run s = (.ok (f s), s) := rfl

theorem run_commit (body : δ → Except ε δ) (s : δ) :
    (commit body).run s = match body s with
      | .ok s' => (.ok (), s')
      | .error e => (.error e, s) := rfl

theorem run_bind (c : Client δ ε α) (f : α → Client δ ε β) (s : δ) :
    (c >>= f).run s = match c.run s with
      | (.ok a, s') => (f a).run s'
      | (.error e, s') => (.error e, s') := by
  rw [bind_def]
  induction c generalizing s with
  | done result =>
    cases result with
    | ok a => rfl
    | error e => rfl
  | read next ih => exact ih s s
  | transact body next ih =>
    show (Client.transact body (next.bind f)).run s = _
    simp only [run]
    cases body s with
    | ok s' => exact ih s'
    | error e => rfl

/-- One turn: what is left to do, and the store where the client has committed. -/
def advance : Client δ ε α → δ → Client δ ε α × Option δ
  | .done result, _ => (.done result, none)
  | .read next, s => (next s, none)
  | .transact body next, s =>
    match body s with
    | .ok s' => (next, some s')
    | .error e => (.done (.error e), none)

variable {x : Except ε α} {b : β} {f : α → Except ε β}

theorem exceptBind_ok : (x >>= f) = .ok b ↔ ∃ a, x = .ok a ∧ f a = .ok b := by
  cases x with
  | ok a =>
    constructor
    · exact fun h => ⟨a, rfl, h⟩
    · rintro ⟨a', ha, h⟩
      rw [Except.ok.inj ha]
      exact h
  | error e =>
    constructor
    · nofun
    · rintro ⟨a, ha, -⟩
      cases ha

theorem exceptBind_succeeds {a : α} (hx : x = .ok a)
    (hf : ∃ b, f a = .ok b) : ∃ b, (x >>= f) = .ok b := by
  obtain ⟨b, hb⟩ := hf
  exact ⟨b, exceptBind_ok.mpr ⟨a, hx, hb⟩⟩

/-- A check, before what follows it. -/
theorem exceptThen_ok {x : Except ε Unit} {f : Unit → Except ε β} :
    (x >>= f) = .ok b ↔ x = .ok () ∧ f () = .ok b := by
  rw [exceptBind_ok]
  constructor
  · rintro ⟨⟨⟩, h⟩
    exact h
  · exact fun h => ⟨(), h⟩

theorem exceptMap_ok {f : α → β} : x.map f = .ok b ↔ ∃ a, x = .ok a ∧ f a = b := by
  cases x with
  | error e => exact ⟨nofun, fun ⟨_, h, _⟩ => nomatch h⟩
  | ok a => exact ⟨fun h => ⟨a, rfl, Except.ok.inj h⟩, fun ⟨_, ha, h⟩ => Except.ok.inj ha ▸ congrArg _ h⟩

variable {k : PUnit → Except ε α} {c : Prop}

/-- A check that throws, before what follows it. -/
theorem exceptGuard_ok [Decidable c] {e : ε} {a : α} :
    (if c then throw e >>= k else k ⟨⟩) = .ok a ↔ ¬c ∧ k ⟨⟩ = .ok a := by
  by_cases hc : c
  · rw [if_pos hc]
    exact ⟨nofun, fun h => absurd hc h.1⟩
  · rw [if_neg hc]
    exact ⟨fun h => ⟨hc, h⟩, fun h => h.2⟩

theorem exceptGuard_succeeds [Decidable c] {e : ε} (hc : ¬c)
    (hk : ∃ a, k ⟨⟩ = .ok a) : ∃ a, (if c then throw e >>= k else k ⟨⟩) = .ok a := by
  obtain ⟨a, ha⟩ := hk
  exact ⟨a, exceptGuard_ok.mpr ⟨hc, ha⟩⟩

variable {l : List α}

/-- A check of every element passes just where each of them does. -/
theorem exceptForM_ok {f : α → Except ε Unit} : l.forM f = .ok () ↔ ∀ a ∈ l, f a = .ok () := by
  induction l with
  | nil => exact ⟨fun _ _ ha => absurd ha List.not_mem_nil, fun _ => rfl⟩
  | cons a rest ih =>
    rw [show (a :: rest).forM f = (f a >>= fun _ => rest.forM f) from rfl, exceptThen_ok, ih,
      List.forall_mem_cons]

/-- The results of all the elements, in order. -/
theorem exceptMapM_ok {bs : List β} :
    l.mapM f = .ok bs ↔ List.Forall₂ (fun a b => f a = .ok b) l bs := by
  induction l generalizing bs with
  | nil =>
    constructor
    · intro h
      cases h
      exact .nil
    · rintro ⟨⟩
      rfl
  | cons a rest ih =>
    rw [List.mapM_cons, exceptBind_ok]
    constructor
    · rintro ⟨b, hb, h⟩
      obtain ⟨bs', hbs', h⟩ := exceptBind_ok.mp h
      cases h
      exact .cons hb (ih.mp hbs')
    · rintro (_ | ⟨hb, hbs⟩)
      exact ⟨_, hb, exceptBind_ok.mpr ⟨_, ih.mpr hbs, rfl⟩⟩

theorem exceptMapM_succeeds (h : ∀ a ∈ l, ∃ b, f a = .ok b) :
    ∃ bs, l.mapM f = .ok bs ∧ ∀ b ∈ bs, ∃ a ∈ l, f a = .ok b := by
  induction l with
  | nil => exact ⟨[], rfl, fun _ hb => absurd hb List.not_mem_nil⟩
  | cons a rest ih =>
    obtain ⟨b, hb⟩ := h a List.mem_cons_self
    obtain ⟨bs, hbs, hmem⟩ := ih fun a ha => h a (List.mem_cons_of_mem _ ha)
    refine ⟨b :: bs, ?_, fun b' hb' => ?_⟩
    · rw [List.mapM_cons]
      exact exceptBind_ok.mpr ⟨b, hb, exceptBind_ok.mpr ⟨bs, hbs, rfl⟩⟩
    · rcases List.mem_cons.mp hb' with rfl | hb'
      · exact ⟨a, List.mem_cons_self, hb⟩
      · obtain ⟨a', ha', hfa'⟩ := hmem b' hb'
        exact ⟨a', List.mem_cons_of_mem _ ha', hfa'⟩

/-- A value computed in one of two ways, before what follows it. -/
theorem exceptEither_ok [Decidable c] {y : Except ε α} {k : α → Except ε β}
    (h : (if c then x >>= k else y >>= k) = .ok b) : ∃ a, k a = .ok b := by
  split at h
  · exact (exceptBind_ok.mp h).imp fun _ h => h.2
  · exact (exceptBind_ok.mp h).imp fun _ h => h.2

/-- A value computed in one of three ways, before what follows it. -/
theorem exceptChoice_ok {d : Prop} [Decidable c] [Decidable d] {y z : Except ε α}
    {k : α → Except ε β}
    (h : (if c then x >>= k else if d then y >>= k else z >>= k) = .ok b) : ∃ a, k a = .ok b := by
  split at h
  · exact (exceptBind_ok.mp h).imp fun _ h => h.2
  · exact exceptEither_ok h

/-- What every turn of a loop keeps holds after the loop. -/
theorem exceptFoldl_keeps {f : β → α → Except ε β} {P : β → Prop}
    (hturn : ∀ b, ∀ a ∈ l, ∀ b', P b → f b a = .ok b' → P b') {b' : β} (hb : P b)
    (h : l.foldlM f b = .ok b') : P b' := by
  induction l generalizing b with
  | nil =>
    cases h
    exact hb
  | cons a rest ih =>
    rw [List.foldlM_cons] at h
    obtain ⟨next, hnext, h⟩ := exceptBind_ok.mp h
    exact ih (fun b a ha => hturn b a (List.mem_cons_of_mem _ ha))
      (hturn b a List.mem_cons_self next hb hnext) h

def ReadsOnly : Client δ ε α → Prop
  | .done _ => True
  | .read next => ∀ s, (next s).ReadsOnly
  | .transact _ _ => False

theorem readsOnly_check (r : Except ε α) : (check r : Client δ ε α).ReadsOnly := trivial

theorem readsOnly_query (f : δ → α) : (query f : Client δ ε α).ReadsOnly := fun _ => trivial

theorem readsOnly_pure (a : α) : (pure a : Client δ ε α).ReadsOnly := trivial

variable {c : Client δ ε α} {f : α → Client δ ε β}

theorem ReadsOnly.bind (h : c.ReadsOnly) (hf : ∀ a, (f a).ReadsOnly) : (c >>= f).ReadsOnly := by
  rw [bind_def]
  induction c with
  | done result =>
    cases result with
    | ok a => exact hf a
    | error e => trivial
  | read next ih => exact fun s => ih s (h s)
  | transact body next ih => exact h.elim

/-- Alone, a client that does not write leaves the store. -/
theorem ReadsOnly.run (h : c.ReadsOnly) (s : δ) : (c.run s).2 = s := by
  induction c with
  | done result => rfl
  | read next ih => exact ih s (h s)
  | transact body next ih => exact h.elim

/-! ## Keeping to a protocol -/

/-- From `s` on, where between two turns only `R` happens and the store keeps `I`, each commit
does `G`, and what is returned meets `Q` in the store as it was last seen. -/
def Obeys (I : δ → Prop) (R G : δ → δ → Prop) (Q : α → δ → Prop) : Client δ ε α → δ → Prop
  | .done (.ok a), s => Q a s
  | .done (.error _), _ => True
  | .read next, s => ∀ s', R s s' → I s' → (next s').Obeys I R G Q s'
  | .transact body next, s => ∀ s', R s s' → I s' → ∀ s'', body s' = .ok s'' →
    G s' s'' ∧ next.Obeys I R G Q s''

variable {I : δ → Prop} {R G : δ → δ → Prop} {Q : α → δ → Prop} {s : δ}

theorem Obeys.bind {Q' : β → δ → Prop}
    (h : c.Obeys I R G Q s) (hf : ∀ a s', Q a s' → (f a).Obeys I R G Q' s') :
    (c >>= f).Obeys I R G Q' s := by
  rw [bind_def]
  induction c generalizing s with
  | done result =>
    cases result with
    | ok a => exact hf a s h
    | error e => trivial
  | read next ih => exact fun s' hR hI => ih s' (h s' hR hI)
  | transact body next ih =>
    intro s' hR hI s'' hbody
    obtain ⟨hG, hnext⟩ := h s' hR hI s'' hbody
    exact ⟨hG, ih hnext⟩

theorem Obeys.check {r : Except ε α} (h : ∀ a, r = .ok a → Q a s) : (check r).Obeys I R G Q s := by
  cases r with
  | ok a => exact h a rfl
  | error e => trivial

theorem Obeys.query {f : δ → α}
    (h : ∀ s', R s s' → I s' → Q (f s') s') : (query f : Client δ ε α).Obeys I R G Q s :=
  fun s' hR hI => h s' hR hI

variable {body : δ → Except ε δ}

theorem Obeys.commit {Q : Unit → δ → Prop}
    (h : ∀ s', R s s' → I s' → ∀ s'', body s' = .ok s'' → G s' s'' ∧ Q () s'') :
    (commit body).Obeys I R G Q s :=
  fun s' hR hI s'' hbody => h s' hR hI s'' hbody

theorem Obeys.mono {Q' : α → δ → Prop} (h : c.Obeys I R G Q s)
    (hQ : ∀ a s', Q a s' → Q' a s') : c.Obeys I R G Q' s := by
  induction c generalizing s with
  | done result =>
    cases result with
    | ok a => exact hQ a s h
    | error e => trivial
  | read next ih => exact fun s' hR hI => ih s' (h s' hR hI)
  | transact body next ih =>
    intro s' hR hI s'' hbody
    obtain ⟨hG, hnext⟩ := h s' hR hI s'' hbody
    exact ⟨hG, ih hnext⟩

/-- While a client reads, it keeps what it has learned. -/
theorem ReadsOnly.obeys (h : c.ReadsOnly) {Q : δ → Prop}
    (hQ : ∀ s s', R s s' → Q s → Q s') (hs : Q s) : c.Obeys I R G (fun _ => Q) s := by
  induction c generalizing s with
  | done result =>
    cases result with
    | ok a => exact hs
    | error e => trivial
  | read next ih => exact fun s' hR _ => ih s' (h s') (hQ s s' hR hs)
  | transact body next ih => exact h.elim

/-! ## How often a client commits -/

/-- After `n` commits so far, whatever is read, what is returned or thrown meets `P` with the
number of commits at the end. -/
def Ends (P : Nat → Except ε α → Prop) : Client δ ε α → Nat → Prop
  | .done result, n => P n result
  | .read next, n => ∀ s, (next s).Ends P n
  | .transact _ next, n => (∀ e, P n (.error e)) ∧ next.Ends P (n + 1)

theorem Ends.bind {P : Nat → Except ε α → Prop}
    {P' : Nat → Except ε β → Prop} {n : Nat} (h : c.Ends P n)
    (herror : ∀ m e, P m (.error e) → P' m (.error e))
    (hok : ∀ m a, P m (.ok a) → (f a).Ends P' m) : (c >>= f).Ends P' n := by
  rw [bind_def]
  induction c generalizing n with
  | done result =>
    cases result with
    | ok a => exact hok n a h
    | error e => exact herror n e h
  | read next ih => exact fun s => ih s (h s)
  | transact body next ih => exact ⟨fun e => herror n e (h.1 e), ih h.2⟩

variable {P : Nat → Except ε β → Prop}

/-- Reads come before the first commit. -/
theorem Ends.of_reads
    {n : Nat} (h : c.ReadsOnly) (herror : ∀ e, P n (.error e)) (hf : ∀ a, (f a).Ends P n) :
    (c >>= f).Ends P n := by
  rw [bind_def]
  induction c with
  | done result =>
    cases result with
    | ok a => exact hf a
    | error e => exact herror e
  | read next ih => exact fun s => ih s (h s)
  | transact body next ih => exact h.elim

theorem Ends.of_commit {f : Unit → Client δ ε β} {n : Nat} (herror : ∀ e, P n (.error e))
    (hf : (f ()).Ends P (n + 1)) : (commit body >>= f).Ends P n :=
  ⟨herror, hf⟩

end Client

/-! ## Pools -/

variable {l η : Type}

/-- A client that has been started. -/
structure Task (l δ ε α : Type) where
  label : l
  rest : Client δ ε α

structure Commit (δ : Type) where
  task : Nat
  before : δ
  after : δ

/-- A store, the clients started so far, and what they have committed. -/
structure Pool (l δ ε α : Type) where
  store : δ
  tasks : List (Task l δ ε α)
  commits : List (Commit δ)

/-- A client is started, a client takes its turn, or something else happens to the store. -/
inductive Turn (l η : Type) where
  | start (label : l)
  | turn (task : Nat)
  | outside (event : η)

namespace Pool

/-- No client has been started. -/
def new (s : δ) : Pool l δ ε α := ⟨s, [], []⟩

def turn (p : Pool l δ ε α) (k : Nat) (task : Task l δ ε α) : Pool l δ ε α :=
  match task.rest.advance p.store with
  | (rest, none) => { p with tasks := p.tasks.set k { task with rest := rest } }
  | (rest, some s') =>
    { store := s'
      tasks := p.tasks.set k { task with rest := rest }
      commits := p.commits ++ [⟨k, p.store, s'⟩] }

variable {task : Task l δ ε α} {rest : Client δ ε α}

theorem turn_of_none {p : Pool l δ ε α} {k : Nat} (h : task.rest.advance p.store = (rest, none)) :
    p.turn k task = { p with tasks := p.tasks.set k { task with rest := rest } } := by
  unfold turn
  rw [h]

theorem turn_of_some {p : Pool l δ ε α} {k : Nat}
    {s' : δ} (h : task.rest.advance p.store = (rest, some s')) :
    p.turn k task =
      { store := s'
        tasks := p.tasks.set k { task with rest := rest }
        commits := p.commits ++ [⟨k, p.store, s'⟩] } := by
  unfold turn
  rw [h]

def step (program : l → Client δ ε α) (happens : δ → η → δ) (p : Pool l δ ε α) :
    Turn l η → Pool l δ ε α
  | .start label => { p with tasks := p.tasks ++ [⟨label, program label⟩] }
  | .turn k =>
    match p.tasks[k]? with
    | some task => p.turn k task
    | none => p
  | .outside event => { p with store := happens p.store event }

def commitsOf (p : Pool l δ ε α) (k : Nat) : Nat := p.commits.countP fun c => c.task = k

end Pool

/-! ## Protocols -/

/-- What a store keeps, what may happen between two turns, what happens between two commits,
and what a commit of a client does. -/
structure Protocol (l δ : Type) where
  inv : δ → Prop
  rely : δ → δ → Prop
  quiet : δ → δ → Prop
  own : l → δ → δ → Prop
  rely_refl : ∀ s, rely s s
  rely_trans : ∀ {s s' s''}, rely s s' → rely s' s'' → rely s s''
  quiet_refl : ∀ s, quiet s s
  quiet_trans : ∀ {s s' s''}, quiet s s' → quiet s' s'' → quiet s s''
  quiet_inv : ∀ {s s'}, inv s → quiet s s' → inv s'
  quiet_rely : ∀ {s s'}, inv s → quiet s s' → rely s s'
  own_inv : ∀ {label s s'}, inv s → own label s s' → inv s'
  own_rely : ∀ {label s s'}, inv s → own label s s' → rely s s'

/-- The commits lead from one store to another, with nothing but `quiet` steps in between. -/
def Linked (quiet : δ → δ → Prop) : δ → List (Commit δ) → δ → Prop
  | s, [], s' => quiet s s'
  | s, c :: cs, s' => quiet s c.before ∧ Linked quiet c.after cs s'

namespace Protocol

variable {P : Protocol l δ} {cs : List (Commit δ)}

theorem linked_quiet {s : δ} {s' s'' : δ} (h : Linked P.quiet s cs s')
    (hquiet : P.quiet s' s'') : Linked P.quiet s cs s'' := by
  induction cs generalizing s with
  | nil => exact P.quiet_trans h hquiet
  | cons c cs ih => exact ⟨h.1, ih h.2⟩

theorem linked_commit {s : δ} {s' : δ} (h : Linked P.quiet s cs s') (k : Nat)
    (s'' : δ) : Linked P.quiet s (cs ++ [⟨k, s', s''⟩]) s'' := by
  induction cs generalizing s with
  | nil => exact ⟨h, P.quiet_refl s''⟩
  | cons c cs ih => exact ⟨h.1, ih h.2⟩

def Owned (P : Protocol l δ) (c : Commit δ) : Prop := ∃ label, P.own label c.before c.after

/-- A later commit starts from what an earlier one has left. -/
theorem Linked.rely {s : δ} {s' : δ} (hs : P.inv s)
    (h : Linked P.quiet s cs s') (howned : ∀ c ∈ cs, P.Owned c) :
    P.rely s s' ∧ (∀ c ∈ cs, P.inv c.before ∧ P.rely s c.before) ∧
      cs.Pairwise fun c c' => P.rely c.after c'.before := by
  induction cs generalizing s with
  | nil => exact ⟨P.quiet_rely hs h, by simp, .nil⟩
  | cons c cs ih =>
    obtain ⟨hquiet, hrest⟩ := h
    have hbef : P.inv c.before := P.quiet_inv hs hquiet
    obtain ⟨label, hown⟩ := howned c (by simp)
    obtain ⟨hrely, hall, hpairs⟩ :=
      ih (P.own_inv hbef hown) hrest fun c' hc' => howned c' (by simp [hc'])
    have hto : P.rely s c.after :=
      P.rely_trans (P.quiet_rely hs hquiet) (P.own_rely hbef hown)
    refine ⟨P.rely_trans hto hrely, fun c' hc' => ?_, ?_⟩
    · rcases List.mem_cons.mp hc' with rfl | hc'
      · exact ⟨hbef, P.quiet_rely hs hquiet⟩
      · exact ⟨(hall c' hc').1, P.rely_trans hto (hall c' hc').2⟩
    · exact List.pairwise_cons.mpr ⟨fun c' hc' => (hall c' hc').2, hpairs⟩

end Protocol

/-- A pool that keeps a protocol, since the store `s`: its tasks obey, its commits are theirs,
and they alone have made the store; a task returns what meets `Q`, and ends as `ends` has it. -/
structure Pool.Keeps (P : Protocol l δ) (Q : l → α → δ → Prop)
    (ends : l → Nat → Except ε α → Prop) (s : δ) (p : Pool l δ ε α) : Prop where
  inv : P.inv p.store
  tasks : ∀ (k : Nat) (task : Task l δ ε α), p.tasks[k]? = some task →
    (∃ seen, P.rely seen p.store ∧
      task.rest.Obeys P.inv P.rely (P.own task.label) (Q task.label) seen) ∧
    task.rest.Ends (ends task.label) (p.commitsOf k)
  commits : ∀ c ∈ p.commits, ∃ task : Task l δ ε α, p.tasks[c.task]? = some task ∧
    P.own task.label c.before c.after
  linked : Linked P.quiet s p.commits p.store

namespace Pool

variable {P : Protocol l δ} {Q : l → α → δ → Prop} {ends : l → Nat → Except ε α → Prop} {program : l → Client δ ε α}
  {happens : δ → η → δ} {s : δ}

theorem keeps_new (hs : P.inv s) : (new s : Pool l δ ε α).Keeps P Q ends s where
  inv := hs
  tasks k task h := by simp [new] at h
  commits c hc := by simp [new] at hc
  linked := P.quiet_refl s

/-- A task that takes its turn keeps its label. -/
theorem label_set {tasks : List (Task l δ ε α)} {k : Nat} {task : Task l δ ε α}
    (hk : tasks[k]? = some task) (rest : Client δ ε α) {j : Nat} {other : Task l δ ε α}
    (hj : tasks[j]? = some other) :
    ∃ other', (tasks.set k { task with rest := rest })[j]? = some other' ∧
      other'.label = other.label := by
  rw [List.getElem?_set]
  by_cases hjk : k = j
  · subst hjk
    obtain ⟨hlt, -⟩ := List.getElem?_eq_some_iff.mp hk
    obtain rfl := Option.some.inj (hk.symm.trans hj)
    exact ⟨{ task with rest := rest }, by rw [if_pos rfl, if_pos hlt], rfl⟩
  · exact ⟨other, by rw [if_neg hjk, hj], rfl⟩

section

variable {p : Pool l δ ε α} (h : p.Keeps P Q ends s)
include h

theorem Keeps.turn {k : Nat} {task : Task l δ ε α}
    (hk : p.tasks[k]? = some task) : (p.turn k task).Keeps P Q ends s := by
  obtain ⟨⟨seen, hseen, hobeys⟩, hends⟩ := h.tasks k task hk
  -- whatever is left of the task, the others are as before
  have htasks : ∀ (rest : Client δ ε α) (s' : δ) (n : Nat → Nat), P.rely p.store s' →
      (∃ seen, P.rely seen s' ∧ rest.Obeys P.inv P.rely (P.own task.label) (Q task.label) seen) →
      rest.Ends (ends task.label) (n k) → (∀ j, j ≠ k → n j = p.commitsOf j) →
      ∀ (j : Nat) (other : Task l δ ε α), (p.tasks.set k { task with rest := rest })[j]? = some other →
        (∃ seen, P.rely seen s' ∧
          other.rest.Obeys P.inv P.rely (P.own other.label) (Q other.label) seen) ∧
        other.rest.Ends (ends other.label) (n j) := by
    intro rest s' n hrely hrest hrestEnds hn j other hj
    rw [List.getElem?_set] at hj
    by_cases hjk : k = j
    · subst hjk
      rw [if_pos rfl] at hj
      split at hj
      next =>
        cases hj
        exact ⟨hrest, hrestEnds⟩
      next => cases hj
    · rw [if_neg hjk] at hj
      obtain ⟨⟨seen', hseen', hobeys'⟩, hends'⟩ := h.tasks j other hj
      refine ⟨⟨seen', P.rely_trans hseen' hrely, hobeys'⟩, ?_⟩
      rw [hn j fun hj => hjk hj.symm]
      exact hends'
  -- the labels of the commits so far
  have hcommits : ∀ rest : Client δ ε α, ∀ c ∈ p.commits, ∃ task',
      (p.tasks.set k { task with rest := rest })[c.task]? = some task' ∧
        P.own task'.label c.before c.after := by
    intro rest c hc
    obtain ⟨other, hother, hown⟩ := h.commits c hc
    obtain ⟨other', hother', hlabel⟩ := label_set hk rest hother
    exact ⟨other', hother', hlabel ▸ hown⟩
  have hquiet : ∀ rest : Client δ ε α,
      (∃ seen, P.rely seen p.store ∧
        rest.Obeys P.inv P.rely (P.own task.label) (Q task.label) seen) →
      rest.Ends (ends task.label) (p.commitsOf k) →
      Keeps P Q ends s { p with tasks := p.tasks.set k { task with rest := rest } } :=
    fun rest hrest hrestEnds =>
      ⟨h.inv, htasks rest p.store p.commitsOf (P.rely_refl _) hrest hrestEnds fun _ _ => rfl,
        hcommits rest, h.linked⟩
  cases hrest : task.rest with
  | done result =>
    rw [hrest] at hobeys hends
    rw [turn_of_none (by rw [hrest]; rfl)]
    exact hquiet (.done result) ⟨seen, hseen, hobeys⟩ hends
  | read next =>
    rw [hrest] at hobeys hends
    rw [turn_of_none (by rw [hrest]; rfl)]
    exact hquiet (next p.store) ⟨p.store, P.rely_refl _, hobeys p.store hseen h.inv⟩ (hends p.store)
  | transact body next =>
    rw [hrest] at hobeys hends
    cases hbody : body p.store with
    | error e =>
      rw [turn_of_none (by rw [hrest, Client.advance, hbody])]
      exact hquiet (.done (.error e)) ⟨p.store, P.rely_refl _, trivial⟩ (hends.1 e)
    | ok s' =>
      rw [turn_of_some (by rw [hrest, Client.advance, hbody])]
      obtain ⟨hown, hnext⟩ := hobeys p.store hseen h.inv s' hbody
      have hcount : ∀ j, (p.commits ++ [(⟨k, p.store, s'⟩ : Commit δ)]).countP (fun c => c.task = j) =
          p.commitsOf j + if k = j then 1 else 0 := by
        intro j
        rw [List.countP_append, List.countP_singleton]
        simp [commitsOf]
      refine ⟨P.own_inv h.inv hown, ?_, fun c hc => ?_, Protocol.linked_commit h.linked k s'⟩
      · refine htasks next s'
          (fun j => (p.commits ++ [(⟨k, p.store, s'⟩ : Commit δ)]).countP fun c => c.task = j)
          (P.own_rely h.inv hown) ⟨s', P.rely_refl _, hnext⟩ ?_ fun j hj => ?_
        · show next.Ends _ (List.countP (fun c : Commit δ => c.task = k) _)
          rw [hcount k, if_pos rfl]
          exact hends.2
        · show List.countP (fun c : Commit δ => c.task = j) _ = _
          rw [hcount j, if_neg fun hkj => hj hkj.symm, Nat.add_zero]
      · rcases List.mem_append.mp hc with hc | hc
        · exact hcommits next c hc
        · obtain rfl := List.mem_singleton.mp hc
          obtain ⟨task', htask', hlabel⟩ := label_set hk next hk
          exact ⟨task', htask', hlabel ▸ hown⟩

theorem Keeps.start (hprogram : ∀ label s, P.inv s →
      (program label).Obeys P.inv P.rely (P.own label) (Q label) s)
    (hends : ∀ label, (program label).Ends (ends label) 0) (label : l) :
    Keeps P Q ends s { p with tasks := p.tasks ++ [⟨label, program label⟩] } := by
  have hold : ∀ {j : Nat} {other : Task l δ ε α}, p.tasks[j]? = some other →
      (p.tasks ++ [⟨label, program label⟩])[j]? = some other := fun hj => by
    rw [List.getElem?_append_left (List.getElem?_eq_some_iff.mp hj).1]
    exact hj
  refine ⟨h.inv, fun k task hk => ?_, fun c hc => ?_, h.linked⟩
  · rcases Nat.lt_or_ge k p.tasks.length with hlt | hge
    · have hk' : p.tasks[k]? = some task := by rwa [List.getElem?_append_left hlt] at hk
      exact h.tasks k task hk'
    · rw [List.getElem?_append_right hge, List.getElem?_singleton] at hk
      split at hk
      next hzero =>
        cases hk
        refine ⟨⟨p.store, P.rely_refl _, hprogram label p.store h.inv⟩, ?_⟩
        -- the new task has not committed
        have hnone : p.commitsOf k = 0 := by
          refine List.countP_eq_zero.mpr fun c hc => ?_
          obtain ⟨other, hother, -⟩ := h.commits c hc
          have hlt := (List.getElem?_eq_some_iff.mp hother).1
          have hne : c.task ≠ k := by omega
          simpa using hne
        show (program label).Ends (ends label) (p.commitsOf k)
        rw [hnone]
        exact hends label
      next => cases hk
  · obtain ⟨other, hother, hown⟩ := h.commits c hc
    exact ⟨other, hold hother, hown⟩

theorem Keeps.outside {s' : δ} (hquiet : P.quiet p.store s') :
    Keeps P Q ends s { p with store := s' } where
  inv := P.quiet_inv h.inv hquiet
  tasks k task hk := by
    obtain ⟨⟨seen, hseen, hobeys⟩, hends⟩ := h.tasks k task hk
    exact ⟨⟨seen, P.rely_trans hseen (P.quiet_rely h.inv hquiet), hobeys⟩, hends⟩
  commits := h.commits
  linked := P.linked_quiet h.linked hquiet

theorem Keeps.step (hprogram : ∀ label s, P.inv s →
      (program label).Obeys P.inv P.rely (P.own label) (Q label) s)
    (hends : ∀ label, (program label).Ends (ends label) 0)
    (happened : ∀ s event, P.quiet s (happens s event)) (i : Turn l η) :
    (p.step program happens i).Keeps P Q ends s := by
  cases i with
  | start label => exact h.start hprogram hends label
  | turn k =>
    simp only [Pool.step]
    cases hk : p.tasks[k]? with
    | none => exact h
    | some task => exact h.turn hk
  | outside event => exact h.outside (happened p.store event)

theorem Keeps.step_cases (happened : ∀ s event, P.quiet s (happens s event)) (i : Turn l η) :
    P.quiet p.store (p.step program happens i).store ∨
      ∃ (k : Nat) (task : Task l δ ε α) (body : δ → Except ε δ) (next : Client δ ε α),
        i = .turn k ∧ p.tasks[k]? = some task ∧ task.rest = .transact body next ∧
          body p.store = .ok (p.step program happens i).store ∧
          P.own task.label p.store (p.step program happens i).store := by
  cases i with
  | start label => exact .inl (P.quiet_refl _)
  | outside event => exact .inl (happened p.store event)
  | turn k =>
    simp only [Pool.step]
    cases hk : p.tasks[k]? with
    | none => exact .inl (P.quiet_refl _)
    | some task =>
      simp only
      cases hrest : task.rest with
      | done | read =>
        rw [turn_of_none (by rw [hrest]; rfl)]
        exact .inl (P.quiet_refl _)
      | transact body next =>
        obtain ⟨⟨seen, hseen, hobeys⟩, -⟩ := h.tasks k task hk
        rw [hrest] at hobeys
        cases hbody : body p.store with
        | error e =>
          rw [turn_of_none (by rw [hrest, Client.advance, hbody])]
          exact .inl (P.quiet_refl _)
        | ok s' =>
          rw [turn_of_some (by rw [hrest, Client.advance, hbody])]
          exact .inr ⟨k, task, body, next, rfl, hk, hrest, hbody,
            (hobeys p.store hseen h.inv s' hbody).1⟩

end

end Pool

end Beale.Library
