import PalBeacon.Lib.Machine

namespace PalBeacon.Lib
set_option autoImplicit true

/-- A program of atomic steps over a shared state. A step meets an answer of its environment and the
state it finds; the two decide how the state changes and how the program goes on. -/
inductive Prog (κ ω σ α : Type) : Type where
  | done (result : α)
  | atom (label : κ) (effect : ω → σ → σ) (next : ω → σ → Prog κ ω σ α)

/-- A step that was taken, with the states around it. -/
structure Step (κ σ : Type) where
  label : κ
  pre : σ
  post : σ

namespace Prog

protected def bind : Prog κ ω σ α → (α → Prog κ ω σ β) → Prog κ ω σ β
  | .done a, f => f a
  | .atom label effect next, f => .atom label effect fun answer s => (next answer s).bind f

instance instMonadProg : Monad (Prog κ ω σ) where
  pure := Prog.done
  bind := Prog.bind

/-- One step that computes its result together with the state it leaves. -/
def act (label : κ) (f : ω → σ → α × σ) : Prog κ ω σ α :=
  .atom label (fun answer s => (f answer s).2) fun answer s => .done (f answer s).1

end Prog

section Safety
variable (I : σ → Prop) (G : Nat → κ → σ → σ → Prop) (i : Nat)

/-- One step of another process, as far as it is known. -/
def Rely (s s' : σ) : Prop := I s ∧ I s' ∧ ∃ j ≠ i, ∃ label, G j label s s'

/-- What the other processes may do between two steps. -/
def Meanwhile : σ → σ → Prop := Relation.ReflTransGen (Rely I G i)

/-- Whatever the others do in the meantime, the program keeps the invariant, each of its steps is
one it guarantees, and its result meets `Q` for its own steps and for the state at the end. -/
def Safe (Q : α → List (Step κ σ) → σ → Prop) : Prog κ ω σ α → List (Step κ σ) → σ → Prop
  | .done a, history, s => ∀ s', Meanwhile I G i s s' → Q a history s'
  | .atom label effect next, history, s =>
    ∀ s', Meanwhile I G i s s' → I s' → ∀ answer,
      I (effect answer s') ∧ G i label s' (effect answer s') ∧
        Safe Q (next answer s') (history ++ [⟨label, s', effect answer s'⟩]) (effect answer s')

variable {I G i}

theorem Meanwhile.keeps {P : σ → Prop} (h : Meanwhile I G i s s')
    (hkeep : ∀ s s', Rely I G i s s' → P s → P s') (hp : P s) : P s' := by
  induction h with
  | refl => exact hp
  | tail _ hstep ih => exact hkeep _ _ hstep ih

namespace Safe

theorem meanwhile {p : Prog κ ω σ α} (h : Safe I G i Q p history s) (hs : Meanwhile I G i s s') :
    Safe I G i Q p history s' := by
  cases p with
  | done a => exact fun s'' hs' => h s'' (hs.trans hs')
  | atom label effect next => exact fun s'' hs' => h s'' (hs.trans hs')

/-- A step taken in a state where an assertion holds that the other processes leave true. -/
theorem atom {P : σ → Prop} {effect : ω → σ → σ} {next : ω → σ → Prog κ ω σ α}
    (hstable : ∀ s s', Rely I G i s s' → P s → P s') (hp : P s)
    (hown : ∀ s answer, I s → P s → I (effect answer s) ∧ G i label s (effect answer s) ∧
      Safe I G i Q (next answer s) (history ++ [⟨label, s, effect answer s⟩]) (effect answer s)) :
    Safe I G i Q (.atom label effect next) history s :=
  fun s' hs hi answer => hown s' answer hi (hs.keeps hstable hp)

theorem mono {p : Prog κ ω σ α} (h : Safe I G i Q p history s)
    (himp : ∀ a history s, Q a history s → Q' a history s) : Safe I G i Q' p history s := by
  induction p generalizing history s with
  | done a => exact fun s' hs => himp _ _ _ (h s' hs)
  | atom label effect next ih =>
    intro s' hs hi answer
    obtain ⟨hinv, hstep, hrest⟩ := h s' hs hi answer
    exact ⟨hinv, hstep, ih answer s' hrest⟩

theorem tryBind {p : ExceptT ε (Prog κ ω σ) α} {f : α → ExceptT ε (Prog κ ω σ) β}
    {Q : Except ε β → List (Step κ σ) → σ → Prop}
    (h : Safe I G i (fun result history s =>
      match result with
      | .ok a => Safe I G i Q (f a : Prog κ ω σ (Except ε β)) history s
      | .error e => Q (.error e) history s) (p : Prog κ ω σ (Except ε α)) history s) :
    Safe I G i Q (p >>= f : ExceptT ε (Prog κ ω σ) β) history s := by
  change Safe I G i Q (Prog.bind p (ExceptT.bindCont f)) history s
  induction p generalizing history s with
  | done result =>
    cases result with
    | ok a => exact h s .refl
    | error e => exact h
  | atom label effect next ih =>
    intro s' hs hi answer
    obtain ⟨hinv, hstep, hrest⟩ := h s' hs hi answer
    exact ⟨hinv, hstep, ih answer s' hrest⟩

end Safe

end Safety

section Chains

/-- The steps of a log lead from one state to another, each from where the one before ended. -/
inductive Chain {κ σ : Type} (s : σ) : List (Nat × Step κ σ) → σ → Prop where
  | nil : Chain s [] s
  | snoc : Chain s steps s' → Chain s (steps ++ [(i, ⟨label, s', s''⟩)]) s''

theorem Chain.upTo {taken : Nat × Step κ σ} (h : Chain s (before ++ taken :: after) s') :
    Chain s (before ++ [taken]) taken.2.post := by
  induction after using List.reverseRecOn generalizing s' with
  | nil =>
    generalize hsteps : before ++ [taken] = steps at h
    cases h with
    | nil => simp at hsteps
    | snoc h =>
      obtain ⟨rfl, htaken⟩ := List.append_inj' hsteps rfl
      obtain rfl := List.singleton_inj.1 htaken
      exact .snoc h
  | append_singleton after last ih =>
    have hassoc : before ++ taken :: (after ++ [last]) = (before ++ taken :: after) ++ [last] := by
      simp
    rw [hassoc] at h
    generalize hsteps : (before ++ taken :: after) ++ [last] = steps at h
    cases h with
    | nil => simp at hsteps
    | snoc h =>
      obtain ⟨rfl, -⟩ := List.append_inj' hsteps rfl
      exact ih h

/-- What uses a thing up finds it unused and leaves it used, and no step brings it back: it is used
up at most once. -/
theorem Chain.once (spent : σ → Prop) {uses : Nat × Step κ σ → Bool} (h : Chain s steps s')
    (huse : ∀ entry ∈ steps, uses entry = true → ¬spent entry.2.pre ∧ spent entry.2.post)
    (hkeep : ∀ entry ∈ steps, spent entry.2.pre → spent entry.2.post) :
    (steps.filter uses).length ≤ 1 ∧ (¬spent s' → steps.filter uses = []) := by
  induction h with
  | nil => exact ⟨Nat.zero_le _, fun _ => rfl⟩
  | @snoc steps s' i s'' label _ ih =>
    obtain ⟨hle, hnone⟩ := ih (fun e he => huse e (List.mem_append_left _ he))
      (fun e he => hkeep e (List.mem_append_left _ he))
    have hlast :=
      List.mem_append_right steps (List.mem_singleton_self (i, (⟨label, s', s''⟩ : Step κ σ)))
    rw [List.filter_append]
    cases hu : uses (i, ⟨label, s', s''⟩) with
    | true =>
      obtain ⟨hpre, hpost⟩ := huse _ hlast hu
      rw [hnone hpre, List.filter_cons_of_pos hu, List.filter_nil]
      exact ⟨Nat.le_refl 1, fun hn => absurd hpost hn⟩
    | false =>
      rw [List.filter_cons_of_neg (by simp [hu]), List.filter_nil, List.append_nil]
      exact ⟨hle, fun hn => hnone fun hp => hn (hkeep _ hlast hp)⟩

theorem forall_mem_snoc {P : α → Prop} {l : List α} (h : ∀ x ∈ l, P x) (ha : P a) :
    ∀ x ∈ l ++ [a], P x :=
  List.forall_mem_append.2 ⟨h, List.forall_mem_singleton.2 ha⟩

theorem eq_of_length_le_one {l : List α} (h : l.length ≤ 1) (ha : a ∈ l) (hb : b ∈ l) : a = b := by
  cases l with
  | nil => cases ha
  | cons x xs =>
    obtain rfl : xs = [] := List.eq_nil_of_length_eq_zero (Nat.le_zero.1 (Nat.le_of_succ_le_succ h))
    rw [List.mem_singleton] at ha hb
    exact ha.trans hb.symm

end Chains

/-- The processes that were started, the state they share, and every step taken so far. -/
structure Pool (κ ω σ ρ α : Type) where
  shared : σ
  processes : List (ρ × Prog κ ω σ α)
  log : List (Nat × Step κ σ)

/-- A process is started for a request, or one of them takes its next step. A process that is never
advanced again has stopped. -/
inductive Schedule (ω ρ : Type) where
  | start (request : ρ)
  | advance (index : Nat) (answer : ω)

def Schedule.requests (schedule : List (Schedule ω ρ)) : List ρ :=
  schedule.filterMap fun
    | .start request => some request
    | .advance _ _ => none

namespace Pool
variable (program : Nat → ρ → Prog κ ω σ α)

def init (s : σ) : Pool κ ω σ ρ α := ⟨s, [], []⟩

def history (pool : Pool κ ω σ ρ α) (i : Nat) : List (Step κ σ) :=
  (pool.log.filter (·.1 = i)).map Prod.snd

def Answered (pool : Pool κ ω σ ρ α) (i : Nat) (request : ρ) (result : α) : Prop :=
  pool.processes[i]? = some (request, .done result)

def start (pool : Pool κ ω σ ρ α) (request : ρ) : Pool κ ω σ ρ α :=
  { pool with
    processes := pool.processes ++ [(request, program pool.processes.length request)] }

def advance (pool : Pool κ ω σ ρ α) (i : Nat) (answer : ω) : Pool κ ω σ ρ α :=
  match pool.processes[i]? with
  | some (request, .atom label effect next) =>
    { shared := effect answer pool.shared
      processes := pool.processes.set i (request, next answer pool.shared)
      log := pool.log ++ [(i, ⟨label, pool.shared, effect answer pool.shared⟩)] }
  | _ => pool

def step (pool : Pool κ ω σ ρ α) : Schedule ω ρ → Unit × Pool κ ω σ ρ α
  | .start request => ((), pool.start program request)
  | .advance i answer => ((), pool.advance i answer)

abbrev runFrom (s : σ) (schedule : List (Schedule ω ρ)) : Pool κ ω σ ρ α :=
  run (step program) (init s) schedule

variable {program}

theorem advance_cases (pool : Pool κ ω σ ρ α) (i : Nat) (answer : ω) :
    pool.advance i answer = pool ∨
      ∃ request label effect next, pool.processes[i]? = some (request, .atom label effect next) ∧
        pool.advance i answer =
          { shared := effect answer pool.shared
            processes := pool.processes.set i (request, next answer pool.shared)
            log := pool.log ++ [(i, ⟨label, pool.shared, effect answer pool.shared⟩)] } := by
  unfold advance
  split
  · next request label effect next h => exact .inr ⟨request, label, effect, next, h, rfl⟩
  · exact .inl rfl

section Safety
variable (I : σ → Prop) (G : Nat → κ → σ → σ → Prop)
  (Q : Nat → ρ → α → List (Step κ σ) → σ → Prop)

/-- The invariant holds, every step was one its process guarantees, and every process is safe to go
on from here. -/
structure Sound (pool : Pool κ ω σ ρ α) : Prop where
  shared : I pool.shared
  steps : ∀ entry ∈ pool.log, I entry.2.pre ∧ I entry.2.post ∧
    G entry.1 entry.2.label entry.2.pre entry.2.post
  own : ∀ entry ∈ pool.log, entry.1 < pool.processes.length
  safe : ∀ i request p, pool.processes[i]? = some (request, p) →
    Safe I G i (Q i request) p (pool.history i) pool.shared

variable {I G Q}

theorem Sound.init (h : I s) : Sound I G Q (init s : Pool κ ω σ ρ α) := by
  refine ⟨h, ?_, ?_, ?_⟩
  · intro entry hentry
    cases hentry
  · intro entry hentry
    cases hentry
  · intro i request p hp
    simp [Pool.init] at hp

theorem history_of_lt {pool : Pool κ ω σ ρ α} (h : ∀ entry ∈ pool.log, entry.1 < n) :
    pool.history n = [] := by
  unfold history
  rw [List.map_eq_nil_iff, List.filter_eq_nil_iff]
  intro entry hentry hn
  have hlt := h entry hentry
  simp only [decide_eq_true_eq] at hn
  omega

theorem Sound.start {pool : Pool κ ω σ ρ α} (h : Sound I G Q pool)
    (hsafe : ∀ s, I s → Safe I G pool.processes.length (Q pool.processes.length request)
      (program pool.processes.length request) [] s) :
    Sound I G Q (pool.start program request) := by
  refine ⟨h.shared, h.steps, ?_, ?_⟩
  · intro entry hentry
    have hlt := h.own entry hentry
    simp only [Pool.start, List.length_append, List.length_singleton]
    omega
  · intro i r p hp
    simp only [Pool.start, List.getElem?_append, List.getElem?_singleton] at hp
    split at hp
    · exact h.safe i r p hp
    · next hlen =>
      split at hp
      · next hzero =>
        have hi : i = pool.processes.length := by omega
        subst hi
        cases hp
        have hempty : (pool.start program request).history pool.processes.length = [] :=
          history_of_lt h.own
        rw [hempty]
        exact hsafe _ h.shared
      · cases hp

theorem Sound.advance {pool : Pool κ ω σ ρ α} (h : Sound I G Q pool) (i : Nat) (answer : ω) :
    Sound I G Q (pool.advance i answer) := by
  obtain heq | ⟨request, label, effect, next, hget, heq⟩ := advance_cases pool i answer
  · rw [heq]
    exact h
  · rw [heq]
    obtain ⟨hinv, hstep, hrest⟩ := h.safe i request _ hget _ .refl h.shared answer
    have hlt : i < pool.processes.length := (List.getElem?_eq_some_iff.1 hget).1
    refine ⟨hinv, ?_, ?_, ?_⟩
    · intro entry hentry
      rcases List.mem_append.1 hentry with hold | hnew
      · exact h.steps entry hold
      · rw [List.mem_singleton] at hnew
        subst hnew
        exact ⟨h.shared, hinv, hstep⟩
    · intro entry hentry
      rw [List.length_set]
      rcases List.mem_append.1 hentry with hold | hnew
      · exact h.own entry hold
      · rw [List.mem_singleton] at hnew
        subst hnew
        exact hlt
    · intro j r p hp
      by_cases hj : i = j
      · subst hj
        rw [List.getElem?_set_self hlt] at hp
        cases hp
        simpa [history] using hrest
      · -- To every other process this was a step of its environment.
        rw [List.getElem?_set_ne hj] at hp
        have hkeep := (h.safe j r p hp).meanwhile
          (.single ⟨h.shared, hinv, i, hj, label, hstep⟩)
        simpa [history, hj] using hkeep

theorem map_fst_advance (pool : Pool κ ω σ ρ α) (i : Nat) (answer : ω) :
    (pool.advance i answer).processes.map Prod.fst = pool.processes.map Prod.fst := by
  obtain heq | ⟨request, label, effect, next, hget, heq⟩ := advance_cases pool i answer
  · rw [heq]
  · rw [heq]
    apply List.ext_getElem?
    intro j
    rw [List.getElem?_map, List.getElem?_map]
    by_cases hj : i = j
    · subst hj
      rw [List.getElem?_set_self (List.getElem?_eq_some_iff.1 hget).1, hget]
      rfl
    · rw [List.getElem?_set_ne hj]

theorem map_fst_run (s : σ) (schedule : List (Schedule ω ρ)) :
    (runFrom program s schedule : Pool κ ω σ ρ α).processes.map Prod.fst =
      Schedule.requests schedule := by
  induction schedule using List.reverseRecOn with
  | nil => rfl
  | append_singleton schedule event ih =>
    unfold Schedule.requests at ih ⊢
    rw [runFrom, run_append, List.filterMap_append, ← ih]
    cases event with
    | start request => exact List.map_append
    | advance i answer => exact (map_fst_advance _ i answer).trans (List.append_nil _).symm

/-- Programs that are safe from every state with the invariant, each for what it was started for,
are safe in every schedule. -/
theorem Sound.runStarted (hs : I s) (schedule : List (Schedule ω ρ))
    (hsafe : ∀ i request s, (Schedule.requests schedule)[i]? = some request → I s →
      Safe I G i (Q i request) (program i request) [] s) :
    Sound I G Q (runFrom program s schedule) := by
  induction schedule using List.reverseRecOn with
  | nil => exact Sound.init hs
  | append_singleton schedule event ih =>
    have hrequests : Schedule.requests (schedule ++ [event]) =
        Schedule.requests schedule ++ Schedule.requests [event] := List.filterMap_append
    have hpool : Sound I G Q (runFrom program s schedule) := by
      apply ih
      intro i request s hi
      have hlt := (List.getElem?_eq_some_iff.1 hi).1
      refine hsafe i request s ?_
      rw [hrequests, List.getElem?_append_left hlt]
      exact hi
    rw [runFrom, run_append]
    cases event with
    | start request =>
      refine hpool.start ?_
      intro s' hs'
      refine hsafe _ request s' ?_ hs'
      have hlength : (Schedule.requests schedule).length =
        (runFrom program s schedule).processes.length := by
        rw [← map_fst_run s schedule, List.length_map]
      rw [hrequests, ← hlength]
      exact List.getElem?_concat_length
    | advance i answer => exact hpool.advance i answer

/-- Programs that are safe from every state with the invariant are safe in every schedule. -/
theorem Sound.run (hs : I s)
    (hsafe : ∀ i request s, I s → Safe I G i (Q i request) (program i request) [] s)
    (schedule : List (Schedule ω ρ)) : Sound I G Q (runFrom program s schedule) :=
  Sound.runStarted hs schedule fun i request s _ => hsafe i request s

theorem Sound.result {pool : Pool κ ω σ ρ α} (h : Sound I G Q pool)
    (hp : pool.Answered i request a) : Q i request a (pool.history i) pool.shared :=
  h.safe i request _ hp _ .refl

theorem mem_history {pool : Pool κ ω σ ρ α} {taken : Step κ σ} :
    taken ∈ pool.history i ↔ (i, taken) ∈ pool.log := by
  simp [history]

end Safety

theorem chain_run (s : σ) (schedule : List (Schedule ω ρ)) :
    Chain s (runFrom program s schedule).log (runFrom program s schedule).shared := by
  refine run_invariant (I := fun pool : Pool κ ω σ ρ α => Chain s pool.log pool.shared) .nil ?_
    schedule
  intro pool event h
  cases event with
  | start request => exact h
  | advance i answer =>
    obtain heq | ⟨request, label, effect, next, -, heq⟩ := advance_cases pool i answer
    · change Chain s (pool.advance i answer).log (pool.advance i answer).shared
      rw [heq]
      exact h
    · change Chain s (pool.advance i answer).log (pool.advance i answer).shared
      rw [heq]
      exact .snoc h

end Pool

end PalBeacon.Lib
