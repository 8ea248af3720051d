import PalBeacon.Lib.Process

namespace PalBeacon.Lib
set_option autoImplicit true

namespace Prog

/-- Alone, and with answers from `A` only, the program ends with this result in this state. -/
def Ends (A : ω → Prop) : Prog κ ω σ α → σ → α → σ → Prop
  | .done a, s, b, s' => b = a ∧ s' = s
  | .atom _ effect next, s, b, s' =>
    ∃ answer, A answer ∧ Ends A (next answer s) (effect answer s) b s'

def Stops : Prog κ ω σ α → σ → σ → Prop
  | .done _, s, s' => s' = s
  | .atom _ effect next, s, s' => s' = s ∨ ∃ answer, Stops (next answer s) (effect answer s) s'

/-- The state after the first steps of a program run alone, one for each answer. -/
def cutOff : Prog κ ω σ α → List ω → σ → σ
  | .atom _ effect next, answer :: answers, s => cutOff (next answer s) answers (effect answer s)
  | _, _, s => s

def Always (A : ω → Prop) (p : Prog κ ω σ α) (s : σ) (R : α → σ → Prop) : Prop :=
  ∀ a s', p.Ends A s a s' → R a s'

variable {A : ω → Prop}

theorem exists_ends (hA : A answer) (p : Prog κ ω σ α) (s : σ) : ∃ a s', p.Ends A s a s' := by
  induction p generalizing s with
  | done a => exact ⟨a, s, rfl, rfl⟩
  | atom label effect next ih =>
    obtain ⟨a, s', h⟩ := ih answer s (effect answer s)
    exact ⟨a, s', answer, hA, h⟩

theorem stops_cutOff (p : Prog κ ω σ α) (answers : List ω) (s : σ) :
    p.Stops s (p.cutOff answers s) := by
  induction answers generalizing p s with
  | nil =>
    cases p with
    | done a => rfl
    | atom label effect next => exact .inl rfl
  | cons answer answers ih =>
    cases p with
    | done a => rfl
    | atom label effect next => exact .inr ⟨answer, ih (next answer s) (effect answer s)⟩

theorem ends_bind {p : Prog κ ω σ α} {f : α → Prog κ ω σ β} :
    (p.bind f).Ends A s b s'' ↔ ∃ a s', p.Ends A s a s' ∧ (f a).Ends A s' b s'' := by
  induction p generalizing s with
  | done a =>
    constructor
    · intro h
      exact ⟨a, s, ⟨rfl, rfl⟩, h⟩
    · intro h
      obtain ⟨_, _, ⟨rfl, rfl⟩, h⟩ := h
      exact h
  | atom label effect next ih =>
    constructor
    · intro h
      obtain ⟨answer, hA, h⟩ := h
      obtain ⟨a, s', hp, hf⟩ := (ih answer s).1 h
      exact ⟨a, s', ⟨answer, hA, hp⟩, hf⟩
    · intro h
      obtain ⟨a, s', ⟨answer, hA, hp⟩, hf⟩ := h
      exact ⟨answer, hA, (ih answer s).2 ⟨a, s', hp, hf⟩⟩

theorem Always.done {R : α → σ → Prop} (h : R a s) : Always A (.done a : Prog κ ω σ α) s R := by
  intro b s' hends
  obtain ⟨rfl, rfl⟩ := hends
  exact h

theorem Always.act {f : ω → σ → α × σ} {R : α → σ → Prop}
    (h : ∀ answer, A answer → R (f answer s).1 (f answer s).2) :
    Always A (Prog.act label f : Prog κ ω σ α) s R := by
  intro b s' hends
  obtain ⟨answer, hA, rfl, rfl⟩ := hends
  exact h answer hA

theorem Always.tryBind {p : ExceptT ε (Prog κ ω σ) α} {f : α → ExceptT ε (Prog κ ω σ) β}
    {R : Except ε β → σ → Prop}
    (h : Always A (p : Prog κ ω σ (Except ε α)) s fun result s' =>
      match result with
      | .ok a => Always A (f a : Prog κ ω σ (Except ε β)) s' R
      | .error e => R (.error e) s') :
    Always A (p >>= f : ExceptT ε (Prog κ ω σ) β) s R := by
  intro b s'' hends
  change (Prog.bind p (ExceptT.bindCont f)).Ends A s b s'' at hends
  obtain ⟨result, s', hp, hf⟩ := ends_bind.1 hends
  have hrest := h result s' hp
  cases result with
  | ok a => exact hrest b s'' hf
  | error e =>
    obtain ⟨rfl, rfl⟩ := hf
    exact hrest

end Prog

/-- A program that is safe among others keeps the invariant wherever it is cut off alone. -/
theorem Safe.stops {I : σ → Prop} {p : Prog κ ω σ α} (h : Safe I G i Q p history s) (hi : I s)
    (hstops : p.Stops s s') : I s' := by
  induction p generalizing history s with
  | done a =>
    cases hstops
    exact hi
  | atom label effect next ih =>
    obtain rfl | ⟨answer, hstops⟩ := hstops
    · exact hi
    · obtain ⟨hinv, -, hrest⟩ := h s .refl hi answer
      exact ih answer s hrest hinv hstops

end PalBeacon.Lib
