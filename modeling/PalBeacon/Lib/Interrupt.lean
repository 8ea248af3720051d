import PalBeacon.Lib.Files

namespace PalBeacon.Lib
set_option autoImplicit true

/-- A program of atomic steps over a state, run against the answers to its steps: a step takes
effect, fails without one, or is not reached because the process stops before it. -/
def StepM (σ ε α : Type) : Type := (Nat → Answer) → σ → Nat → Except (Halt ε) α × σ × Nat

namespace StepM
variable {σ ε : Type}

def throw (error : ε) : StepM σ ε α := fun _ s n => (.error (.failed error), s, n)

def lift : Except ε α → StepM σ ε α
  | .ok a => fun _ s n => (.ok a, s, n)
  | .error error => throw error

protected def bind (x : StepM σ ε α) (f : α → StepM σ ε β) : StepM σ ε β := fun answers s n =>
  match x answers s n with
  | (.ok a, s, n) => f a answers s n
  | (.error halt, s, n) => (.error halt, s, n)

instance instMonadStepM : Monad (StepM σ ε) where
  pure a := fun _ s n => (.ok a, s, n)
  bind := StepM.bind

/-- One step, which may also find that it cannot take effect. -/
def atom (failure : ε) (effect : σ → Except ε (α × σ)) : StepM σ ε α := fun answers s n =>
  match answers n with
  | .done =>
    match effect s with
    | .ok (a, s) => (.ok a, s, n + 1)
    | .error error => (.error (.failed error), s, n + 1)
  | .fails _ => (.error (.failed failure), s, n + 1)
  | .stops _ => (.error .stopped, s, n + 1)

/-- A question about the state that has an answer even where asking fails. -/
def query (f : σ → α) (otherwise : α) : StepM σ ε α := fun answers s n =>
  match answers n with
  | .done => (.ok (f s), s, n + 1)
  | .fails _ => (.ok otherwise, s, n + 1)
  | .stops _ => (.error .stopped, s, n + 1)

/-- Cleans up after a failure. What becomes of that is not reported. -/
def cleanUp (x : StepM σ ε α) (cleanup : StepM σ ε Unit) : StepM σ ε α := fun answers s n =>
  match x answers s n with
  | (.error (.failed error), s, n) =>
    match cleanup answers s n with
    | (.error .stopped, s, n) => (.error .stopped, s, n)
    | (_, s, n) => (.error (.failed error), s, n)
  | outcome => outcome

/-- A failure becomes a value. -/
def attempt (x : StepM σ ε α) : StepM σ ε' (Except ε α) := fun answers s n =>
  match x answers s n with
  | (.ok a, s, n) => (.ok (.ok a), s, n)
  | (.error (.failed error), s, n) => (.ok (.error error), s, n)
  | (.error .stopped, s, n) => (.error .stopped, s, n)

/-- A program over a part of the state. -/
def zoom (get : σ → τ) (put : τ → σ → σ) (error : ε → ε') (x : StepM τ ε α) : StepM σ ε' α :=
  fun answers s n =>
    match x answers (get s) n with
    | (.ok a, t, n) => (.ok a, put t s, n)
    | (.error (.failed e), t, n) => (.error (.failed (error e)), put t s, n)
    | (.error .stopped, t, n) => (.error .stopped, put t s, n)

/-- Every step takes effect. -/
def Smooth (answers : Nat → Answer) : Prop := ∀ n, answers n = .done

/-- What holds of a program's end: `Q` where it returns, `E` where it does not. -/
def Meets (Q : α → σ → Prop) (E : Halt ε → σ → Prop) : Except (Halt ε) α → σ → Prop
  | .ok a => Q a
  | .error halt => E halt

/-- From a state with `P` the program ends in one with `Q`, or with `E` where it does not return. -/
def Ensures (answers : Nat → Answer) (P : σ → Prop) (x : StepM σ ε α) (Q : α → σ → Prop)
    (E : Halt ε → σ → Prop) : Prop :=
  ∀ s n, P s → Meets Q E (x answers s n).1 (x answers s n).2.1

namespace Ensures
variable {answers : Nat → Answer} {P : σ → Prop} {Q : α → σ → Prop} {E : Halt ε → σ → Prop}

theorem pure (h : ∀ s, P s → Q a s) : Ensures answers P (Pure.pure a : StepM σ ε α) Q E :=
  fun s _ hs => h s hs

theorem throw (h : ∀ s, P s → E (.failed error) s) :
    Ensures answers P (StepM.throw error : StepM σ ε α) Q E :=
  fun s _ hs => h s hs

theorem lift {x : Except ε α} (h : ∀ s, P s → Meets Q E (x.mapError .failed) s) :
    Ensures answers P (StepM.lift x) Q E := by
  cases x with
  | ok a => exact fun s _ hs => h s hs
  | error e => exact fun s _ hs => h s hs

theorem mono {x : StepM σ ε α} (h : Ensures answers P x Q E) (hpre : ∀ s, P' s → P s)
    (hpost : ∀ a s, Q a s → Q' a s) (herror : ∀ halt s, E halt s → E' halt s) :
    Ensures answers P' x Q' E' := by
  intro s n hs
  have hx := h s n (hpre s hs)
  revert hx
  cases (x answers s n).1 with
  | ok a => exact hpost a _
  | error halt => exact herror halt _

theorem halting {x : StepM σ ε α} (h : Ensures answers P x Q E)
    (herror : ∀ halt s, E halt s → E' halt s) : Ensures answers P x Q E' :=
  h.mono (fun _ hs => hs) (fun _ _ hs => hs) herror

theorem given {x : StepM σ ε α} (h : c → Ensures answers P x Q E) :
    Ensures answers (fun s => c ∧ P s) x Q E :=
  fun s n hs => h hs.1 s n hs.2

theorem bind {x : StepM σ ε α} {f : α → StepM σ ε β} {Q : β → σ → Prop} (R : α → σ → Prop)
    (hx : Ensures answers P x R E) (hf : ∀ a, Ensures answers (R a) (f a) Q E) :
    Ensures answers P (x >>= f) Q E := by
  intro s n hs
  have h := hx s n hs
  change Meets Q E (StepM.bind x f answers s n).1 (StepM.bind x f answers s n).2.1
  unfold StepM.bind
  generalize x answers s n = out at h ⊢
  obtain ⟨r, s', n'⟩ := out
  cases r with
  | ok a => exact hf a s' n' h
  | error halt => exact h

theorem atom {failure : ε} {effect : σ → Except ε (α × σ)}
    (hcut : ∀ s, P s → ¬Smooth answers → ∀ halt, E halt s)
    (herror : ∀ s error, P s → effect s = .error error → E (.failed error) s)
    (hok : ∀ s a s', P s → effect s = .ok (a, s') → Q a s') :
    Ensures answers P (StepM.atom failure effect) Q E := by
  intro s n hs
  unfold StepM.atom
  cases ha : answers n with
  | done =>
    cases he : effect s with
    | ok out => exact hok s _ _ hs he
    | error e => exact herror s e hs he
  | fails => exact hcut s hs (fun hsm => nomatch (hsm n).symm.trans ha) _
  | stops => exact hcut s hs (fun hsm => nomatch (hsm n).symm.trans ha) _

theorem query {f : σ → α} (hcut : ∀ s, P s → ¬Smooth answers → Q otherwise s ∧ E .stopped s)
    (hok : ∀ s, P s → Q (f s) s) : Ensures answers P (StepM.query f otherwise) Q E := by
  intro s n hs
  unfold StepM.query
  cases ha : answers n with
  | done => exact hok s hs
  | fails => exact (hcut s hs fun hsm => nomatch (hsm n).symm.trans ha).1
  | stops => exact (hcut s hs fun hsm => nomatch (hsm n).symm.trans ha).2

theorem cleanUp {x : StepM σ ε α} {cleanup : StepM σ ε Unit} {R : Halt ε → σ → Prop}
    (hx : Ensures answers P x Q R) (hstop : ∀ s, R .stopped s → E .stopped s)
    (hclean : ∀ error, Ensures answers (R (.failed error)) cleanup (fun _ => E (.failed error))
      fun _ s => E (.failed error) s ∧ E .stopped s) :
    Ensures answers P (StepM.cleanUp x cleanup) Q E := by
  intro s n hs
  have h := hx s n hs
  unfold StepM.cleanUp
  generalize x answers s n = out at h ⊢
  obtain ⟨r, s', n'⟩ := out
  cases r with
  | ok a => exact h
  | error halt =>
    cases halt with
    | stopped => exact hstop s' h
    | failed error =>
      have hc := hclean error s' n' h
      simp only
      generalize cleanup answers s' n' = out at hc ⊢
      obtain ⟨r, s'', n''⟩ := out
      cases r with
      | ok => exact hc
      | error halt =>
        cases halt with
        | stopped => exact hc.2
        | failed => exact hc.1

theorem attempt {x : StepM σ ε α} {Q : Except ε α → σ → Prop} {E : Halt ε' → σ → Prop}
    (h : Ensures answers P x (fun a => Q (.ok a)) fun halt s =>
      match halt with
      | .failed error => Q (.error error) s
      | .stopped => E .stopped s) : Ensures answers P (StepM.attempt x) Q E := by
  intro s n hs
  have hx := h s n hs
  unfold StepM.attempt
  generalize x answers s n = out at hx ⊢
  obtain ⟨r, s', n'⟩ := out
  cases r with
  | ok a => exact hx
  | error halt =>
    cases halt with
    | failed => exact hx
    | stopped => exact hx

/-- What a program ensures of a part of the state, for each value that the part has at first. -/
theorem zoom {get : σ → τ} {put : τ → σ → σ} {error : ε → ε'} {x : StepM τ ε α} {s₀ : σ}
    {E : Halt ε' → σ → Prop}
    (h : Ensures answers (· = get s₀) x (fun a t => Q a (put t s₀)) fun halt t =>
      match halt with
      | .failed e => E (.failed (error e)) (put t s₀)
      | .stopped => E .stopped (put t s₀)) :
    Ensures answers (· = s₀) (StepM.zoom get put error x) Q E := by
  rintro s n rfl
  have hx := h (get s) n rfl
  unfold StepM.zoom
  generalize x answers (get s) n = out at hx ⊢
  obtain ⟨r, t, n'⟩ := out
  cases r with
  | ok a => exact hx
  | error halt =>
    cases halt with
    | failed => exact hx
    | stopped => exact hx

end Ensures
end StepM
end PalBeacon.Lib
