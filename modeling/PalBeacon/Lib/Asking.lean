import PalBeacon.Lib.Check

namespace PalBeacon.Lib
set_option autoImplicit true

/-- A program that asks for answers it does not control: it is run against the answer to each of its
requests, in turn, and keeps the requests it made. -/
def AskM (ρ β ε α : Type) : Type := (Nat → β) → List ρ → Except ε α × List ρ

namespace AskM
variable {ρ β ε : Type}

def ask (request : ρ) : AskM ρ β ε β := fun answers asked =>
  (.ok (answers asked.length), asked ++ [request])

def lift (x : Except ε α) : AskM ρ β ε α := fun _ asked => (x, asked)

protected def bind (x : AskM ρ β ε α) (f : α → AskM ρ β ε γ) : AskM ρ β ε γ := fun answers asked =>
  match x answers asked with
  | (.ok a, asked) => f a answers asked
  | (.error e, asked) => (.error e, asked)

instance instMonadAskM : Monad (AskM ρ β ε) where
  pure a := fun _ asked => (.ok a, asked)
  bind := AskM.bind

@[simp] theorem ask_apply (request : ρ) :
    (ask request : AskM ρ β ε β) answers asked = (.ok (answers asked.length), asked ++ [request]) :=
  rfl

@[simp] theorem lift_apply (x : Except ε α) : (lift x : AskM ρ β ε α) answers asked =
    (x, asked) := rfl

@[simp] theorem pure_apply (a : α) : (pure a : AskM ρ β ε α) answers asked = (.ok a, asked) := rfl

theorem bind_of_ok {x : AskM ρ β ε α} {f : α → AskM ρ β ε γ}
    (h : x answers asked = (.ok a, asked')) :
    (x >>= f) answers asked = f a answers asked' := by
  change AskM.bind x f answers asked = _
  rw [AskM.bind, h]

theorem bind_of_error {x : AskM ρ β ε α} {f : α → AskM ρ β ε γ}
    (h : x answers asked = (.error e, asked')) : (x >>= f) answers asked = (.error e, asked') := by
  change AskM.bind x f answers asked = _
  rw [AskM.bind, h]

theorem bind_cases (x : AskM ρ β ε α) (f : α → AskM ρ β ε γ) (answers : Nat → β) (asked : List ρ) :
    (∃ a asked', x answers asked = (.ok a, asked') ∧ (x >>= f) answers asked = f a answers asked') ∨
      ∃ e asked', x answers asked = (.error e, asked') ∧
        (x >>= f) answers asked = (.error e, asked') := by
  rcases h : x answers asked with ⟨e | a, asked'⟩
  · exact .inr ⟨e, asked', rfl, bind_of_error h⟩
  · exact .inl ⟨a, asked', rfl, bind_of_ok h⟩

theorem bind_eq_ok {x : AskM ρ β ε α} {f : α → AskM ρ β ε γ}
    (h : (x >>= f) answers asked = (.ok c, asked'')) :
    ∃ a asked', x answers asked = (.ok a, asked') ∧ f a answers asked' = (.ok c, asked'') := by
  rcases bind_cases x f answers asked with ⟨a, asked', hx, hb⟩ | ⟨e, asked', -, hb⟩
  · exact ⟨a, asked', hx, hb ▸ h⟩
  · rw [hb] at h
    cases h

theorem lift_bind_eq_ok {x : Except ε α} {f : α → AskM ρ β ε γ}
    (h : (lift x >>= f) answers asked = (.ok c, asked')) :
    ∃ a, x = .ok a ∧ f a answers asked = (.ok c, asked') := by
  obtain ⟨a, asked₁, hx, h⟩ := bind_eq_ok h
  obtain ⟨hx, hasked⟩ := Prod.mk.inj hx
  exact ⟨a, hx, hasked ▸ h⟩

/-- Against these answers the program keeps `I` of its requests however it ends, and from `P` it
gives a value with `Q`. -/
def Ensures (answers : Nat → β) (I P : List ρ → Prop) (x : AskM ρ β ε α)
    (Q : α → List ρ → Prop) : Prop :=
  ∀ asked, I asked → P asked →
    I (x answers asked).2 ∧ ∀ a, (x answers asked).1 = .ok a → Q a (x answers asked).2

section Rules
variable {answers : Nat → β} {I P : List ρ → Prop}

theorem Ensures.bind {x : AskM ρ β ε α} {f : α → AskM ρ β ε γ} (hx : Ensures answers I P x Q)
    (hf : ∀ a, Ensures answers I (Q a) (f a) R) : Ensures answers I P (x >>= f) R := by
  intro asked hi hp
  obtain ⟨hkept, hpost⟩ := hx asked hi hp
  rcases bind_cases x f answers asked with ⟨a, asked', ha, hb⟩ | ⟨e, asked', he, hb⟩
  · rw [ha] at hkept hpost
    rw [hb]
    exact hf a asked' hkept (hpost a rfl)
  · rw [he] at hkept
    rw [hb]
    exact ⟨hkept, fun a h => (nomatch h)⟩

theorem Ensures.weaken {x : AskM ρ β ε α} (hp : ∀ asked, P' asked → P asked)
    (h : Ensures answers I P x Q) : Ensures answers I P' x Q :=
  fun asked hi hp' => h asked hi (hp asked hp')

theorem Ensures.assuming {x : AskM ρ β ε α} {p : Prop} (hp : ∀ asked, P asked → p)
    (h : p → Ensures answers I P x Q) : Ensures answers I P x Q :=
  fun asked hi hpre => h (hp asked hpre) asked hi hpre

theorem Ensures.lift {x : Except ε α} (h : ∀ asked a, P asked → x = .ok a → Q a asked) :
    Ensures answers I P (AskM.lift x) Q := by
  intro asked hi hp
  exact ⟨hi, fun a ha => h asked a hp ha⟩

theorem Ensures.pure {a : α} (h : ∀ asked, P asked → Q a asked) :
    Ensures answers I P (pure a : AskM ρ β ε α) Q := by
  intro asked hi hp
  refine ⟨hi, fun b hb => ?_⟩
  cases hb
  exact h asked hp

theorem Ensures.ask {request : ρ}
    (h : ∀ asked, I asked → P asked →
      I (asked ++ [request]) ∧ Q (answers asked.length) (asked ++ [request])) :
    Ensures answers I P (AskM.ask request : AskM ρ β ε β) Q := by
  intro asked hi hp
  obtain ⟨hkept, hpost⟩ := h asked hi hp
  refine ⟨hkept, fun b hb => ?_⟩
  cases hb
  exact hpost

end Rules

end AskM

end PalBeacon.Lib
