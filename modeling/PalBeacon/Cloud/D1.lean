import PalBeacon.Lib.Process
import PalBeacon.Lib.Check
import PalBeacon.Lib.Text

namespace PalBeacon.Cloud
open PalBeacon.Lib
set_option autoImplicit true

structure ApiError where
  status : Nat
  code : String
  message : String
deriving DecidableEq, Repr

namespace ApiError

def internal : ApiError := ⟨500, "INTERNAL_ERROR", "internal service error"⟩

def badRequest (message : String) : ApiError := ⟨400, "BAD_REQUEST", message⟩

def forbidden (message : String) : ApiError := ⟨403, "FORBIDDEN", message⟩

def notFound (message : String) : ApiError := ⟨404, "NOT_FOUND", message⟩

def conflict (message : String) : ApiError := ⟨409, "CONFLICT", message⟩

def unprocessable (message : String) : ApiError := ⟨422, "UNPROCESSABLE", message⟩

/-- The request was refused as it stands: a bad request, a conflict, or not processable. -/
def refuses (error : ApiError) : Bool :=
  error.status = 400 || error.status = 409 || error.status = 422

end ApiError

structure Principal where
  hex : String
  operatorRole : Bool
deriving DecidableEq, Repr

def validShortId (value : String) : Bool :=
  !value.isEmpty && value.utf8ByteSize ≤ 128 &&
    (utf8 value).all fun byte => isAsciiAlphanumeric byte || byte ∈ [95, 45, 46, 58]

def validHexId (value : String) (length : Nat) : Bool :=
  value.utf8ByteSize = length && (utf8 value).all isAsciiHexdigit

/-- The double nearest to a natural number, ties to even: what `as f64` binds to a statement. -/
def f64OfNat (n : Nat) : Nat :=
  if n < 2 ^ 53 then n
  else
    let ulp := 2 ^ (n.log2 - 52)
    let quotient := n / ulp
    let remainder := n % ulp
    if 2 * remainder > ulp || 2 * remainder = ulp && quotient % 2 = 1 then (quotient + 1) * ulp
    else quotient * ulp

def isSafeInteger (n : Nat) : Bool := n < 2 ^ 53

theorem f64OfNat_of_safe (h : n < 2 ^ 53) : f64OfNat n = n := if_pos h

/-- A call of the database is answered, or is never run, or is run and its answer is lost. -/
inductive Delivery
  | delivered
  | refused
  | lost
deriving DecidableEq, Repr

structure Moment where
  now : String
  delivery : Delivery
deriving DecidableEq, Repr

/-- A request in the Worker: each step is one call of the database, by the statement it sends. -/
abbrev Worker (κ σ α : Type) := ExceptT ApiError (Prog κ Moment σ) α

section Calls
variable (exec : κ → String → σ → Except ε (Nat × σ))

/-- What a statement that writes answers, and the state it leaves. A statement that fails leaves
none. -/
def d1Outcome (statement : κ) (moment : Moment) (s : σ) : Except ApiError Nat × σ :=
  match moment.delivery, exec statement moment.now s with
  | .refused, _ => (.error .internal, s)
  | _, .error _ => (.error .internal, s)
  | .delivered, .ok (changes, s') => (.ok changes, s')
  | .lost, .ok (_, s') => (.error .internal, s')

def d1Run (statement : κ) : Worker κ σ Nat := Prog.act statement (d1Outcome exec statement)

def d1Select (statement : κ) (query : σ → Except ApiError α) : Worker κ σ α :=
  Prog.act statement fun moment s =>
    (if moment.delivery = .delivered then query s else .error .internal, s)

def checked (result : Except ApiError α) : Worker κ σ α := Prog.done result

def Effect (statement : κ) (s s' : σ) : Prop :=
  s' = s ∨ ∃ now changes, exec statement now s = .ok (changes, s')

def Executes (V : Nat → κ → Prop) (i : Nat) (statement : κ) (s s' : σ) : Prop :=
  V i statement ∧ Effect exec statement s s'

variable {exec}

theorem d1Outcome_cases (statement : κ) (moment : Moment) (s : σ) :
    (∃ s', d1Outcome exec statement moment s = (.error .internal, s') ∧
      Effect exec statement s s') ∨
      ∃ changes s', d1Outcome exec statement moment s = (.ok changes, s') ∧
        exec statement moment.now s = .ok (changes, s') := by
  unfold d1Outcome
  split
  · exact .inl ⟨s, rfl, .inl rfl⟩
  · exact .inl ⟨s, rfl, .inl rfl⟩
  · next changes s' _ h => exact .inr ⟨changes, s', rfl, h⟩
  · next changes s' _ h => exact .inl ⟨s', rfl, .inr ⟨_, changes, h⟩⟩

section Rules
variable {I : σ → Prop} {G : Nat → κ → σ → σ → Prop} {i : Nat}
  {Q : Except ApiError β → List (Step κ σ) → σ → Prop}

theorem safe_answer {result : Except ApiError β} (h : ∀ s, Q result history s) :
    Safe I G i Q (checked result : Worker κ σ β) history s :=
  fun s' _ => h s'

theorem safe_checked {result : Except ApiError α} {f : α → Worker κ σ β}
    (hok : ∀ a, result = .ok a → Safe I G i Q (f a) history s)
    (herror : ∀ e, result = .error e → ∀ s, Q (.error e) history s) :
    Safe I G i Q (checked result >>= f : Worker κ σ β) history s := by
  apply Safe.tryBind
  intro s' hs
  cases result with
  | ok a => exact (hok a rfl).meanwhile hs
  | error e => exact herror e rfl s'

theorem safe_call {statement : κ} {f : Nat → Worker κ σ β} (P : σ → Prop)
    (hstable : ∀ s s', Rely I G i s s' → P s → P s') (hp : P s)
    (hstep : ∀ s s', I s → P s → Effect exec statement s s' → I s' ∧ G i statement s s')
    (hok : ∀ now changes s s', I s → P s → exec statement now s = .ok (changes, s') →
      Safe I G i Q (f changes) (history ++ [⟨statement, s, s'⟩]) s')
    (herror : ∀ s s', I s → P s → Effect exec statement s s' →
      ∀ s'', Q (.error .internal) (history ++ [⟨statement, s, s'⟩]) s'') :
    Safe I G i Q (d1Run exec statement >>= f : Worker κ σ β) history s := by
  apply Safe.tryBind
  refine Safe.atom hstable hp ?_
  intro s answer hi hp
  obtain ⟨s', hout, hexec⟩ | ⟨changes, s', hout, hexec⟩ := d1Outcome_cases statement answer s
  · rw [hout]
    obtain ⟨hinv, hg⟩ := hstep s s' hi hp hexec
    exact ⟨hinv, hg, fun s'' _ => herror s s' hi hp hexec s''⟩
  · rw [hout]
    obtain ⟨hinv, hg⟩ := hstep s s' hi hp (.inr ⟨_, changes, hexec⟩)
    exact ⟨hinv, hg, fun s'' hs => (hok _ changes s s' hi hp hexec).meanwhile hs⟩

theorem safe_select {statement : κ} {query : σ → Except ApiError β} (hg : ∀ s, G i statement s s)
    (h : ∀ s result, I s → result = .error .internal ∨ query s = result →
      ∀ s'', Meanwhile I G i s s'' → Q result (history ++ [⟨statement, s, s⟩]) s'') :
    Safe I G i Q (d1Select statement query : Worker κ σ β) history s := by
  refine Safe.atom (P := fun _ => True) (fun _ _ _ _ => trivial) trivial ?_
  intro s answer hi _
  refine ⟨hi, hg s, ?_⟩
  intro s'' hs
  dsimp only
  by_cases hdelivered : answer.delivery = .delivered
  · rw [if_pos hdelivered]
    exact h s _ hi (.inr rfl) s'' hs
  · rw [if_neg hdelivered]
    exact h s _ hi (.inl rfl) s'' hs

theorem safe_d1Select {statement : κ} {query : σ → Except ApiError α} {f : α → Worker κ σ β}
    (hg : ∀ s, G i statement s s)
    (hok : ∀ s a, I s → query s = .ok a →
      Safe I G i Q (f a) (history ++ [⟨statement, s, s⟩]) s)
    (herror : ∀ s e, I s → e = .internal ∨ query s = .error e →
      ∀ s'', Q (.error e) (history ++ [⟨statement, s, s⟩]) s'') :
    Safe I G i Q (d1Select statement query >>= f : Worker κ σ β) history s := by
  apply Safe.tryBind
  refine safe_select hg ?_
  intro s result hi hresult s'' hs
  cases result with
  | ok a =>
    rcases hresult with h | h
    · cases h
    · exact (hok s a hi h).meanwhile hs
  | error e =>
    refine herror s e hi ?_ s''
    rcases hresult with h | h
    · exact .inl (Except.error.inj h)
    · exact .inr h

end Rules

section Statements
variable {V : Nat → κ → Prop} {I : σ → Prop} {i : Nat}
  {Q : Except ApiError β → List (Step κ σ) → σ → Prop}

theorem executes_same {statement : κ} (hv : V i statement) (s : σ) :
    Executes exec V i statement s s :=
  ⟨hv, .inl rfl⟩

theorem safe_d1Run {statement : κ} {f : Nat → Worker κ σ β} (P : σ → Prop)
    (hstable : ∀ s s', Rely I (Executes exec V) i s s' → P s → P s') (hp : P s)
    (hv : V i statement)
    (hinv : ∀ now changes s s', I s → exec statement now s = .ok (changes, s') → I s')
    (hok : ∀ now changes s s', I s → P s → exec statement now s = .ok (changes, s') →
      Safe I (Executes exec V) i Q (f changes) (history ++ [⟨statement, s, s'⟩]) s')
    (herror : ∀ s s', I s → P s → Effect exec statement s s' →
      ∀ s'', Q (.error .internal) (history ++ [⟨statement, s, s'⟩]) s'') :
    Safe I (Executes exec V) i Q (d1Run exec statement >>= f : Worker κ σ β) history s := by
  refine safe_call P hstable hp ?_ hok herror
  intro s s' hi _ heffect
  refine ⟨?_, hv, heffect⟩
  rcases heffect with rfl | ⟨now, changes, hexec⟩
  · exact hi
  · exact hinv now changes s s' hi hexec

end Statements

end Calls

end PalBeacon.Cloud
