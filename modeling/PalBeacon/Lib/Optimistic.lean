import PalBeacon.Lib.Machine

namespace PalBeacon.Lib
set_option autoImplicit true

/-- How requests change one stored document: a request reads it, compares its version with the one
it was told to expect, derives the next document and writes that. -/
structure Access (δ ρ ι ε : Type) where
  locked : Bool
  version : δ → Nat
  initial : Nat
  expected : ρ → Nat
  read : ι → Option δ → Except ε δ × Option δ
  next : ι → ρ → δ → Except ε (Option δ)
  write : ι → δ → Option δ → Except ε Unit × Option δ

/-- Where a request stands: before the lock, before its read, before its write, or answered. -/
inductive RequestPhase (δ ε : Type) where
  | waiting
  | ready
  | writing (base next : δ)
  | answered (result : Except ε δ)

def RequestPhase.isWriting : RequestPhase δ ε → Bool
  | .writing _ _ => true
  | _ => false

/-- A request answered with a document: the file it found, what it read there and what it wrote. -/
structure Success (δ ρ : Type) where
  request : ρ
  found : Option δ
  base : δ
  written : Option δ

/-- The file, the request that holds its lock, the requests started and the successes so far. -/
structure SharedFile (δ ρ ε : Type) where
  file : Option δ
  holder : Option Nat
  requests : List (ρ × RequestPhase δ ε)
  successes : List (Success δ ρ)

inductive FileEvent (ρ ι : Type) where
  | start (request : ρ)
  | advance (index : Nat) (io : ι)

namespace SharedFile

def init (file : Option δ) : SharedFile δ ρ ε := ⟨file, none, [], []⟩

def answer (s : SharedFile δ ρ ε) (i : Nat) (request : ρ) (file : Option δ) (result : Except ε δ) :
    SharedFile δ ρ ε :=
  { s with file, holder := none, requests := s.requests.set i (request, .answered result) }

def succeed (s : SharedFile δ ρ ε) (i : Nat) (file : Option δ) (success : Success δ ρ) :
    SharedFile δ ρ ε :=
  { s.answer i success.request file (.ok (success.written.getD success.base)) with
    successes := s.successes ++ [success] }

variable (access : Access δ ρ ι ε)

def advance (s : SharedFile δ ρ ε) (i : Nat) (io : ι) : SharedFile δ ρ ε :=
  match s.requests[i]? with
  | some (request, .waiting) =>
    if access.locked && s.holder.isSome then s
    else
      { s with
        holder := if access.locked then some i else s.holder
        requests := s.requests.set i (request, .ready) }
  | some (request, .ready) =>
    match access.read io s.file with
    | (.error error, file) => s.answer i request file (.error error)
    | (.ok base, file) =>
      match access.next io request base with
      | .error error => s.answer i request file (.error error)
      | .ok none => s.succeed i file ⟨request, file, base, none⟩
      | .ok (some next) =>
        { s with file, requests := s.requests.set i (request, .writing base next) }
  | some (request, .writing base next) =>
    match access.write io next s.file with
    | (.error error, file) => s.answer i request file (.error error)
    | (.ok (), file) => s.succeed i file ⟨request, s.file, base, some next⟩
  | _ => s

def step (s : SharedFile δ ρ ε) : FileEvent ρ ι → Unit × SharedFile δ ρ ε
  | .start request => ((), { s with requests := s.requests ++ [(request, .waiting)] })
  | .advance i io => ((), s.advance access i io)

end SharedFile

namespace Access
variable (access : Access δ ρ ι ε)

def level (file : Option δ) : Nat := file.elim access.initial access.version

def Shows (file : Option δ) (document : δ) : Prop :=
  file = some document ∨ file = none ∧ ∃ io, access.read io none = (.ok document, none)

def after (success : Success δ ρ) : Nat := access.version (success.written.getD success.base)

/-- The success was derived from the document stored before it. -/
structure Based (success : Success δ ρ) : Prop where
  shows : access.Shows success.found success.base
  derived : ∃ io, access.next io success.request success.base = .ok success.written

/-- What the accesses of a versioned document promise. -/
structure Lawful : Prop where
  read_level : ∀ io file, access.level file ≤ access.level (access.read io file).2
  read_ok : ∀ io file base file', access.read io file = (.ok base, file') → access.Shows file' base
  read_none : ∀ io base, access.read io none = (.ok base, none) →
    access.version base = access.initial
  next_expected : ∀ io request base next, access.next io request base = .ok next →
    access.expected request = access.version base
  next_version : ∀ io request base next, access.next io request base = .ok (some next) →
    access.version base < access.version next
  write : ∀ io next file, (∃ error, access.write io next file = (.error error, file)) ∨
    access.write io next file = (.ok (), some next)

variable {access}

theorem Lawful.level_eq (hl : access.Lawful) (h : access.Shows file base) :
    access.level file = access.version base := by
  rcases h with rfl | ⟨rfl, io, hread⟩
  · rfl
  · exact (hl.read_none io base hread).symm

section Success
variable {success : Success δ ρ} (hl : access.Lawful) (h : access.Based success)

include hl h

theorem Based.expected : access.expected success.request = access.version success.base := by
  obtain ⟨io, hnext⟩ := h.derived
  exact hl.next_expected io success.request success.base success.written hnext

theorem Based.increases {next : δ} (hwritten : success.written = some next) :
    access.version success.base < access.version next := by
  obtain ⟨io, hnext⟩ := h.derived
  rw [hwritten] at hnext
  exact hl.next_version io success.request success.base next hnext

theorem Based.le_after : access.version success.base ≤ access.after success := by
  unfold after
  cases hwritten : success.written with
  | none => exact Nat.le_refl _
  | some next => exact Nat.le_of_lt (h.increases hl hwritten)

end Success

end Access

namespace SharedFile
variable {access : Access δ ρ ι ε} {s s' : SharedFile δ ρ ε}

abbrev Writing (s : SharedFile δ ρ ε) (i : Nat) (request : ρ) (base next : δ) : Prop :=
  s.requests[i]? = some (request, RequestPhase.writing base next)

def NoneWriting (s : SharedFile δ ρ ε) : Prop :=
  ∀ i request base next, ¬s.Writing i request base next

def reads (s : SharedFile δ ρ ε) (i : Nat) : Bool :=
  match s.requests[i]? with
  | some (_, .ready) => true
  | _ => false

def Exclusive (s : SharedFile δ ρ ε) : FileEvent ρ ι → Prop
  | .start _ => True
  | .advance i _ => s.reads i = true → s.NoneWriting

theorem noneWriting_iff :
    s.NoneWriting ↔ (s.requests.all fun entry => !entry.2.isWriting) = true := by
  rw [List.all_eq_true]
  constructor
  · intro h entry hmem
    obtain ⟨i, hi⟩ := List.getElem?_of_mem hmem
    obtain ⟨request, phase⟩ := entry
    cases phase with
    | waiting => rfl
    | ready => rfl
    | writing base next => exact absurd hi (h i request base next)
    | answered result => rfl
  · intro h i request base next hi
    cases h _ (List.mem_of_getElem? hi)

instance instDecidableNoneWriting : Decidable s.NoneWriting :=
  decidable_of_iff _ noneWriting_iff.symm

instance instDecidableExclusive (event : FileEvent ρ ι) : Decidable (s.Exclusive event) :=
  match event with
  | .start _ => .isTrue trivial
  | .advance i _ => inferInstanceAs (Decidable (s.reads i = true → s.NoneWriting))

/-- Each success was based on what the one before it left, and a request before its write still has
before it what it read. -/
structure Consistent (access : Access δ ρ ι ε) (s : SharedFile δ ρ ε) : Prop where
  alone : ∀ i request base next, s.Writing i request base next →
    ∀ j request' base' next', s.Writing j request' base' next' → i = j
  current : ∀ i request base next, s.Writing i request base next →
    access.Based ⟨request, s.file, base, some next⟩
  based : ∀ success ∈ s.successes, access.Based success
  later : s.successes.Pairwise fun a b => access.after a ≤ access.version b.base
  below : ∀ success ∈ s.successes, access.after success ≤ access.level s.file

theorem Consistent.init (file : Option δ) : Consistent access (.init file) := by
  have hnone : (SharedFile.init file : SharedFile δ ρ ε).NoneWriting := by
    intro i request base next h
    cases h
  refine ⟨?_, ?_, ?_, .nil, ?_⟩
  · intro i request base next h
    exact absurd h (hnone i request base next)
  · intro i request base next h
    exact absurd h (hnone i request base next)
  · intro success h
    cases h
  · intro success h
    cases h

theorem Consistent.idle (h : Consistent access s) (hfile : s'.file = s.file)
    (hsuccesses : s'.successes = s.successes)
    (hwriting : ∀ i request base next, s'.Writing i request base next →
      s.Writing i request base next) :
    Consistent access s' := by
  refine ⟨?_, ?_, ?_, ?_, ?_⟩
  · intro i request base next hi j request' base' next' hj
    exact h.alone i _ _ _ (hwriting i _ _ _ hi) j _ _ _ (hwriting j _ _ _ hj)
  · intro i request base next hi
    rw [hfile]
    exact h.current i _ _ _ (hwriting i _ _ _ hi)
  · rw [hsuccesses]
    exact h.based
  · rw [hsuccesses]
    exact h.later
  · rw [hsuccesses, hfile]
    exact h.below

/-- After the step no request stands before its write, and the file shows no older version. -/
theorem Consistent.settled (h : Consistent access s)
    (hlevel : access.level s.file ≤ access.level s'.file)
    (hsuccesses : s'.successes = s.successes) (hnone : s'.NoneWriting) : Consistent access s' := by
  refine ⟨?_, ?_, ?_, ?_, ?_⟩
  · intro i request base next hi
    exact absurd hi (hnone i request base next)
  · intro i request base next hi
    exact absurd hi (hnone i request base next)
  · rw [hsuccesses]
    exact h.based
  · rw [hsuccesses]
    exact h.later
  · rw [hsuccesses]
    intro success hmem
    exact (h.below success hmem).trans hlevel

theorem Consistent.extend {success : Success δ ρ} (hl : access.Lawful) (h : Consistent access s)
    (hb : access.Based success)
    (hlevel : access.level s.file ≤ access.version success.base)
    (hafter : access.level s'.file = access.after success)
    (hsuccesses : s'.successes = s.successes ++ [success]) (hnone : s'.NoneWriting) :
    Consistent access s' := by
  have hbelow : ∀ earlier ∈ s.successes, access.after earlier ≤ access.version success.base :=
    fun earlier hmem => (h.below earlier hmem).trans hlevel
  refine ⟨?_, ?_, ?_, ?_, ?_⟩
  · intro i request base next hi
    exact absurd hi (hnone i request base next)
  · intro i request base next hi
    exact absurd hi (hnone i request base next)
  · rw [hsuccesses]
    exact List.forall_mem_append.2 ⟨h.based, List.forall_mem_singleton.2 hb⟩
  · rw [hsuccesses, List.pairwise_append]
    refine ⟨h.later, List.pairwise_singleton _ _, ?_⟩
    intro earlier hmem later hlater
    rw [List.mem_singleton.1 hlater]
    exact hbelow earlier hmem
  · rw [hsuccesses, hafter]
    refine List.forall_mem_append.2 ⟨?_, List.forall_mem_singleton.2 (Nat.le_refl _)⟩
    intro earlier hmem
    exact (hbelow earlier hmem).trans (hb.le_after hl)

theorem writing_of_set {phase : RequestPhase δ ε}
    (h : (s.requests.set i (request, phase))[j]? =
      some (request', RequestPhase.writing base next)) :
    (i = j ∧ (request, phase) = (request', RequestPhase.writing base next)) ∨
      i ≠ j ∧ s.Writing j request' base next := by
  by_cases hij : i = j
  · subst hij
    have hlt : i < s.requests.length := by
      obtain ⟨hlt, -⟩ := List.getElem?_eq_some_iff.1 h
      rwa [List.length_set] at hlt
    rw [List.getElem?_set_self hlt] at h
    exact .inl ⟨rfl, Option.some.inj h⟩
  · rw [List.getElem?_set_ne hij] at h
    exact .inr ⟨hij, h⟩

theorem noneWriting_answer {file : Option δ}
    (h : ∀ j request base next, s.Writing j request base next → i = j) :
    (s.answer i request file result).NoneWriting := by
  intro j request' base next hj
  rcases writing_of_set hj with ⟨-, hphase⟩ | ⟨hij, hj⟩
  · cases hphase
  · exact hij (h j request' base next hj)

theorem noneWriting_succeed {success : Success δ ρ} {file : Option δ}
    (h : ∀ j request base next, s.Writing j request base next → i = j) :
    (s.succeed i file success).NoneWriting := by
  intro j request base next hj
  exact (noneWriting_answer h : (s.answer i success.request file _).NoneWriting) j request
    base next hj

theorem Consistent.read (hl : access.Lawful) (h : Consistent access s)
    (hready : s.requests[i]? = some (request, RequestPhase.ready)) (hquiet : s.NoneWriting)
    (io : ι) :
    Consistent access (s.advance access i io) := by
  have hothers : ∀ j request base next, s.Writing j request base next → i = j :=
    fun j request base next hj => absurd hj (hquiet j request base next)
  have hlevel := hl.read_level io s.file
  unfold SharedFile.advance
  rw [hready]
  dsimp only
  split
  · next error file hread =>
    rw [hread] at hlevel
    exact h.settled hlevel rfl (noneWriting_answer hothers)
  · next base file hread =>
    rw [hread] at hlevel
    have hshows := hl.read_ok io s.file base file hread
    have hversion := hl.level_eq hshows
    have hle : access.level s.file ≤ access.version base := hlevel.trans (Nat.le_of_eq hversion)
    split
    · exact h.settled hlevel rfl (noneWriting_answer hothers)
    · next hnext =>
      have hb : access.Based ⟨request, file, base, none⟩ := ⟨hshows, io, hnext⟩
      exact h.extend hl hb hle hversion rfl (noneWriting_succeed hothers)
    · next next hnext =>
      have hwriting : ∀ j request' base' next',
          (s.requests.set i (request, .writing base next))[j]? =
            some (request', RequestPhase.writing base' next') →
          i = j ∧ request = request' ∧ base = base' ∧ next = next' := by
        intro j request' base' next' hj
        rcases writing_of_set hj with ⟨hij, hphase⟩ | ⟨-, hj⟩
        · cases hphase
          exact ⟨hij, rfl, rfl, rfl⟩
        · exact absurd hj (hquiet j request' base' next')
      refine ⟨?_, ?_, h.based, h.later, ?_⟩
      · intro j request' base' next' hj k request'' base'' next'' hk
        exact (hwriting j _ _ _ hj).1.symm.trans (hwriting k _ _ _ hk).1
      · intro j request' base' next' hj
        obtain ⟨-, rfl, rfl, rfl⟩ := hwriting j _ _ _ hj
        exact ⟨hshows, io, hnext⟩
      · intro success hmem
        exact (h.below success hmem).trans hlevel

theorem Consistent.write (hl : access.Lawful) (h : Consistent access s)
    (hi : s.Writing i request base next) (io : ι) :
    Consistent access (s.advance access i io) := by
  have hothers := h.alone i request base next hi
  have hb := h.current i request base next hi
  unfold SharedFile.advance
  rw [hi]
  dsimp only
  obtain ⟨error, hwrite⟩ | hwrite := hl.write io next s.file
  · rw [hwrite]
    exact h.settled (Nat.le_refl _) rfl (noneWriting_answer hothers)
  · rw [hwrite]
    have hlevel := hl.level_eq hb.shows
    exact h.extend hl hb (Nat.le_of_eq hlevel) rfl rfl (noneWriting_succeed hothers)

theorem Consistent.step (hl : access.Lawful) (h : Consistent access s) (event : FileEvent ρ ι)
    (hx : s.Exclusive event) : Consistent access (s.step access event).2 := by
  cases event with
  | start request =>
    refine h.idle rfl rfl ?_
    intro i request' base next hi
    change (s.requests ++ [(request, RequestPhase.waiting)])[i]? = _ at hi
    rw [List.getElem?_append] at hi
    split at hi
    · exact hi
    · rw [List.getElem?_singleton] at hi
      split at hi
      · cases hi
      · cases hi
  | advance i io =>
    change Consistent access (s.advance access i io)
    cases hi : s.requests[i]? with
    | none =>
      unfold SharedFile.advance
      rw [hi]
      exact h
    | some entry =>
      obtain ⟨request, phase⟩ := entry
      cases phase with
      | waiting =>
        unfold SharedFile.advance
        rw [hi]
        dsimp only
        split
        · exact h
        · refine h.idle rfl rfl ?_
          intro j request' base next hj
          rcases writing_of_set hj with ⟨-, hphase⟩ | ⟨-, hj⟩
          · cases hphase
          · exact hj
      | ready =>
        have hreads : s.reads i = true := by rw [SharedFile.reads, hi]
        exact h.read hl hi (hx hreads) io
      | writing base next => exact h.write hl hi io
      | answered result =>
        unfold SharedFile.advance
        rw [hi]
        exact h

section Locks

def Guarded (s : SharedFile δ ρ ε) : Prop :=
  ∀ i request phase, s.requests[i]? = some (request, phase) →
    (phase = .ready ∨ ∃ base next, phase = .writing base next) → s.holder = some i

theorem Guarded.init (file : Option δ) : Guarded (init file : SharedFile δ ρ ε) := by
  intro i request phase h
  cases h

theorem Guarded.answer {file : Option δ} (h : Guarded s) (hi : s.holder = some i) :
    Guarded (s.answer i request file result) := by
  intro j request' phase hj hphase
  change (s.requests.set i (request, .answered result))[j]? = _ at hj
  by_cases hij : i = j
  · subst hij
    have hlt : i < s.requests.length := by
      obtain ⟨hlt, -⟩ := List.getElem?_eq_some_iff.1 hj
      rwa [List.length_set] at hlt
    rw [List.getElem?_set_self hlt] at hj
    cases hj
    rcases hphase with hphase | ⟨base, next, hphase⟩
    · cases hphase
    · cases hphase
  · rw [List.getElem?_set_ne hij] at hj
    exact absurd (Option.some.inj (hi.symm.trans (h j request' phase hj hphase))) hij

theorem Guarded.succeed {success : Success δ ρ} {file : Option δ} (h : Guarded s)
    (hi : s.holder = some i) : Guarded (s.succeed i file success) := by
  intro j request phase hj
  exact (h.answer hi : Guarded (s.answer i success.request file _)) j request phase hj

theorem Guarded.hold {phase : RequestPhase δ ε} (h : Guarded s)
    (hi : s.holder = some i ∨ s.holder = none)
    (file : Option δ) :
    Guarded { s with file, holder := some i, requests := s.requests.set i (request, phase) } := by
  intro j request' phase' hj hphase
  by_cases hij : i = j
  · rw [hij]
  · rw [List.getElem?_set_ne hij] at hj
    have hholder := h j request' phase' hj hphase
    rcases hi with hi | hi
    · rw [hholder] at hi
      exact absurd (Option.some.inj hi).symm hij
    · rw [hholder] at hi
      cases hi

theorem Guarded.step (hlocked : access.locked = true) (h : Guarded s) (event : FileEvent ρ ι) :
    Guarded (s.step access event).2 := by
  cases event with
  | start request =>
    intro i request' phase hi hphase
    change (s.requests ++ [(request, RequestPhase.waiting)])[i]? = _ at hi
    rw [List.getElem?_append] at hi
    split at hi
    · exact h i request' phase hi hphase
    · rw [List.getElem?_singleton] at hi
      split at hi
      · cases hi
        rcases hphase with hphase | ⟨base, next, hphase⟩
        · cases hphase
        · cases hphase
      · cases hi
  | advance i io =>
    change Guarded (s.advance access i io)
    unfold SharedFile.advance
    split
    · split
      · exact h
      · next hfree =>
        rw [hlocked, Bool.true_and, Option.not_isSome_iff_eq_none] at hfree
        exact h.hold (.inr hfree) s.file
    · next request hi =>
      have hholder := h i request .ready hi (.inl rfl)
      split
      · exact h.answer hholder
      · split
        · exact h.answer hholder
        · exact h.succeed hholder
        · next base file _ _ next _ =>
          have hkept : Guarded { s with
              file := file, holder := some i
              requests := s.requests.set i (request, RequestPhase.writing base next) } :=
            h.hold (.inl hholder) file
          rw [← hholder] at hkept
          exact hkept
    · next request base next hi =>
      have hholder := h i request _ hi (.inr ⟨base, next, rfl⟩)
      split
      · exact h.answer hholder
      · exact h.succeed hholder
    · exact h

theorem Guarded.exclusive (h : Guarded s) (event : FileEvent ρ ι) : s.Exclusive event := by
  cases event with
  | start request => trivial
  | advance i io =>
    intro hreads j request' base next hj
    unfold SharedFile.reads at hreads
    split at hreads
    · next request hi =>
      have hholder := h i request .ready hi (.inl rfl)
      have hholder' := h j request' _ hj (.inr ⟨base, next, rfl⟩)
      obtain rfl := Option.some.inj (hholder.symm.trans hholder')
      cases hi.symm.trans hj
    · cases hreads

end Locks

section Versions

def writtenFrom (access : Access δ ρ ι ε) (s : SharedFile δ ρ ε) (version : Nat) :
    List (Success δ ρ) :=
  s.successes.filter fun success =>
    success.written.isSome && decide (access.expected success.request = version)

theorem Consistent.writtenFrom_length (hl : access.Lawful) (h : Consistent access s)
    (version : Nat) :
    (s.writtenFrom access version).length ≤ 1 := by
  have hpairs : (s.writtenFrom access version).Pairwise fun a b =>
      access.after a ≤ access.version b.base := h.later.filter _
  have hbased : ∀ success ∈ s.writtenFrom access version,
      access.version success.base = version ∧ version < access.after success := by
    intro success hmem
    obtain ⟨hmem, hfilter⟩ := List.mem_filter.1 hmem
    rw [Bool.and_eq_true, decide_eq_true_eq] at hfilter
    obtain ⟨next, hnext⟩ := Option.isSome_iff_exists.1 hfilter.1
    have hb := h.based success hmem
    have hversion := (hb.expected hl).symm.trans hfilter.2
    refine ⟨hversion, ?_⟩
    unfold Access.after
    rw [hnext, ← hversion]
    exact hb.increases hl hnext
  revert hpairs hbased
  cases s.writtenFrom access version with
  | nil => intros; exact Nat.zero_le _
  | cons first rest =>
    intro hpairs hbased
    cases rest with
    | nil => exact Nat.le_refl _
    | cons second rest =>
      have hle := List.rel_of_pairwise_cons hpairs List.mem_cons_self
      have hfirst := hbased first List.mem_cons_self
      have hsecond := hbased second (List.mem_cons_of_mem _ List.mem_cons_self)
      omega

/-- Requests that were carried out one after another: a version is the base of at most one write,
every success is derived from the document stored before it, and every write goes on to a greater
version. -/
structure Serial (access : Access δ ρ ι ε) (s : SharedFile δ ρ ε) : Prop where
  once : ∀ version, (s.writtenFrom access version).length ≤ 1
  based : ∀ success ∈ s.successes, access.Based success
  expected : ∀ success ∈ s.successes,
    access.expected success.request = access.version success.base ∧
      access.level success.found = access.version success.base
  increases : ∀ success ∈ s.successes, ∀ next, success.written = some next →
    access.version success.base < access.version next
  later : s.successes.Pairwise fun a b => access.after a ≤ access.version b.base

theorem Consistent.serial (hl : access.Lawful) (h : Consistent access s) : Serial access s where
  once := h.writtenFrom_length hl
  based := h.based
  expected success hmem :=
    ⟨(h.based success hmem).expected hl, hl.level_eq (h.based success hmem).shows⟩
  increases success hmem _ hwritten := (h.based success hmem).increases hl hwritten
  later := h.later

end Versions

end SharedFile

end PalBeacon.Lib
