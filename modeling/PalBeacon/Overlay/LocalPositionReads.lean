import PalBeacon.Overlay.LocalPosition

namespace PalBeacon.Overlay
open PalBeacon.Lib PalBeacon.State
set_option autoImplicit true

def answeredBytes (answers : Nat → ReadAnswer) (index length : Nat) : Option (List UInt8) :=
  (answers index).map fun bytes => (List.range length).map bytes

def answeredPointer (answers : Nat → ReadAnswer) (index : Nat) : Option Nat :=
  (answeredBytes answers index 8).map ofLeBytes

def chainRequests : Nat → List Nat → List Nat → List MemoryRead
  | base, offset :: offsets, pointer :: pointers =>
    ⟨base + offset, 8⟩ :: chainRequests pointer offsets pointers
  | _, _, _ => []

/-- The pointers are not null, and the reads from `start` on brought them in this order. -/
def Walked (answers : Nat → ReadAnswer) (start : Nat) : List Nat → Prop
  | [] => True
  | pointer :: pointers =>
    pointer ≠ 0 ∧ answeredPointer answers start = some pointer ∧ Walked answers (start + 1) pointers

theorem checkedAddress_eq_ok :
    checkedAddress base offset = .ok address ↔
      base + offset < 2 ^ 64 ∧ base + offset = address ∧ address ≠ 0 := by
  rw [checkedAddress, bind_eq_ok]
  constructor
  · rintro ⟨a, ha, h⟩
    obtain ⟨hlt, rfl⟩ := checkedAdd_eq_some.1 (okOr_eq_ok.1 ha)
    obtain ⟨hne, h⟩ := check_bind_eq_ok.1 h
    cases h
    exact ⟨hlt, rfl, of_decide_eq_true (ensure_eq_ok.1 hne)⟩
  · rintro ⟨hlt, rfl, hne⟩
    refine ⟨base + offset, okOr_eq_ok.2 (checkedAdd_eq_some.2 ⟨hlt, rfl⟩), ?_⟩
    exact check_bind_eq_ok.2 ⟨ensure_eq_ok.2 (decide_eq_true hne), rfl⟩

section Reads
variable {answers : Nat → ReadAnswer}

theorem readExact_eq_ok
    (h : readExact address length answers asked = (.ok bytes, asked')) :
    answeredBytes answers asked.length length = some bytes ∧
      asked' = asked ++ [⟨address, length⟩] := by
  obtain ⟨answer, asked₁, hask, h⟩ := AskM.bind_eq_ok h
  cases hask
  obtain ⟨hbytes, rfl⟩ := Prod.mk.inj h
  exact ⟨okOr_eq_ok.1 hbytes, rfl⟩

theorem readPointer_eq_ok (h : readPointer address answers asked = (.ok pointer, asked')) :
    pointer ≠ 0 ∧ answeredPointer answers asked.length = some pointer ∧
      asked' = asked ++ [⟨address, 8⟩] := by
  obtain ⟨-, -, h⟩ := AskM.lift_bind_eq_ok h
  obtain ⟨bytes, asked₁, hread, h⟩ := AskM.bind_eq_ok h
  obtain ⟨hbytes, rfl⟩ := readExact_eq_ok hread
  obtain ⟨_, hne, h⟩ := AskM.lift_bind_eq_ok h
  cases h
  refine ⟨of_decide_eq_true (ensure_eq_ok.1 hne), ?_, rfl⟩
  rw [answeredPointer, hbytes]
  rfl

theorem resolvePointers_eq_ok
    (h : resolvePointers base offsets answers asked = (.ok pointers, asked')) :
    pointers.length = offsets.length ∧ Walked answers asked.length pointers ∧
      asked' = asked ++ chainRequests base offsets pointers := by
  induction offsets generalizing base asked asked' pointers with
  | nil =>
    cases h
    exact ⟨rfl, trivial, (List.append_nil _).symm⟩
  | cons offset offsets ih =>
    obtain ⟨slot, hslot, h⟩ := AskM.lift_bind_eq_ok h
    obtain ⟨-, rfl, -⟩ := checkedAddress_eq_ok.1 hslot
    obtain ⟨pointer, _, hpointer, h⟩ := AskM.bind_eq_ok h
    obtain ⟨hne, hanswer, rfl⟩ := readPointer_eq_ok hpointer
    obtain ⟨rest, _, hrest, h⟩ := AskM.bind_eq_ok h
    obtain ⟨hlength, hwalked, rfl⟩ := ih hrest
    cases h
    rw [List.length_append] at hwalked
    refine ⟨congrArg Nat.succ hlength, ⟨hne, hanswer, hwalked⟩, ?_⟩
    rw [List.append_assoc]
    rfl

theorem verifyPointers_eq_ok (hlength : pointers.length = offsets.length)
    (h : verifyPointers base offsets pointers answers asked = (.ok last, asked')) :
    Walked answers asked.length pointers ∧
      asked' = asked ++ chainRequests base offsets pointers := by
  induction offsets generalizing base asked pointers with
  | nil =>
    cases List.eq_nil_of_length_eq_zero hlength
    cases h
    exact ⟨trivial, (List.append_nil _).symm⟩
  | cons offset offsets ih =>
    obtain ⟨expected, pointers, rfl⟩ := List.exists_cons_of_length_eq_add_one hlength
    obtain ⟨slot, hslot, h⟩ := AskM.lift_bind_eq_ok h
    obtain ⟨-, rfl, -⟩ := checkedAddress_eq_ok.1 hslot
    obtain ⟨observed, _, hobserved, h⟩ := AskM.bind_eq_ok h
    obtain ⟨hne, hanswer, rfl⟩ := readPointer_eq_ok hobserved
    obtain ⟨_, hsame, hrest⟩ := AskM.lift_bind_eq_ok h
    cases of_decide_eq_true (ensure_eq_ok.1 hsame)
    obtain ⟨hwalked, rfl⟩ := ih (Nat.succ.inj hlength) hrest
    rw [List.length_append] at hwalked
    refine ⟨⟨hne, hanswer, hwalked⟩, ?_⟩
    rw [List.append_assoc]
    rfl

theorem resolvePointerChain_eq_ok
    (h : resolvePointerChain rootSlot answers asked = (.ok chain, asked')) :
    chain.pointers.length = 7 ∧ Walked answers asked.length chain.pointers ∧
      chain.cameraAddress = chain.pointers.getLast?.getD rootSlot + cameraOffset ∧
      asked' = asked ++ chainRequests rootSlot pointerReadOffsets chain.pointers := by
  obtain ⟨pointers, _, hpointers, hcamera⟩ := AskM.bind_eq_ok h
  obtain ⟨hlength, hwalked, rfl⟩ := resolvePointers_eq_ok hpointers
  obtain ⟨address, haddress, hdone⟩ := AskM.lift_bind_eq_ok hcamera
  obtain ⟨-, rfl, -⟩ := checkedAddress_eq_ok.1 haddress
  cases hdone
  exact ⟨hlength, hwalked, rfl, rfl⟩

theorem verifyPointerChain_eq_ok (hlength : expected.pointers.length = 7)
    (h : verifyPointerChain rootSlot expected answers asked = (.ok (), asked')) :
    Walked answers asked.length expected.pointers ∧
      asked' = asked ++ chainRequests rootSlot pointerReadOffsets expected.pointers := by
  obtain ⟨last, _, hagain, hcamera⟩ := AskM.bind_eq_ok h
  obtain ⟨hwalked, rfl⟩ := verifyPointers_eq_ok hlength hagain
  obtain ⟨address, -, hsame⟩ := AskM.lift_bind_eq_ok hcamera
  exact ⟨hwalked, (Prod.mk.inj hsame).2.symm⟩

theorem chainRequests_length (h : pointers.length = offsets.length) :
    (chainRequests base offsets pointers).length = offsets.length := by
  induction offsets generalizing base pointers with
  | nil => rw [List.eq_nil_of_length_eq_zero h]; rfl
  | cons offset offsets ih =>
    obtain ⟨pointer, pointers, rfl⟩ := List.exists_cons_of_length_eq_add_one h
    rw [chainRequests, List.length_cons, ih (Nat.succ.inj h), List.length_cons]

/-- A position between two walks that met the same pointers. -/
structure StableRead (moduleBase : Nat) (answers : Nat → ReadAnswer) (asked : List MemoryRead)
    (observation : LocalPositionObservation) where
  pointers : List Nat
  seven : pointers.length = 7
  walked : Walked answers 0 pointers
  camera : List UInt8
  photographed : answeredBytes answers 7 cameraBlockBytes = some camera
  walkedAgain : Walked answers 8 pointers
  asked_eq : asked = chainRequests (moduleBase + rootRva) pointerReadOffsets pointers ++
    [⟨pointers.getLast?.getD 0 + cameraOffset, cameraBlockBytes⟩] ++
    chainRequests (moduleBase + rootRva) pointerReadOffsets pointers
  observed : observation = cameraObservation camera
  withinBounds : isPlausible observation = true
  notAllZero : allZero observation = false

theorem decodeCameraBlock_eq_some (h : decodeCameraBlock camera = .ok (some observation)) :
    observation = cameraObservation camera ∧ isPlausible observation = true ∧
      allZero observation = false := by
  rw [decodeCameraBlock] at h
  split at h
  · cases h
  · next hp =>
    split at h
    · cases h
    · next hz =>
      cases h
      exact ⟨rfl, by simpa using hp, by simpa using hz⟩

theorem readStablePositionInSession_eq_ok
    (h : readStablePositionInSession identity answers [] = (.ok (some observation), asked)) :
    Nonempty (StableRead identity.moduleBase.toNat answers asked observation) := by
  obtain ⟨rootSlot, hroot, h₁⟩ := AskM.lift_bind_eq_ok h
  obtain ⟨-, rfl, -⟩ := checkedAddress_eq_ok.1 hroot
  obtain ⟨chain, _, hchain, h₂⟩ := AskM.bind_eq_ok h₁
  obtain ⟨hlength, hwalked, haddress, rfl⟩ := resolvePointerChain_eq_ok hchain
  obtain ⟨_, -, h₃⟩ := AskM.lift_bind_eq_ok h₂
  obtain ⟨camera, _, hread, h₄⟩ := AskM.bind_eq_ok h₃
  obtain ⟨hcamera, rfl⟩ := readExact_eq_ok hread
  obtain ⟨_, _, hverify, h₅⟩ := AskM.bind_eq_ok h₄
  obtain ⟨hagain, rfl⟩ := verifyPointerChain_eq_ok hlength hverify
  obtain ⟨hdecode, rfl⟩ := Prod.mk.inj h₅
  obtain ⟨hobserved, hbounds, hzero⟩ := decodeCameraBlock_eq_some hdecode
  have hfirst : (chainRequests (identity.moduleBase.toNat + rootRva) pointerReadOffsets
      chain.pointers).length = 7 := chainRequests_length hlength
  have hne : chain.pointers ≠ [] := by
    intro hnil
    rw [hnil] at hlength
    cases hlength
  rw [List.nil_append, hfirst] at hcamera
  rw [List.nil_append, List.length_append, hfirst] at hagain
  refine ⟨⟨chain.pointers, hlength, hwalked, camera, hcamera, hagain, ?_, hobserved, hbounds,
    hzero⟩⟩
  rw [haddress, List.getLast?_eq_getLast_of_ne_nil hne, List.nil_append]
  rfl

end Reads

section Addresses
variable (moduleBase : Nat) (answers : Nat → ReadAnswer)

/-- An address to go on from: the root of the chain, or a pointer that was read. -/
def KnownBase (base : Nat) (asked : List MemoryRead) : Prop :=
  (base = moduleBase + rootRva ∧ base < 2 ^ 64) ∨
    ∃ index < asked.length, answeredPointer answers index = some base

/-- Every read is at a sum that fits an address, from a base that was known before it. -/
inductive SoundReads : List MemoryRead → Prop where
  | nil : SoundReads []
  | pointer : SoundReads asked → KnownBase moduleBase answers base asked →
      offset ∈ pointerReadOffsets → base + offset < 2 ^ 64 → base + offset ≠ 0 →
      SoundReads (asked ++ [⟨base + offset, 8⟩])
  | camera : SoundReads asked → KnownBase moduleBase answers base asked →
      base + cameraOffset + cameraBlockBytes < 2 ^ 64 →
      SoundReads (asked ++ [⟨base + cameraOffset, cameraBlockBytes⟩])

variable {moduleBase answers}

theorem ensures_checkedAddress {P : List MemoryRead → Prop} :
    AskM.Ensures answers (SoundReads moduleBase answers) P
      (AskM.lift (checkedAddress base offset) : SessionM Nat)
      (fun address asked => P asked ∧ address = base + offset ∧ base + offset < 2 ^ 64 ∧
        base + offset ≠ 0) := by
  apply AskM.Ensures.lift
  intro asked address hp h
  obtain ⟨hlt, rfl, hne⟩ := checkedAddress_eq_ok.1 h
  exact ⟨hp, rfl, hlt, hne⟩

theorem ensures_check {P : List MemoryRead → Prop} {x : Except LocalPositionTerminalReason α} :
    AskM.Ensures answers (SoundReads moduleBase answers) P (AskM.lift x : SessionM α)
      (fun a asked => P asked ∧ x = .ok a) :=
  AskM.Ensures.lift fun _ _ hp h => ⟨hp, h⟩

theorem ensures_readExact {P : List MemoryRead → Prop}
    (h : ∀ asked, SoundReads moduleBase answers asked → P asked →
      SoundReads moduleBase answers (asked ++ [⟨address, length⟩])) :
    AskM.Ensures answers (SoundReads moduleBase answers) P (readExact address length)
      (fun bytes asked => ∃ index < asked.length, answeredBytes answers index length =
        some bytes) := by
  have hask : AskM.Ensures answers (SoundReads moduleBase answers) P
      (AskM.ask ⟨address, length⟩ : SessionM ReadAnswer)
      (fun answer asked => ∃ index < asked.length, answers index = answer) := by
    apply AskM.Ensures.ask
    intro asked hsound hp
    exact ⟨h asked hsound hp, asked.length, by simp, rfl⟩
  apply hask.bind
  intro answer
  apply AskM.Ensures.lift
  intro asked bytes hanswer hbytes
  obtain ⟨index, hindex, rfl⟩ := hanswer
  exact ⟨index, hindex, okOr_eq_ok.1 hbytes⟩

theorem ensures_readPointer (hoffset : offset ∈ pointerReadOffsets) :
    AskM.Ensures answers (SoundReads moduleBase answers)
      (fun asked => KnownBase moduleBase answers base asked ∧ address = base + offset ∧
        base + offset < 2 ^ 64 ∧ base + offset ≠ 0)
      (readPointer address) (fun pointer => KnownBase moduleBase answers pointer) := by
  apply ensures_check.bind
  intro _
  apply AskM.Ensures.bind
  · apply ensures_readExact
    intro asked hsound hpre
    obtain ⟨⟨hbase, rfl, hlt, hne⟩, -⟩ := hpre
    exact .pointer hsound hbase hoffset hlt hne
  intro bytes
  apply ensures_check.bind
  intro _
  apply AskM.Ensures.pure
  intro asked h
  obtain ⟨⟨index, hindex, hbytes⟩, -⟩ := h
  refine .inr ⟨index, hindex, ?_⟩
  rw [answeredPointer, hbytes]
  rfl

theorem ensures_resolvePointers (hoffsets : offsets ⊆ pointerReadOffsets) :
    AskM.Ensures answers (SoundReads moduleBase answers) (KnownBase moduleBase answers base)
      (resolvePointers base offsets)
      (fun pointers => KnownBase moduleBase answers (pointers.getLast?.getD base)) := by
  induction offsets generalizing base with
  | nil => exact .pure fun _ h => h
  | cons offset offsets ih =>
    obtain ⟨hoffset, hoffsets⟩ := List.cons_subset.1 hoffsets
    apply ensures_checkedAddress.bind
    intro slot
    apply (ensures_readPointer hoffset).bind
    intro pointer
    apply (ih hoffsets).bind
    intro pointers
    apply AskM.Ensures.pure
    intro asked h
    rw [List.getLast?_cons]
    exact h

theorem ensures_verifyPointers (hoffsets : offsets ⊆ pointerReadOffsets) :
    AskM.Ensures answers (SoundReads moduleBase answers) (KnownBase moduleBase answers base)
      (verifyPointers base offsets pointers) (fun _ _ => True) := by
  induction offsets generalizing base pointers with
  | nil => exact .pure fun _ _ => trivial
  | cons offset offsets ih =>
    obtain ⟨hoffset, hoffsets⟩ := List.cons_subset.1 hoffsets
    cases pointers with
    | nil => exact .pure fun _ _ => trivial
    | cons expected pointers =>
      apply ensures_checkedAddress.bind
      intro slot
      apply (ensures_readPointer hoffset).bind
      intro observed
      apply ensures_check.bind
      intro _ asked hsound h
      obtain ⟨hknown, hsame⟩ := h
      cases of_decide_eq_true (ensure_eq_ok.1 hsame)
      exact ih hoffsets asked hsound hknown

theorem ensures_resolvePointerChain {P : List MemoryRead → Prop}
    (hroot : rootSlot = moduleBase + rootRva) (hlt : rootSlot < 2 ^ 64) :
    AskM.Ensures answers (SoundReads moduleBase answers) P (resolvePointerChain rootSlot)
      (fun chain asked => ∃ base, KnownBase moduleBase answers base asked ∧
        chain.cameraAddress = base + cameraOffset) := by
  have hwalk : AskM.Ensures answers (SoundReads moduleBase answers) P _ _ :=
    (ensures_resolvePointers (List.Subset.refl pointerReadOffsets)).weaken
      fun _ _ => .inl ⟨hroot, hlt⟩
  apply hwalk.bind
  intro pointers
  apply ensures_checkedAddress.bind
  intro address
  apply AskM.Ensures.pure
  intro asked h
  obtain ⟨hbase, rfl, -, -⟩ := h
  exact ⟨_, hbase, rfl⟩

theorem ensures_verifyPointerChain {P : List MemoryRead → Prop}
    (hroot : rootSlot = moduleBase + rootRva) (hlt : rootSlot < 2 ^ 64) :
    AskM.Ensures answers (SoundReads moduleBase answers) P (verifyPointerChain rootSlot expected)
      (fun _ _ => True) := by
  have hwalk : AskM.Ensures answers (SoundReads moduleBase answers) P
      (verifyPointers rootSlot pointerReadOffsets expected.pointers) _ :=
    (ensures_verifyPointers (List.Subset.refl pointerReadOffsets)).weaken
      fun _ _ => .inl ⟨hroot, hlt⟩
  apply hwalk.bind
  intro base
  apply ensures_check.bind
  intro address
  exact AskM.Ensures.lift fun _ _ _ _ => trivial

end Addresses

theorem readStablePositionInSession_sound (identity : LocalProcessIdentity)
    (answers : Nat → ReadAnswer) :
    SoundReads identity.moduleBase.toNat answers
      (readStablePositionInSession identity answers []).2 := by
  have h : AskM.Ensures answers (SoundReads identity.moduleBase.toNat answers) (fun _ => True)
      (readStablePositionInSession identity) (fun _ _ => True) := by
    apply ensures_checkedAddress.bind
    intro rootSlot
    apply AskM.Ensures.assuming fun _ h => h.2
    intro hslot
    obtain ⟨hroot, hlt, -⟩ := hslot
    have hlt : rootSlot < 2 ^ 64 := hroot ▸ hlt
    apply (ensures_resolvePointerChain hroot hlt).bind
    intro chain
    apply ensures_check.bind
    intro stop
    apply AskM.Ensures.bind
    · apply ensures_readExact
      intro asked hsound h
      obtain ⟨⟨base, hbase, haddress⟩, hfits⟩ := h
      obtain ⟨hfits, -⟩ := checkedAdd_eq_some.1 (okOr_eq_ok.1 hfits)
      rw [haddress] at hfits
      rw [haddress]
      exact .camera hsound hbase hfits
    intro camera
    apply (ensures_verifyPointerChain hroot hlt).bind
    intro _
    exact AskM.Ensures.lift fun _ _ _ _ => trivial
  exact (h [] .nil trivial).1

end PalBeacon.Overlay
