import PalBeacon.Bridge.Reader

namespace PalBeacon.Bridge
open PalBeacon.Lib
set_option autoImplicit true

/-- The frame that a mapping holds, in every field and every byte. -/
structure HoldsFrame (m : Mapping) (f : FullscreenFrame) : Prop where
  sequence : f.sequence = m.word64 .sequence
  width : f.width = m.word32 .width
  height : f.height = m.word32 .height
  displayWidth : f.displayWidth = max (m.word32 displayWidthWord) (m.word32 .width)
  displayHeight : f.displayHeight = max (m.word32 displayHeightWord) (m.word32 .height)
  displayMode : FrameDisplayMode.fromRaw (m.word32 .displayMode) = some f.displayMode
  inputMode : FrameInputMode.fromRaw (m.word32 .inputMode) = some f.inputMode
  poiFilters : f.poiFilters = .fromBits (m.word32 .poiFilterBits)
  opacity : f.opacity = float32Clamp 0.2 1.0 (.ofBits (m.word32 .opacityBits))
  logicalVisible : f.logicalVisible = (m.word32 .logicalVisible != 0)
  length : f.rgba.length = f.width.toNat * f.height.toNat * bytesPerPixel
  rgba : ∀ i < f.rgba.length, f.rgba[i]? = some (m.payload i)

abbrev SystemTransition := Transition System SystemOp (Option SystemOutput)

/-- The return of a call that published a frame, or a change of its visibility, under a
sequence. -/
def Completes (t : SystemTransition) (sequence : UInt64) : Prop :=
  t.output = some (.returned (.published sequence)) ∨
    t.output = some (.returned .visibilitySet) ∧ t.pre.writer.rest = [.publish .sequence] ∧
      t.post.writer.mapping.word64 .sequence = sequence

section Data
variable {m m' : Mapping} {w : Writer} {a : Access} {rest : List Access}

abbrev FrameData := ({word // word ∈ frameWords} → UInt32) × (Nat → UInt8)

def frameData (m : Mapping) : FrameData := (fun word => m.word32 word.1, m.payload)

theorem frameData_word (h : frameData m = frameData m') (hw : word ∈ frameWords) :
    m.word32 word = m'.word32 word :=
  congrFun (congrArg Prod.fst h) ⟨word, hw⟩

theorem frameData_update (m : Mapping) (value : UInt32) (h : word ∉ frameWords) :
    frameData { m with word32 := Function.update m.word32 word value } = frameData m := by
  apply Prod.ext
  · funext other
    apply Function.update_of_ne
    intro he
    rw [← he] at h
    exact h other.2
  · rfl

theorem apply_frameData (held : Word64 → UInt64) (h : Lock.frame.role a ≠ .modifies) :
    frameData (a.apply m held) = frameData m := by
  cases a with
  | store32 word value =>
    apply frameData_update
    intro hw
    exact h (role_eq_modifies.2 (decide_eq_true hw))
  | storePayload index value => exact absurd rfl h
  | fetchAdd word => rfl
  | load word => rfl
  | publish word => rfl
  | store64 word value => rfl
  | storeSearch index store => rfl

theorem isOdd_ofNat (n : Nat) : isOdd (.ofNat n) = decide (n % 2 = 1) := by
  rw [isOdd_eq, UInt64.toNat_ofNat']
  congr 2
  omega

theorem even_of_not_odd (h : isOdd (.ofNat n) = false) : Even n := by
  rw [isOdd_ofNat, decide_eq_false_iff_not] at h
  exact Nat.even_iff.2 (by omega)

theorem not_odd_of_even (h : Even n) : isOdd (.ofNat n) = false := by
  have hmod := Nat.even_iff.1 h
  rw [isOdd_ofNat, decide_eq_false_iff_not]
  omega

theorem sequenceBumps_of_passes (h : Lock.frame.Passes a) : sequenceBumps a = 0 := by
  cases a with
  | fetchAdd word => cases word <;> first | rfl | exact absurd h (by decide)
  | publish word => cases word <;> first | rfl | exact absurd h (by decide)
  | store64 word value => rfl
  | load word => rfl
  | store32 word value => rfl
  | storePayload index value => rfl
  | storeSearch index store => rfl

theorem Stands.guarded (h : Stands .frame p w) (hq : p.next (Lock.frame.role a) = some q)
    (rest : List Access) (hword : w.mapping.word64 .sequence = .ofNat epoch) :
    Guarded epoch (frameData w.mapping) (epoch + sequenceBumps a)
        (frameData (w.access a rest).mapping) ∧
      (w.access a rest).mapping.word64 .sequence = .ofNat (epoch + sequenceBumps a) := by
  have hparity := h.parity
  change isOdd (w.mapping.word64 .sequence) = _ at hparity
  rcases role_cases .frame a with ⟨hrole, rfl⟩ | ⟨hrole, rfl⟩ | ⟨hrole, _⟩ | hpass
  · have hnext : (w.access (.fetchAdd .sequence) rest).mapping.word64 .sequence =
        w.mapping.word64 .sequence + 1 := rfl
    refine ⟨⟨Nat.le_succ epoch, fun he => absurd he (Nat.succ_ne_self epoch)⟩, ?_⟩
    rw [hword, ← UInt64.ofNat_one, ← UInt64.ofNat_add] at hnext
    exact hnext
  · rw [hrole] at hq
    cases p <;> cases hq
    have hheld : w.held .sequence = w.mapping.word64 .sequence := h.keeps rfl
    have hnext : (w.access (.publish .sequence) rest).mapping.word64 .sequence =
        nextEven (w.held .sequence) := rfl
    refine ⟨⟨Nat.le_succ epoch, fun he => absurd he (Nat.succ_ne_self epoch)⟩, ?_⟩
    rw [hheld, nextEven_of_odd hparity, hword, ← UInt64.ofNat_one, ← UInt64.ofNat_add] at hnext
    exact hnext
  · rw [hrole] at hq
    cases p <;> cases hq
  · have hnext : (w.access a rest).mapping.word64 .sequence = w.mapping.word64 .sequence :=
      hpass.apply_word
    rw [sequenceBumps_of_passes hpass]
    refine ⟨⟨Nat.le_refl epoch, fun _ heven => ?_⟩, hnext.trans hword⟩
    apply apply_frameData
    intro hrole
    rw [hrole] at hq
    cases p <;> cases hq
    rw [hword, not_odd_of_even heven] at hparity
    cases hparity

end Data

section Reading
variable {m : Mapping} {phase next : ReadPhase} {data data' : FrameData}

/-- A read that loaded an even sequence which its caller did not have yet. -/
structure Opened (last before : UInt64) (since : Nat) : Prop where
  word : before = .ofNat since
  even : Even since
  fresh : before ≠ last

/-- What a read has loaded is in the mapping for as long as the epoch lasts. -/
def Reading (epoch : Nat) (data : FrameData) : ReadPhase → Prop
  | .loading last before since words rest => Opened last before since ∧
    Saw since (fun d => ∀ word, word.1 ∉ rest → words word.1 = d.1 word) epoch data
  | .copying last before since header bytes left => Opened last before since ∧
    Saw since (fun d => (∃ words, decodeHeader words = some header ∧
      ∀ word, words word.1 = d.1 word) ∧
      ∀ i < header.payloadBytes, i ∉ left → bytes i = d.2 i) epoch data
  | _ => True

theorem Reading.step (h : Reading epoch data phase) (hg : Guarded epoch data epoch' data') :
    Reading epoch' data' phase := by
  cases phase with
  | loading last before since words rest => exact ⟨h.1, h.2.step hg h.1.even⟩
  | copying last before since header bytes left => exact ⟨h.1, h.2.step hg h.1.even⟩
  | idle => trivial
  | checkMagic last => trivial
  | checkSchema last => trivial
  | checkCapacity last => trivial
  | loadSequence last => trivial

theorem checkHeader_continues (h : checkHeader holds last phase = .continues next) :
    next = phase := by
  unfold checkHeader at h
  split at h <;> cases h
  rfl

theorem Reading.load (h : Reading epoch (frameData m) phase)
    (hword : m.word64 .sequence = .ofNat epoch)
    (hstep : readStep m epoch phase = .continues next) : Reading epoch (frameData m) next := by
  cases phase with
  | idle => cases hstep; trivial
  | checkMagic last => rw [checkHeader_continues hstep]; trivial
  | checkSchema last => rw [checkHeader_continues hstep]; trivial
  | checkCapacity last => rw [checkHeader_continues hstep]; trivial
  | loadSequence last =>
    simp only [readStep] at hstep
    split_ifs at hstep with hfail
    cases hstep
    simp only [Bool.or_eq_true, beq_iff_eq, not_or, Bool.not_eq_true] at hfail
    obtain ⟨⟨-, heven⟩, hfresh⟩ := hfail
    rw [hword] at heven
    refine ⟨⟨hword, even_of_not_odd heven, hfresh⟩, Nat.le_refl epoch, ?_⟩
    intro _ word hnot
    exact absurd word.2 hnot
  | loading last before since words rest =>
    cases rest with
    | nil =>
      simp only [readStep] at hstep
      cases hdecode : decodeHeader words with
      | none =>
        rw [hdecode] at hstep
        cases hstep
      | some header =>
        rw [hdecode] at hstep
        cases hstep
        refine ⟨h.1, h.2.mono ?_⟩
        intro hseen
        refine ⟨⟨words, hdecode, fun word => hseen word (List.not_mem_nil)⟩, ?_⟩
        intro i hi hnot
        exact absurd (List.mem_range.2 hi) hnot
    | cons word rest =>
      simp only [readStep] at hstep
      split_ifs at hstep
      cases hstep
      refine ⟨h.1, h.2.mono ?_⟩
      intro hseen other hnot
      by_cases he : other.1 = word
      · rw [he, Function.update_self, ← he]
        rfl
      · rw [Function.update_of_ne he]
        exact hseen other (fun hmem => (List.mem_cons.1 hmem).elim he hnot)
  | copying last before since header bytes left =>
    cases left with
    | nil =>
      simp only [readStep] at hstep
      split_ifs at hstep
    | cons index left =>
      cases hstep
      exact h

theorem Reading.copy (h : Reading epoch (frameData m) phase) (index : Nat) :
    Reading epoch (frameData m) (copyByte m index phase) := by
  cases phase with
  | copying last before since header bytes left =>
    unfold copyByte
    dsimp only
    split_ifs with hmem
    · refine ⟨h.1, h.2.mono ?_⟩
      rintro ⟨hheader, hbytes⟩
      refine ⟨hheader, ?_⟩
      intro i hi hnot
      by_cases he : i = index
      · rw [he, Function.update_self]
        rfl
      · rw [Function.update_of_ne he]
        apply hbytes i hi
        intro hleft
        apply hnot
        simp [hleft, he]
    · exact h
  | idle => trivial
  | checkMagic last => trivial
  | checkSchema last => trivial
  | checkCapacity last => trivial
  | loadSequence last => trivial
  | loading last before since words rest => exact h

theorem decodeHeader_some (h : decodeHeader words = some header) :
    ∃ pixelCount, checkedPixelCount (words .width) (words .height) = .ok pixelCount ∧
      (words .payloadBytes).toNat = pixelCount * bytesPerPixel ∧
      FrameDisplayMode.fromRaw (words .displayMode) = some header.displayMode ∧
      FrameInputMode.fromRaw (words .inputMode) = some header.inputMode ∧
      header = {
        width := words .width
        height := words .height
        displayWidth := max (words displayWidthWord) (words .width)
        displayHeight := max (words displayHeightWord) (words .height)
        payloadBytes := (words .payloadBytes).toNat
        displayMode := header.displayMode
        inputMode := header.inputMode
        poiFilters := .fromBits (words .poiFilterBits)
        opacity := .ofBits (words .opacityBits)
        logicalVisible := words .logicalVisible != 0 } := by
  unfold decodeHeader at h
  simp only [Option.bind_eq_bind, Option.bind_eq_some_iff] at h
  obtain ⟨displayMode, hdisplay, inputMode, hinput, pixelCount, hcount, h⟩ := h
  split_ifs at h with hpayload
  rw [not_or, not_not] at hpayload
  cases h
  refine ⟨pixelCount, ?_, hpayload.1, hdisplay, hinput, rfl⟩
  cases hchecked : checkedPixelCount (words .width) (words .height) with
  | error error =>
    rw [hchecked] at hcount
    cases hcount
  | ok count =>
    rw [hchecked] at hcount
    cases hcount
    rfl

theorem checkedPixelCount_ok (h : checkedPixelCount width height = .ok pixelCount) :
    width ≠ 0 ∧ pixelCount = width.toNat * height.toNat := by
  unfold checkedPixelCount at h
  split_ifs at h with hzero
  cases h
  exact ⟨fun he => hzero (.inl he), rfl⟩

theorem holdsFrame_of_words (hdecode : decodeHeader words = some header)
    (hwords : ∀ word ∈ frameWords, words word = m.word32 word)
    (hbytes : ∀ i < header.payloadBytes, bytes i = m.payload i) :
    HoldsFrame m (header.frame (m.word64 .sequence) bytes) ∧ m.word32 .width ≠ 0 := by
  obtain ⟨pixelCount, hcount, hpayload, hdisplay, hinput, hheader⟩ := decodeHeader_some hdecode
  have hwidth := hwords .width (by decide)
  have hheight := hwords .height (by decide)
  obtain ⟨hzero, hpixels⟩ := checkedPixelCount_ok hcount
  rw [hwidth] at hzero
  refine ⟨?_, hzero⟩
  rw [hwords .displayMode (by decide)] at hdisplay
  rw [hwords .inputMode (by decide)] at hinput
  constructor
  case sequence => rfl
  case displayMode => exact hdisplay
  case inputMode => exact hinput
  case width =>
    rw [hheader]
    exact hwidth
  case height =>
    rw [hheader]
    exact hheight
  case displayWidth =>
    rw [hheader, ← hwidth, ← hwords displayWidthWord (by decide)]
    rfl
  case displayHeight =>
    rw [hheader, ← hheight, ← hwords displayHeightWord (by decide)]
    rfl
  case poiFilters =>
    rw [hheader, ← hwords .poiFilterBits (by decide)]
    rfl
  case opacity =>
    rw [hheader, ← hwords .opacityBits (by decide)]
    rfl
  case logicalVisible =>
    rw [hheader, ← hwords .logicalVisible (by decide)]
    rfl
  case length =>
    have hlength : (header.frame (m.word64 .sequence) bytes).rgba.length = header.payloadBytes := by
      simp [FrameHeader.frame]
    rw [hlength, hheader]
    change (words .payloadBytes).toNat = _
    rw [hpayload, hpixels]
    rfl
  case rgba =>
    intro i hi
    have hi' : i < header.payloadBytes := by
      simpa [FrameHeader.frame] using hi
    simp [FrameHeader.frame, hi', hbytes i hi']

theorem readStep_returns (h : readStep m epoch phase = .returns last (some frame)) :
    ∃ before since header bytes, phase = .copying last before since header bytes [] ∧
      before = m.word64 .sequence ∧ isOdd (m.word64 .sequence) = false ∧
      frame = header.frame (m.word64 .sequence) bytes := by
  cases phase with
  | idle => cases h
  | checkMagic last =>
    simp only [readStep, checkHeader] at h
    split_ifs at h
    cases h
  | checkSchema last =>
    simp only [readStep, checkHeader] at h
    split_ifs at h
    cases h
  | checkCapacity last =>
    simp only [readStep, checkHeader] at h
    split_ifs at h
    cases h
  | loadSequence last =>
    simp only [readStep] at h
    split_ifs at h
    cases h
  | loading last before since words rest =>
    cases rest with
    | nil =>
      simp only [readStep] at h
      split at h <;> cases h
    | cons word rest =>
      simp only [readStep] at h
      split_ifs at h
      cases h
  | copying last before since header bytes left =>
    cases left with
    | cons index left => cases h
    | nil =>
      simp only [readStep] at h
      split_ifs at h with hreject
      · cases h
      · simp only [Bool.or_eq_true, bne_iff_ne, not_or, not_not, Bool.not_eq_true] at hreject
        cases h
        exact ⟨before, since, header, bytes, rfl, hreject.1, hreject.2, rfl⟩

theorem Reading.accept (h : Reading epoch (frameData m) phase)
    (hword : m.word64 .sequence = .ofNat epoch)
    (hstep : readStep m epoch phase = .returns last (some frame))
    (hnear : epoch - phase.since < 2 ^ 64) :
    HoldsFrame m frame ∧ m.word32 .width ≠ 0 ∧ isOdd (m.word64 .sequence) = false ∧
      frame.sequence ≠ last := by
  obtain ⟨before, since, header, bytes, rfl, hsame, heven, rfl⟩ := readStep_returns hstep
  obtain ⟨hopened, hsaw⟩ := h
  have hnow : UInt64.ofNat since = .ofNat epoch := by
    rw [← hopened.word, hsame, hword]
  obtain ⟨-, ⟨words, hdecode, hwords⟩, hbytes⟩ := hsaw.accept hnow hnear
  obtain ⟨hholds, hwidth⟩ := holdsFrame_of_words hdecode
    (fun word hw => hwords ⟨word, hw⟩) (fun i hi => hbytes i hi List.not_mem_nil)
  refine ⟨hholds, hwidth, heven, ?_⟩
  intro he
  exact hopened.fresh (hsame.trans he)

end Reading

section Runs
variable {hypot : Float → Float → Float} {s : System} {w : Writer} {m : Mapping}
  {history : List SystemTransition}

/-- The accesses made and those left are the program of the operation in progress. -/
def Follows (hypot : Float → Float → Float) (w : Writer) : Prop :=
  match w.call with
  | none => w.done ++ w.rest = initializeHeader
  | some call => ∃ m, w.done ++ w.rest = (plan hypot m call).accesses ∧
    w.failure = (plan hypot m call).failure

theorem Follows.access (h : Follows hypot w) (hrest : w.rest = a :: rest) :
    Follows hypot (w.access a rest) := by
  have hsplit : (w.access a rest).done ++ (w.access a rest).rest = w.done ++ w.rest := by
    change w.done ++ [a] ++ rest = w.done ++ w.rest
    rw [hrest, List.append_assoc]
    rfl
  unfold Follows at h ⊢
  rw [hsplit]
  exact h

theorem rest_nil_of_last (h : done ++ a :: rest = body ++ [a]) (ha : a ∉ body) : rest = [] := by
  induction rest using List.reverseRecOn with
  | nil => rfl
  | append_singleton rest b _ =>
    have hsplit : (done ++ a :: rest) ++ [b] = body ++ [a] := by
      rw [← h]
      simp
    obtain ⟨hbody, -⟩ := List.append_inj' hsplit rfl
    rw [← hbody] at ha
    exact absurd (List.mem_append_right _ List.mem_cons_self) ha

theorem not_mem_frameStores (h : ∀ b ∈ body, FrameStore b) :
    .publish .sequence ∉ .fetchAdd .sequence :: body := by
  intro hmem
  rcases List.mem_cons.1 hmem with he | hbody
  · cases he
  · cases h _ hbody

theorem Follows.closes (h : Follows hypot w) (hrest : w.rest = .publish .sequence :: rest) :
    rest = [] ∧ (w.call = none ∨ w.failure = none ∧
      ((∃ width height metadata pixels now,
        w.call = some (.publishRgbU32WithControls width height metadata pixels now)) ∨
      ∃ visible now, w.call = some (.setLogicalVisible visible now))) := by
  unfold Follows at h
  rw [hrest] at h
  cases hcall : w.call with
  | none =>
    rw [hcall] at h
    have hlast : initializeHeader = initializeHeader.dropLast ++ [.publish .sequence] := by decide
    rw [hlast] at h
    exact ⟨rest_nil_of_last h (by decide), .inl rfl⟩
  | some call =>
    rw [hcall] at h
    obtain ⟨m, hsplit, hfailure⟩ := h
    cases call with
    | publishRgbU32WithControls width height metadata pixels now =>
      rw [plan] at hsplit hfailure
      rcases publishRgbU32_cases hypot width height metadata pixels now with ⟨error, he⟩ | he
      · rw [he] at hsplit
        simp at hsplit
      · rw [he] at hsplit hfailure
        refine ⟨rest_nil_of_last hsplit (not_mem_frameStores fun b hb => frameStores_mem hb), ?_⟩
        exact .inr ⟨hfailure, .inl ⟨_, _, _, _, _, rfl⟩⟩
    | setLogicalVisible visible now =>
      rw [plan] at hsplit hfailure
      rcases setLogicalVisible_cases m visible now with he | he
      · rw [he] at hsplit
        dsimp only at hsplit
        have hmem : Access.publish .sequence ∈ [Access.store64 .writerHeartbeatMs now] := by
          rw [← hsplit]
          exact List.mem_append_right _ List.mem_cons_self
        simp at hmem
      · rw [he] at hsplit hfailure
        refine ⟨rest_nil_of_last hsplit (not_mem_frameStores fun b hb => visibleStores_mem hb), ?_⟩
        exact .inr ⟨hfailure, .inr ⟨_, _, rfl⟩⟩
    | publishSearchCatalog entries =>
      have hmem : Access.publish .sequence ∈ (publishSearchCatalog entries).accesses := by
        rw [plan] at hsplit
        rw [← hsplit]
        exact List.mem_append_right _ List.mem_cons_self
      cases publishSearchCatalog_mem hmem

def Zeroed (w : Writer) : Prop :=
  w.call = none → .store32 .width 0 ∈ w.done → w.mapping.word32 .width = 0

def keepsWidth : Access → Bool
  | .store32 word _ => word != .width
  | _ => true

theorem apply_width (held : Word64 → UInt64) (h : keepsWidth a = true) :
    (a.apply m held).word32 .width = m.word32 .width := by
  cases a with
  | store32 word value =>
    have hne : word ≠ .width := by
      simpa [keepsWidth] using h
    exact Function.update_of_ne hne.symm _ _
  | fetchAdd word => rfl
  | load word => rfl
  | publish word => rfl
  | store64 word value => rfl
  | storePayload index value => rfl
  | storeSearch index store => rfl

theorem initializeHeader_width :
    ∀ a ∈ initializeHeader, a = .store32 .width 0 ∨ keepsWidth a = true := by
  decide

theorem Zeroed.access (h : Zeroed w) (hfollows : Follows hypot w) (hrest : w.rest = a :: rest) :
    Zeroed (w.access a rest) := by
  intro hcall hmem
  unfold Follows at hfollows
  change w.call = none at hcall
  rw [hcall, hrest] at hfollows
  have ha : a ∈ initializeHeader := by
    rw [← hfollows]
    exact List.mem_append_right _ List.mem_cons_self
  rcases initializeHeader_width a ha with rfl | hkeeps
  · rfl
  · have hdone : .store32 .width 0 ∈ w.done := by
      rcases List.mem_append.1 hmem with hdone | hlast
      · exact hdone
      · rw [← List.mem_singleton.1 hlast] at hkeeps
        cases hkeeps
    exact (apply_width w.held hkeeps).trans (h hcall hdone)

/-- The mapping holds no frame, or the frame that a call of the history completed. -/
def Settled (m : Mapping) (history : List SystemTransition) : Prop :=
  m.word32 .width = 0 ∨ ∃ t ∈ history, Completes t (m.word64 .sequence) ∧
    frameData t.post.writer.mapping = frameData m ∧
    t.post.writer.mapping.word64 .sequence = m.word64 .sequence

theorem Settled.of_eq (h : Settled m history) (hdata : frameData m' = frameData m)
    (hword : m'.word64 .sequence = m.word64 .sequence) (later : List SystemTransition) :
    Settled m' (history ++ later) := by
  rcases h with hzero | ⟨t, ht, hcompletes, hpost, hsequence⟩
  · left
    rw [frameData_word hdata (by decide)]
    exact hzero
  · right
    rw [hword, hdata]
    exact ⟨t, List.mem_append_left _ ht, hcompletes, hpost, hsequence⟩

/-- What the writer has done to the sequence, to the frame and to the words of a new header. -/
structure Writing (hypot : Float → Float → Float) (w : Writer) (epoch : Nat) : Prop where
  frame : Bracketed .frame w
  counted : w.mapping.word64 .sequence = .ofNat epoch
  follows : Follows hypot w
  zeroed : Zeroed w

structure Sound (hypot : Float → Float → Float) (s : System) (history : List SystemTransition) :
    Prop where
  writing : Writing hypot s.writer s.epoch
  settled : isOdd (s.writer.mapping.word64 .sequence) = false → Settled s.writer.mapping history
  readers : ∀ reader, Reading s.epoch (frameData s.writer.mapping) (s.readers reader)

theorem Sound.start (hypot : Float → Float → Float) : Sound hypot .start [] where
  writing := ⟨.createOrOpen _ rfl, rfl, rfl, fun _ h => nomatch h⟩
  settled _ := .inl rfl
  readers _ := trivial

theorem Sound.setReader (h : Sound hypot s history)
    (hphase : Reading s.epoch (frameData s.writer.mapping) phase) (later : List SystemTransition) :
    Sound hypot (s.setReader reader phase) (history ++ later) := by
  refine ⟨h.writing, fun heven => (h.settled heven).of_eq rfl rfl later, ?_⟩
  intro other
  by_cases he : other = reader
  · rw [he]
    change Reading _ _ (Function.update s.readers reader phase reader)
    rw [Function.update_self]
    exact hphase
  · change Reading _ _ (Function.update s.readers reader phase other)
    rw [Function.update_of_ne he]
    exact h.readers other

theorem Writing.remap (h : Writing hypot w epoch) (hdata : frameData m = frameData w.mapping)
    (hword : m.word64 .sequence = w.mapping.word64 .sequence) :
    Writing hypot { w with mapping := m } epoch := by
  refine ⟨?_, hword.trans h.counted, h.follows, ?_⟩
  · obtain ⟨p, hp⟩ := h.frame
    refine ⟨p, hp.reached, hp.ends, ?_, ?_⟩
    · change isOdd (m.word64 .sequence) = _
      rw [hword]
      exact hp.parity
    · intro hinside
      exact (hp.keeps hinside).trans hword.symm
  · intro hcall hmem
    change m.word32 .width = 0
    rw [frameData_word hdata (by decide)]
    exact h.zeroed hcall hmem

theorem Sound.remap (h : Sound hypot s history) (hdata : frameData m = frameData s.writer.mapping)
    (hword : m.word64 .sequence = s.writer.mapping.word64 .sequence)
    (later : List SystemTransition) :
    Sound hypot { s with writer := { s.writer with mapping := m } } (history ++ later) := by
  refine ⟨h.writing.remap hdata hword, ?_, ?_⟩
  · intro heven
    change isOdd (m.word64 .sequence) = false at heven
    rw [hword] at heven
    exact (h.settled heven).of_eq hdata hword later
  · intro reader
    change Reading s.epoch (frameData m) (s.readers reader)
    rw [hdata]
    exact h.readers reader

theorem Writing.begin (h : Writing hypot w epoch) (hrest : w.rest = []) (call : Call) :
    Writing hypot (w.begin call (plan hypot w.mapping call)) epoch where
  frame := .begin call (h.frame.idle hrest) (plan_sectioned_frame hypot w.mapping call)
  counted := h.counted
  follows := ⟨w.mapping, rfl, rfl⟩
  zeroed := fun he => nomatch he

theorem Writing.createOrOpen (h : Writing hypot w epoch) (hrest : w.rest = []) :
    Writing hypot (.createOrOpen w.mapping w.held) epoch where
  frame := .createOrOpen w.held (h.frame.idle hrest)
  counted := h.counted
  follows := rfl
  zeroed := fun _ he => nomatch he

theorem Writing.access (h : Writing hypot w epoch) (hrest : w.rest = a :: rest) :
    Writing hypot (w.access a rest) (epoch + sequenceBumps a) := by
  obtain ⟨p, hp⟩ := h.frame
  obtain ⟨q, hq, hnext⟩ := hp.access hrest
  exact ⟨⟨q, hnext⟩, (hp.guarded hq rest h.counted).2, h.follows.access hrest,
    h.zeroed.access h.follows hrest⟩

theorem Writing.closes (h : Writing hypot s.writer s.epoch)
    (hrest : s.writer.rest = .publish .sequence :: rest) :
    Settled (s.writer.access (.publish .sequence) rest).mapping
      (history ++ [transition (System.step hypot) s (.writer .advance)]) := by
  obtain ⟨rfl, hcall⟩ := h.follows.closes hrest
  have hpost : (System.step hypot s (.writer .advance)).2.writer =
      s.writer.access (.publish .sequence) [] := by
    simp [System.step, Writer.step, hrest]
  have houtput : (System.step hypot s (.writer .advance)).1 =
      (s.writer.access (.publish .sequence) []).returned.map .returned := by
    simp [System.step, Writer.step, hrest]
  have hmem : transition (System.step hypot) s (.writer .advance) ∈
      history ++ [transition (System.step hypot) s (.writer .advance)] :=
    List.mem_append_right _ (List.mem_singleton.2 rfl)
  rcases hcall with hnone | ⟨hfailure, ⟨width, height, metadata, pixels, now, hcall⟩ |
    ⟨visible, now, hcall⟩⟩
  · left
    have hfollows := h.follows
    unfold Follows at hfollows
    rw [hnone, hrest] at hfollows
    apply h.zeroed hnone
    have hdone : s.writer.done = initializeHeader.dropLast := by
      rw [← hfollows, List.dropLast_concat]
    rw [hdone]
    decide
  · right
    refine ⟨_, hmem, .inl ?_, ?_, ?_⟩
    · change (System.step hypot s (.writer .advance)).1 = _
      rw [houtput]
      simp [Writer.returned, Writer.access, hcall, hfailure]
      rfl
    · exact congrArg (fun w => frameData w.mapping) hpost
    · exact congrArg (fun w => w.mapping.word64 .sequence) hpost
  · right
    have hword : (transition (System.step hypot) s (.writer .advance)).post.writer.mapping.word64
        .sequence = (s.writer.access (.publish .sequence) []).mapping.word64 .sequence :=
      congrArg (fun w => w.mapping.word64 .sequence) hpost
    refine ⟨_, hmem, .inr ⟨?_, hrest, hword⟩, ?_, hword⟩
    · change (System.step hypot s (.writer .advance)).1 = _
      rw [houtput]
      simp [Writer.returned, Writer.access, hcall, hfailure]
    · exact congrArg (fun w => frameData w.mapping) hpost

theorem Sound.access (h : Sound hypot s history) (hrest : s.writer.rest = a :: rest) :
    Sound hypot { s with writer := s.writer.access a rest, epoch := s.epoch + sequenceBumps a }
      (history ++ [transition (System.step hypot) s (.writer .advance)]) := by
  obtain ⟨p, hp⟩ := h.writing.frame
  obtain ⟨q, hq, hnext⟩ := hp.access hrest
  obtain ⟨hguarded, -⟩ := hp.guarded hq rest h.writing.counted
  refine ⟨h.writing.access hrest, ?_, fun reader => (h.readers reader).step hguarded⟩
  intro heven
  change isOdd ((s.writer.access a rest).mapping.word64 Lock.frame.word) = false at heven
  rw [hnext.parity, decide_eq_false_iff_not] at heven
  rcases role_cases .frame a with ⟨hrole, -⟩ | ⟨-, rfl⟩ | ⟨hrole, -⟩ | hpass
  · rw [hrole] at hq
    cases p <;> cases hq
    exact absurd rfl heven
  · exact h.writing.closes hrest
  · rw [hrole] at hq
    cases p <;> cases hq
  · have hsame : q = p := by
      rcases hpass with hrole | hrole <;> rw [hrole] at hq <;> cases p <;> cases hq <;> rfl
    have hquiet : Lock.frame.role a ≠ .modifies := by
      intro hrole
      rw [hrole] at hq
      cases p <;> cases hq
      exact heven rfl
    have hbefore : isOdd (s.writer.mapping.word64 .sequence) = false := by
      rw [hsame] at heven
      exact hp.parity.trans (decide_eq_false heven)
    have hword : (s.writer.access a rest).mapping.word64 .sequence =
        s.writer.mapping.word64 .sequence := hpass.apply_word
    exact (h.settled hbefore).of_eq (apply_frameData s.writer.held hquiet) hword _

theorem Sound.writer (h : Sound hypot s history) (op : WriterOp) :
    Sound hypot (System.step hypot s (.writer op)).2
      (history ++ [transition (System.step hypot) s (.writer op)]) := by
  have hstay : Sound hypot s (history ++ [transition (System.step hypot) s (.writer op)]) :=
    ⟨h.writing, fun heven => (h.settled heven).of_eq rfl rfl _, h.readers⟩
  cases op with
  | call call =>
    by_cases hrest : s.writer.rest = []
    · have hpost : (System.step hypot s (.writer (.call call))).2 =
          { s with writer := s.writer.begin call (plan hypot s.writer.mapping call) } := by
        simp [System.step, Writer.step, System.bumps, hrest]
      rw [hpost]
      exact ⟨h.writing.begin hrest call, hstay.settled, h.readers⟩
    · have hpost : (System.step hypot s (.writer (.call call))).2 = s := by
        simp [System.step, Writer.step, System.bumps, hrest]
      rw [hpost]
      exact hstay
  | advance =>
    cases hrest : s.writer.rest with
    | nil =>
      have hpost : (System.step hypot s (.writer .advance)).2 = s := by
        simp [System.step, Writer.step, System.bumps, hrest]
      rw [hpost]
      exact hstay
    | cons a rest =>
      have hpost : (System.step hypot s (.writer .advance)).2 =
          { s with writer := s.writer.access a rest, epoch := s.epoch + sequenceBumps a } := by
        simp [System.step, Writer.step, System.bumps, hrest]
      rw [hpost]
      exact h.access hrest
  | restart =>
    by_cases hrest : s.writer.rest = []
    · have hpost : (System.step hypot s (.writer .restart)).2 =
          { s with writer := .createOrOpen s.writer.mapping s.writer.held } := by
        simp [System.step, Writer.step, System.bumps, hrest]
      rw [hpost]
      exact ⟨h.writing.createOrOpen hrest, hstay.settled, h.readers⟩
    · have hpost : (System.step hypot s (.writer .restart)).2 = s := by
        simp [System.step, hrest]
      rw [hpost]
      exact hstay

theorem consumerWords_not_frame : ∀ word ∈ consumerWords, word ∉ frameWords := by
  decide

theorem Sound.step (h : Sound hypot s history) (op : SystemOp) :
    Sound hypot (System.step hypot s op).2 (history ++ [transition (System.step hypot) s op]) := by
  have hstay : Sound hypot s (history ++ [transition (System.step hypot) s op]) :=
    ⟨h.writing, fun heven => (h.settled heven).of_eq rfl rfl _, h.readers⟩
  cases op with
  | writer op => exact h.writer op
  | read reader last =>
    simp only [System.step]
    split
    · have hphase : Reading s.epoch (frameData s.writer.mapping) (.checkMagic last) := trivial
      exact h.setReader hphase _
    · exact hstay
  | load reader =>
    simp only [System.step]
    split
    · next phase hphase =>
      exact h.setReader ((h.readers reader).load h.writing.counted hphase) _
    · have hphase : Reading s.epoch (frameData s.writer.mapping) .idle := trivial
      exact h.setReader hphase _
  | copy reader index => exact h.setReader ((h.readers reader).copy index) _
  | storeConsumer word value =>
    simp only [System.step]
    split_ifs with hword
    · exact h.remap (frameData_update _ value (consumerWords_not_frame word hword)) rfl _
    · exact hstay
  | storeHeartbeat value =>
    have hdata : frameData { s.writer.mapping with
        word64 := Function.update s.writer.mapping.word64 .consumerHeartbeatMs value } =
          frameData s.writer.mapping := rfl
    exact h.remap hdata rfl _

theorem run_sound (hypot : Float → Float → Float) (ops : List SystemOp) :
    Sound hypot (run (System.step hypot) .start ops) (trace (System.step hypot) .start ops) :=
  trace_invariant (I := Sound hypot) (.start hypot) (fun _ _ op h => h.step op) ops

theorem step_frame
    (h : (System.step hypot s op).1 = some (.frame reader last (some frame))) :
    op = .load reader ∧
      readStep s.writer.mapping s.epoch (s.readers reader) = .returns last (some frame) := by
  cases op with
  | writer op =>
    simp only [System.step] at h
    split_ifs at h
    cases houtput : (s.writer.step hypot op).1 <;> simp [houtput] at h
  | read other last' =>
    simp only [System.step] at h
    split at h <;> cases h
  | load other =>
    simp only [System.step] at h
    split at h
    · cases h
    · next hphase =>
      cases h
      exact ⟨rfl, hphase⟩
  | copy other index => cases h
  | storeConsumer word value =>
    simp only [System.step] at h
    split_ifs at h
  | storeHeartbeat value => cases h

theorem HoldsFrame.of_eq (h : HoldsFrame m f) (hdata : frameData m' = frameData m)
    (hword : m'.word64 .sequence = m.word64 .sequence) : HoldsFrame m' f := by
  have hwords : ∀ word ∈ frameWords, m'.word32 word = m.word32 word :=
    fun word hw => frameData_word hdata hw
  have hpayload : m'.payload = m.payload := congrArg Prod.snd hdata
  constructor
  case sequence => exact h.sequence.trans hword.symm
  case width => exact h.width.trans (hwords .width (by decide)).symm
  case height => exact h.height.trans (hwords .height (by decide)).symm
  case displayWidth =>
    rw [hwords displayWidthWord (by decide), hwords .width (by decide)]
    exact h.displayWidth
  case displayHeight =>
    rw [hwords displayHeightWord (by decide), hwords .height (by decide)]
    exact h.displayHeight
  case displayMode =>
    rw [hwords .displayMode (by decide)]
    exact h.displayMode
  case inputMode =>
    rw [hwords .inputMode (by decide)]
    exact h.inputMode
  case poiFilters =>
    rw [hwords .poiFilterBits (by decide)]
    exact h.poiFilters
  case opacity =>
    rw [hwords .opacityBits (by decide)]
    exact h.opacity
  case logicalVisible =>
    rw [hwords .logicalVisible (by decide)]
    exact h.logicalVisible
  case length => exact h.length
  case rgba =>
    rw [hpayload]
    exact h.rgba

/-- Every frame a reader returns is the one that a completed call left in the mapping. -/
theorem read_latest_returns_one_publication (hypot : Float → Float → Float)
    (ops : List SystemOp) (op : SystemOp)
    (hreturn : (System.step hypot (run (System.step hypot) .start ops) op).1 =
      some (.frame reader last (some frame)))
    (hnear : (run (System.step hypot) .start ops).epoch -
      ((run (System.step hypot) .start ops).readers reader).since < 2 ^ 64) :
    (∃ t ∈ trace (System.step hypot) .start ops, Completes t frame.sequence ∧
      HoldsFrame t.post.writer.mapping frame) ∧ frame.sequence ≠ last := by
  have hsound := run_sound hypot ops
  generalize run (System.step hypot) .start ops = s at hreturn hnear hsound
  obtain ⟨rfl, hstep⟩ := step_frame hreturn
  obtain ⟨hholds, hwidth, heven, hfresh⟩ :=
    (hsound.readers reader).accept hsound.writing.counted hstep hnear
  refine ⟨?_, hfresh⟩
  rcases hsound.settled heven with hzero | ⟨t, ht, hcompletes, hdata, hword⟩
  · exact absurd hzero hwidth
  · rw [← hholds.sequence] at hcompletes
    exact ⟨t, ht, hcompletes, hholds.of_eq hdata hword⟩

/-- A frame is published while one reader looks, and the next reader copies it while the writer
goes on. -/
def overlappingRun : List SystemOp :=
  List.flatten [List.replicate initializeHeader.length (.writer .advance),
    [.writer (.call exampleFrame)], List.replicate 9 (.writer .advance),
    [.read 0 0], List.replicate 4 (.load 0), List.replicate 8 (.writer .advance),
    [.read 1 0], List.replicate 5 (.load 1),
    [.writer (.call (.setLogicalVisible true 1700000000001)), .writer .advance],
    List.replicate 10 (.load 1), [.copy 1 2, .copy 1 0, .copy 1 3, .copy 1 1]]

def overlappingFrame : FullscreenFrame :=
  ⟨4, 1, 1, 1, 1, .expandedMap, .locked, {}, 0.9, true, [0x11, 0x22, 0x33, 255]⟩

theorem read_latest_returns_one_publication_overlapping :
    (System.step exampleHypot (run (System.step exampleHypot) .start overlappingRun) (.load 1)).1 =
      some (.frame 1 0 (some overlappingFrame)) ∧
    (∃ t ∈ trace (System.step exampleHypot) .start overlappingRun,
      Completes t overlappingFrame.sequence ∧ HoldsFrame t.post.writer.mapping overlappingFrame) ∧
    overlappingFrame.sequence ≠ 0 := by
  have hreturn : (System.step exampleHypot
      (run (System.step exampleHypot) .start overlappingRun) (.load 1)).1 =
        some (.frame 1 0 (some overlappingFrame)) := by
    decide +kernel
  have hnear : (run (System.step exampleHypot) .start overlappingRun).epoch -
      ((run (System.step exampleHypot) .start overlappingRun).readers 1).since < 2 ^ 64 := by
    decide +kernel
  exact ⟨hreturn, read_latest_returns_one_publication exampleHypot overlappingRun (.load 1)
    hreturn hnear⟩

end Runs

end PalBeacon.Bridge
