import PalBeacon.Ipc.FramedStream
import PalBeacon.Lib.Framing

namespace PalBeacon.Ipc
open PalBeacon.Lib PalBeacon.Protocol
set_option autoImplicit true

def cutFrame (bytes : List UInt8) : Option (List UInt8) :=
  if 4 ≤ bytes.length ∧ bytes.length = (⟨bytes, [], 0⟩ : FramedStream).declaredLen + 4 then
    some (bytes.drop 4)
  else none

namespace FramedStream

/-- The frame in the buffer has a length that is not known yet, or a valid one and bytes to come. -/
def Incomplete (s : FramedStream) : Prop :=
  s.buffer.length < 4 ∨
    0 < s.declaredLen ∧ s.declaredLen ≤ maxPayloadLen ∧ s.buffer.length < s.declaredLen + 4

structure Valid (s : FramedStream) : Prop where
  queued : s.queuedBytes = (s.completed.map List.length).sum
  limits : WithinLimits s.completed
  nonempty : ∀ payload ∈ s.completed, payload ≠ []
  incomplete : s.Incomplete

def fillHeader (s : FramedStream) (input : List UInt8) : FramedStream :=
  if s.buffer.length < 4 then s.extend (input.take (min (4 - s.buffer.length) input.length)) else s

/-- The frame that a pass works on is not shorter than the bytes it has of it. -/
def NoUnderflow (s : FramedStream) (input : List UInt8) : Prop :=
  4 ≤ (s.fillHeader input).buffer.length →
    (s.fillHeader input).buffer.length ≤ (s.fillHeader input).declaredLen + 4

/-- The loop of `push` as it runs, without a bound on its passes. -/
inductive Pushes : FramedStream → List UInt8 → Except StreamError Unit × FramedStream → Prop where
  | done (hv : s.Valid) : Pushes s [] (.ok (), s)
  | returned (hv : s.Valid) (hi : input ≠ []) (hn : s.NoUnderflow input)
      (h : s.pass input = .returned result s') (hv' : s'.Valid) : Pushes s input (result, s')
  | next (hv : s.Valid) (hi : input ≠ []) (hn : s.NoUnderflow input)
      (h : s.pass input = .next s' rest) (hp : Pushes s' rest out) : Pushes s input out

def after (s : FramedStream) : List (Traffic UInt8) → FramedStream
  | [] => s
  | .push input :: traffic => (s.push input).2.after traffic
  | .take :: traffic => s.nextPayload.2.after traffic

/-- What traffic takes from the stream, when all its pushes succeed. -/
def execute (s : FramedStream) :
    List (Traffic UInt8) → Except StreamError (List (Option (List UInt8)) × FramedStream)
  | [] => .ok ([], s)
  | .push input :: traffic =>
    match s.push input with
    | (.error error, _) => .error error
    | (.ok (), s) => s.execute traffic
  | .take :: traffic => do
    let (taken, last) ← s.nextPayload.2.execute traffic
    return (s.nextPayload.1 :: taken, last)

variable {s : FramedStream}

theorem declaredLen_extend (hlen : 4 ≤ s.buffer.length) (bytes : List UInt8) :
    (s.extend bytes).declaredLen = s.declaredLen := by
  have hat : ∀ i < 4, (s.buffer ++ bytes).getD i 0 = s.buffer.getD i 0 := by
    intro i hi
    rw [List.getD_append _ _ _ _ (by omega)]
  unfold declaredLen extend
  rw [hat 0 (by omega), hat 1 (by omega), hat 2 (by omega), hat 3 (by omega)]

theorem take_min_length (n : Nat) (input : List α) :
    input.take (min n input.length) = input.take n := by
  rcases Nat.le_total n input.length with hn | hn
  · rw [Nat.min_eq_left hn]
  · rw [Nat.min_eq_right hn, List.take_length, List.take_of_length_le hn]

theorem drop_min_length (n : Nat) (input : List α) :
    input.drop (min n input.length) = input.drop n := by
  rcases Nat.le_total n input.length with hn | hn
  · rw [Nat.min_eq_left hn]
  · rw [Nat.min_eq_right hn, List.drop_length, List.drop_eq_nil_of_le hn]

theorem cutFrame_header (h : bytes.length < 4) : cutFrame bytes = none :=
  if_neg fun hc => absurd hc.1 (Nat.not_le.2 h)

theorem cutFrame_extend (hlen : 4 ≤ s.buffer.length) (bytes : List UInt8) :
    cutFrame (s.buffer ++ bytes) =
      if s.buffer.length + bytes.length = s.declaredLen + 4 then
        some ((s.buffer ++ bytes).drop 4)
      else none := by
  have hdeclared : (⟨s.buffer ++ bytes, [], 0⟩ : FramedStream).declaredLen = s.declaredLen :=
    declaredLen_extend hlen bytes
  unfold cutFrame
  rw [hdeclared, List.length_append]
  simp only [show 4 ≤ s.buffer.length + bytes.length from by omega, true_and]

theorem Valid.clear (h : Valid s) : Valid s.clear :=
  ⟨h.queued, h.limits, h.nonempty, .inl (Nat.succ_pos 3)⟩

theorem Valid.complete (h : Valid s) (hne : payload ≠ []) (hfull : ¬s.Full payload.length) :
    Valid ⟨[], s.completed ++ [payload], s.queuedBytes + payload.length⟩ := by
  have hlimits := not_not.1 (mt (full_iff h.queued h.limits payload).2 hfull)
  refine ⟨?_, hlimits, ?_, .inl (Nat.succ_pos 3)⟩
  · simp only [h.queued, List.map_append, List.sum_append, List.map_singleton, List.sum_singleton]
  · intro p hp
    rcases List.mem_append.1 hp with hp | hp
    · exact h.nonempty p hp
    · exact List.mem_singleton.1 hp ▸ hne

/-- A pass, or its second half, when it goes on after `n` bytes of the input. -/
structure Advanced (s : FramedStream) (input : List UInt8) (n : Nat) (s' : FramedStream) :
    Prop where
  valid : s'.Valid
  completed : s'.completed = s.completed ++ (feedAll cutFrame s.buffer (input.take n)).1
  buffer : s'.buffer = (feedAll cutFrame s.buffer (input.take n)).2

theorem Valid.pushBody_cases (h : Valid s) (hlen : 4 ≤ s.buffer.length)
    (hshort : s.buffer.length < s.declaredLen + 4) (input : List UInt8) :
    s.pushBody input = .returned (.error .queueFull)
        (s.extend (input.take (s.declaredLen + 4 - s.buffer.length))).clear ∨
    ∃ s', s.pushBody input =
        .next s' (input.drop (s.declaredLen + 4 - s.buffer.length)) ∧
      Advanced s input (s.declaredLen + 4 - s.buffer.length) s' := by
  obtain hlt | ⟨hpos, hmax, -⟩ := h.incomplete
  · omega
  unfold pushBody
  dsimp only
  rw [take_min_length, drop_min_length]
  generalize hneed : s.declaredLen + 4 - s.buffer.length = needed
  have htake : (input.take needed).length = min needed input.length := List.length_take
  have hbuffer : (s.extend (input.take needed)).buffer = s.buffer ++ input.take needed := rfl
  have hbefore : ∀ n, n < needed → cutFrame (s.buffer ++ (input.take needed).take n) = none := by
    intro n hn
    rw [cutFrame_extend hlen, if_neg]
    rw [List.length_take]
    omega
  rw [hbuffer, List.length_append]
  split
  · next hc =>
    have hframe := cutFrame_extend hlen (input.take needed)
    rw [if_pos hc] at hframe
    have hfeed : feedAll cutFrame s.buffer (input.take needed) =
        ([(s.buffer ++ input.take needed).drop 4], []) := by
      apply feedAll_frame
      · intro hnil
        rw [hnil, List.length_nil] at hc
        omega
      · intro n _ hn
        apply hbefore
        omega
      · exact hframe
    have hpayload : ((s.buffer ++ input.take needed).drop 4).length = s.declaredLen := by
      rw [List.length_drop, List.length_append]
      omega
    split
    · exact .inl rfl
    next hfull =>
    refine .inr ⟨_, rfl, ?_, ?_, ?_⟩
    · apply Valid.complete h
      · intro hnil
        rw [hnil, List.length_nil] at hpayload
        omega
      · rw [hpayload]
        exact hfull
    · rw [hfeed]
      rfl
    · rw [hfeed]
  · next hc =>
    have hfeed : feedAll cutFrame s.buffer (input.take needed) =
        ([], s.buffer ++ input.take needed) := by
      apply feedAll_short
      intro n hn hle
      rw [cutFrame_extend hlen, if_neg]
      rw [List.length_take]
      omega
    refine .inr ⟨_, rfl, ⟨h.queued, h.limits, h.nonempty, .inr ?_⟩, ?_, ?_⟩
    · rw [declaredLen_extend hlen, hbuffer, List.length_append]
      exact ⟨hpos, hmax, by omega⟩
    · rw [hfeed, List.append_nil]
      rfl
    · rw [hfeed]
      rfl

theorem Valid.header (h : Valid s) (hlt : s.buffer.length < 4)
    (hlen : (s.extend (input.take (4 - s.buffer.length))).buffer.length = 4)
    (hpos : 0 < (s.extend (input.take (4 - s.buffer.length))).declaredLen)
    (hmax : (s.extend (input.take (4 - s.buffer.length))).declaredLen ≤ maxPayloadLen) :
    Advanced s input (4 - s.buffer.length) (s.extend (input.take (4 - s.buffer.length))) := by
  have hfeed : feedAll cutFrame s.buffer (input.take (4 - s.buffer.length)) =
      ([], s.buffer ++ input.take (4 - s.buffer.length)) := by
    apply feedAll_short
    intro n hn hle
    rw [List.length_take] at hle
    rw [List.take_take, Nat.min_eq_left (by omega)]
    rcases Nat.lt_or_eq_of_le (show n ≤ 4 - s.buffer.length by omega) with hshort | rfl
    · apply cutFrame_header
      rw [List.length_append, List.length_take]
      omega
    · have hc := cutFrame_extend (Nat.le_of_eq hlen.symm) []
      rw [List.append_nil, List.length_nil, if_neg (by omega)] at hc
      exact hc
  refine ⟨⟨h.queued, h.limits, h.nonempty, .inr ⟨hpos, hmax, by omega⟩⟩, ?_, ?_⟩
  · rw [hfeed, List.append_nil]
    rfl
  · rw [hfeed]
    rfl

theorem Advanced.trans (h : Advanced s input m s₁) (h' : Advanced s₁ (input.drop m) n s₂) :
    Advanced s input (m + n) s₂ := by
  refine ⟨h'.valid, ?_, ?_⟩
  · rw [h'.completed, h.completed, h.buffer, List.take_add, feedAll_append, List.append_assoc]
  · rw [h'.buffer, h.buffer, List.take_add, feedAll_append]

theorem Valid.short (h : Valid s) (hlt : s.buffer.length + input.length < 4) :
    Advanced s input input.length (s.extend input) := by
  have hfeed : feedAll cutFrame s.buffer (input.take input.length) = ([], s.buffer ++ input) := by
    rw [List.take_length]
    apply feedAll_short
    intro n _ _
    apply cutFrame_header
    rw [List.length_append, List.length_take]
    omega
  refine ⟨⟨h.queued, h.limits, h.nonempty, .inl ?_⟩, ?_, ?_⟩
  · unfold extend
    rw [List.length_append]
    exact hlt
  · rw [hfeed, List.append_nil]
    rfl
  · rw [hfeed]
    rfl

theorem validateDeclaredLen_cases (s : FramedStream) :
    (∃ e, s.validateDeclaredLen = (.error e, s.clear)) ∨
    0 < s.declaredLen ∧ s.declaredLen ≤ maxPayloadLen ∧ s.validateDeclaredLen = (.ok (), s) := by
  unfold validateDeclaredLen
  split
  · exact .inl ⟨_, rfl⟩
  split
  · exact .inl ⟨_, rfl⟩
  next hne hle => exact .inr ⟨Nat.pos_of_ne_zero hne, Nat.not_lt.1 hle, rfl⟩

theorem Valid.pass_cases (h : Valid s) (hi : input ≠ []) :
    (∃ e s', s.pass input = .returned (.error e) s' ∧ s'.Valid) ∨
    (s.pass input = .returned (.ok ()) (s.extend input) ∧
      Advanced s input input.length (s.extend input)) ∨
    ∃ n s', 0 < n ∧ s.pass input = .next s' (input.drop n) ∧ Advanced s input n s' := by
  have hlength := List.length_pos_iff.2 hi
  by_cases hlt : s.buffer.length < 4
  · have hbuffer : (s.extend (input.take (4 - s.buffer.length))).buffer.length =
        s.buffer.length + min (4 - s.buffer.length) input.length := by
      unfold extend
      rw [List.length_append, List.length_take]
    generalize hp : s.pass input = p
    unfold pass at hp
    rw [if_pos hlt] at hp
    dsimp only at hp
    rw [take_min_length, drop_min_length] at hp
    split at hp
    · have hsmall : s.buffer.length + input.length < 4 := by omega
      rw [List.take_of_length_le (by omega)] at hp
      exact .inr (.inl ⟨hp.symm, h.short hsmall⟩)
    next hlarge =>
    have hlen : (s.extend (input.take (4 - s.buffer.length))).buffer.length = 4 := by omega
    obtain ⟨e, hv⟩ | ⟨hpos, hmax, hv⟩ :=
      validateDeclaredLen_cases (s.extend (input.take (4 - s.buffer.length)))
    · rw [hv] at hp
      exact .inl ⟨e, _, hp.symm, h.clear⟩
    rw [hv] at hp
    have hadv := h.header hlt hlen hpos hmax
    obtain he | ⟨s', he, hbody⟩ := hadv.valid.pushBody_cases (Nat.le_of_eq hlen.symm)
      (by omega) (input.drop (4 - s.buffer.length))
    · exact .inl ⟨_, _, hp.symm.trans he, h.clear⟩
    · rw [List.drop_drop] at he
      exact .inr (.inr ⟨_, s', by omega, hp.symm.trans he, hadv.trans hbody⟩)
  · obtain hl | ⟨-, -, hshort⟩ := h.incomplete
    · exact absurd hl hlt
    have hpass : s.pass input = s.pushBody input := if_neg hlt
    rw [hpass]
    obtain he | ⟨s', he, hadv⟩ := h.pushBody_cases (Nat.not_lt.1 hlt) hshort input
    · exact .inl ⟨_, _, he, h.clear⟩
    · exact .inr (.inr ⟨_, s', by omega, he, hadv⟩)

theorem Valid.noUnderflow (h : Valid s) (input : List UInt8) : s.NoUnderflow input := by
  unfold NoUnderflow fillHeader
  split
  · intro _
    unfold extend
    rw [List.length_append, List.length_take]
    omega
  · next hge =>
    intro _
    obtain hlt | ⟨-, -, hlt⟩ := h.incomplete
    · exact absurd hlt hge
    · exact Nat.le_of_lt hlt

theorem Valid.pushLoop (fuel : Nat) (hfuel : input.length ≤ fuel) (h : Valid s) :
    Pushes s input (pushLoop fuel s input) ∧ (pushLoop fuel s input).2.Valid ∧
      ((pushLoop fuel s input).1 = .ok () →
        Advanced s input input.length (pushLoop fuel s input).2) := by
  induction fuel generalizing s input with
  | zero =>
    obtain rfl := List.length_eq_zero_iff.1 (Nat.le_zero.1 hfuel)
    exact ⟨.done h, h, fun _ => ⟨h, (List.append_nil _).symm, rfl⟩⟩
  | succ fuel ih =>
    by_cases hi : input = []
    · subst hi
      rw [pushLoop_nil]
      exact ⟨.done h, h, fun _ => ⟨h, (List.append_nil _).symm, rfl⟩⟩
    have hn := h.noUnderflow input
    unfold FramedStream.pushLoop
    rw [if_neg hi]
    obtain ⟨e, s', hp, hv⟩ | ⟨hp, hadv⟩ | ⟨n, s', hpos, hp, hadv⟩ := h.pass_cases hi
    · rw [hp]
      refine ⟨.returned h hi hn hp hv, hv, ?_⟩
      intro he
      cases he
    · rw [hp]
      exact ⟨.returned h hi hn hp hadv.valid, hadv.valid, fun _ => hadv⟩
    · rw [hp]
      have hlength := List.length_pos_iff.2 hi
      have hrest : (input.drop n).length ≤ fuel := by
        rw [List.length_drop]
        omega
      obtain ⟨hrun, hv, hok⟩ := ih hrest hadv.valid
      refine ⟨.next h hi hn hp hrun, hv, ?_⟩
      intro he
      have hall := hadv.trans (hok he)
      refine ⟨hall.valid, ?_, ?_⟩
      · rw [hall.completed, List.take_of_length_le (by rw [List.length_drop]; omega),
          List.take_length]
      · rw [hall.buffer, List.take_of_length_le (by rw [List.length_drop]; omega),
          List.take_length]

theorem Valid.push_ok (h : Valid s) (hp : s.push input = (.ok (), s')) :
    s'.Valid ∧ s'.completed = s.completed ++ (feedAll cutFrame s.buffer input).1 ∧
      s'.buffer = (feedAll cutFrame s.buffer input).2 := by
  obtain ⟨-, hv, hok⟩ := h.pushLoop input.length (Nat.le_refl _)
  unfold push at hp
  rw [hp] at hv hok
  have hadv := hok rfl
  have hc := hadv.completed
  have hb := hadv.buffer
  rw [List.take_length] at hc hb
  exact ⟨hv, hc, hb⟩

theorem Valid.nextPayload (h : Valid s) :
    s.nextPayload.2.Valid ∧ s.nextPayload.2.buffer = s.buffer ∧
      (∀ payload rest, s.completed = payload :: rest → payload.length ≤ s.queuedBytes ∧
        s.nextPayload.1 = some payload ∧ s.nextPayload.2.completed = rest) := by
  unfold FramedStream.nextPayload
  split
  · next hnil =>
    refine ⟨h, rfl, ?_⟩
    intro payload rest hc
    cases hnil.symm.trans hc
  · next payload rest hc =>
    obtain ⟨hqueued, hlimits, hnonempty, hincomplete⟩ := h
    rw [hc] at hqueued hlimits hnonempty
    rw [List.map_cons, List.sum_cons] at hqueued
    obtain ⟨hcount, hbytes⟩ := hlimits
    rw [List.length_cons] at hcount
    rw [List.map_cons, List.sum_cons] at hbytes
    have hrest : WithinLimits rest := ⟨by omega, by omega⟩
    refine ⟨⟨?_, hrest, fun p hp => hnonempty p (List.mem_cons_of_mem _ hp), hincomplete⟩, rfl, ?_⟩
    · simp only [hqueued, Nat.add_sub_cancel_left]
    · intro payload' rest' hc'
      obtain ⟨rfl, rfl⟩ := List.cons.inj (hc.symm.trans hc')
      exact ⟨by omega, rfl, rfl⟩

theorem Valid.after (h : Valid s) (traffic : List (Traffic UInt8)) : (s.after traffic).Valid := by
  induction traffic generalizing s with
  | nil => exact h
  | cons event traffic ih =>
    cases event with
    | push input => exact ih (h.pushLoop input.length (Nat.le_refl _)).2.1
    | take => exact ih h.nextPayload.1

theorem valid_new : FramedStream.new.Valid :=
  ⟨rfl, ⟨Nat.zero_le _, Nat.zero_le _⟩, fun _ hp => (nomatch hp), .inl (Nat.succ_pos 3)⟩

theorem Valid.execute (h : Valid s) (done : List (List UInt8))
    (he : s.execute traffic = .ok (out, last))
    (hall : all = done ++ s.completed ++ (feedAll cutFrame s.buffer (Traffic.pushed traffic)).1) :
    out = answers all done.length (Traffic.drainPoints cutFrame
        (done.length + s.completed.length) s.buffer traffic) ∧
      done ++ out.reduceOption ++ last.completed = all ∧ last.Valid ∧
      last.buffer = (feedAll cutFrame s.buffer (Traffic.pushed traffic)).2 := by
  induction traffic generalizing s out done with
  | nil =>
    obtain ⟨rfl, rfl⟩ := Prod.mk.inj (Except.ok.inj he)
    rw [hall]
    refine ⟨rfl, ?_, h, rfl⟩
    simp only [Traffic.pushed, feedAll, List.reduceOption_nil, List.append_nil]
  | cons event traffic ih =>
    cases event with
    | push input =>
      rw [FramedStream.execute] at he
      split at he
      · cases he
      next s' hp =>
      obtain ⟨hv, hc, hb⟩ := h.push_ok hp
      simp only [Traffic.pushed, feedAll_append] at hall ⊢
      rw [← hb] at hall ⊢
      rw [← List.append_assoc, List.append_assoc done, ← hc] at hall
      obtain ⟨hout, hrest⟩ := ih hv _ he hall
      refine ⟨?_, hrest⟩
      rw [hout, Traffic.drainPoints, hc, List.length_append, Nat.add_assoc, hb]
    | take =>
      obtain ⟨⟨taken, last'⟩, hr, heq⟩ := bind_eq_ok.1 he
      obtain ⟨rfl, rfl⟩ := Prod.mk.inj (Except.ok.inj heq)
      obtain ⟨hv, hb, hnext⟩ := h.nextPayload
      rw [Traffic.pushed, ← hb] at hall ⊢
      cases hc : s.completed with
      | nil =>
        have hnone : s.nextPayload = (none, s) := by
          unfold FramedStream.nextPayload
          rw [hc]
        rw [hnone] at hr hall ⊢
        obtain ⟨hout, hrest⟩ := ih h _ hr hall
        rw [hc] at hout
        refine ⟨?_, hrest⟩
        rw [Traffic.drainPoints, answers, if_neg (by simp only [List.length_nil]; omega), ← hout]
      | cons payload rest =>
        obtain ⟨-, hsome, hrest⟩ := hnext payload rest hc
        rw [hc, List.append_cons, ← hrest] at hall
        obtain ⟨hout, htaken, hlast⟩ := ih hv _ hr hall
        have hget : all[done.length]? = some payload := by
          rw [hall, List.append_assoc, List.append_assoc,
            List.getElem?_append_right (Nat.le_refl _),
            Nat.sub_self]
          rfl
        rw [List.length_append, List.length_singleton, hrest, hb] at hout
        refine ⟨?_, ?_, hlast⟩
        · rw [hsome, Traffic.drainPoints, answers, if_pos (by simp only [List.length_cons]; omega),
            hget, List.length_cons, hout, Nat.add_assoc, Nat.add_comm 1, hb]
        · rw [hsome, List.reduceOption_cons_of_some, ← htaken, List.append_assoc, List.append_assoc,
            List.append_assoc]
          rfl

end FramedStream

/-- After any traffic, failed pushes included, the stream is valid, its pushes end without an
underflow and so do its takes; and from there on neither what is taken nor what is left depends
on how the bytes are cut, as long as the pushes succeed and the takes meet the same frames. -/
theorem framed_stream_invariant (before : List (Traffic UInt8)) :
    (FramedStream.new.after before).Valid ∧
    (∀ input, FramedStream.Pushes (.after .new before) input
      ((FramedStream.new.after before).push input)) ∧
    (∀ payload rest, (FramedStream.new.after before).completed = payload :: rest →
      payload.length ≤ (FramedStream.new.after before).queuedBytes) ∧
    ∀ a b outA outB lastA lastB,
      (FramedStream.new.after before).execute a = .ok (outA, lastA) →
      (FramedStream.new.after before).execute b = .ok (outB, lastB) →
      Traffic.pushed a = Traffic.pushed b →
      Traffic.drainPoints cutFrame (FramedStream.new.after before).completed.length
          (FramedStream.new.after before).buffer a =
        Traffic.drainPoints cutFrame (FramedStream.new.after before).completed.length
          (FramedStream.new.after before).buffer b →
      outA = outB ∧ lastA = lastB := by
  generalize hs : FramedStream.new.after before = s
  have h : s.Valid := hs ▸ FramedStream.valid_new.after before
  refine ⟨h, fun input => (h.pushLoop input.length (Nat.le_refl _)).1, ?_, ?_⟩
  · intro payload rest hc
    exact (h.nextPayload.2.2 payload rest hc).1
  · intro a b outA outB lastA lastB ha hb hbytes hpoints
    obtain ⟨houtA, htakenA, hvA, hbufferA⟩ := h.execute [] ha rfl
    obtain ⟨houtB, htakenB, hvB, hbufferB⟩ := h.execute [] hb rfl
    rw [List.length_nil, Nat.zero_add, hbytes, hpoints] at houtA
    rw [List.length_nil, Nat.zero_add] at houtB
    obtain rfl := houtA.trans houtB.symm
    rw [hbytes, ← htakenB] at htakenA
    have hcompleted := List.append_cancel_left htakenA
    rw [hbytes, ← hbufferB] at hbufferA
    refine ⟨rfl, ?_⟩
    obtain ⟨bufferA, completedA, queuedA⟩ := lastA
    obtain ⟨bufferB, completedB, queuedB⟩ := lastB
    have hqueuedA := hvA.queued
    have hqueuedB := hvB.queued
    simp only at hcompleted hbufferA hqueuedA hqueuedB
    rw [hbufferA, hqueuedA, hqueuedB, hcompleted]

section Example

def refusedFrame : List (Traffic UInt8) := [.push [0, 0, 0, 0, 9]]

def cutInside : List (Traffic UInt8) :=
  [.push [1, 0], .push [0, 0, 7, 2], .take, .push [0, 0], .push [0, 8, 9], .take]

def cutBetween : List (Traffic UInt8) :=
  [.push [1, 0, 0, 0, 7], .take, .push [2, 0, 0, 0, 8, 9], .take]

theorem framed_stream_invariant_cut :
    let s := FramedStream.new.after refusedFrame
    s.execute cutInside = .ok ([some [7], some [8, 9]], .new) ∧
      s.execute cutBetween = s.execute cutInside := by
  intro s
  obtain ⟨-, -, -, hcut⟩ := framed_stream_invariant refusedFrame
  have hinside : s.execute cutInside = .ok ([some [7], some [8, 9]], .new) := by decide
  have hbetween : (s.execute cutBetween).isOk = true := by decide
  cases hexecuted : s.execute cutBetween with
  | error error =>
    rw [hexecuted] at hbetween
    cases hbetween
  | ok executed =>
    obtain ⟨taken, last⟩ := executed
    obtain ⟨rfl, rfl⟩ := hcut cutBetween cutInside _ _ _ _ hexecuted hinside rfl (by decide)
    exact ⟨hinside, hinside.symm⟩

end Example

end PalBeacon.Ipc
