import PalBeacon.Lib.Bytes
import PalBeacon.Protocol.Messages

namespace PalBeacon.Ipc
open PalBeacon.Lib PalBeacon.Protocol
set_option autoImplicit true

def maxQueuedFrames : Nat := 1024

inductive StreamError where
  | empty
  | tooLarge
  | truncated
  | malformed
  | queueFull
deriving DecidableEq, Repr

structure FramedStream where
  buffer : List UInt8
  completed : List (List UInt8)
  queuedBytes : Nat
deriving DecidableEq, Repr

/-- How one pass of the loop in `push` ends. -/
inductive Pass where
  | returned (result : Except StreamError Unit) (s : FramedStream)
  | next (s : FramedStream) (input : List UInt8)

namespace FramedStream

def new : FramedStream := ⟨[], [], 0⟩

/-- The little-endian number in the first four bytes. -/
def declaredLen (s : FramedStream) : Nat :=
  (s.buffer.getD 0 0).toNat + 2 ^ 8 * (s.buffer.getD 1 0).toNat +
    2 ^ 16 * (s.buffer.getD 2 0).toNat + 2 ^ 24 * (s.buffer.getD 3 0).toNat

def extend (s : FramedStream) (bytes : List UInt8) : FramedStream :=
  { s with buffer := s.buffer ++ bytes }

def clear (s : FramedStream) : FramedStream := { s with buffer := [] }

def validateDeclaredLen (s : FramedStream) : Except StreamError Unit × FramedStream :=
  if s.declaredLen = 0 then (.error .empty, s.clear)
  else if maxPayloadLen < s.declaredLen then (.error .tooLarge, s.clear)
  else (.ok (), s)

def Full (s : FramedStream) (payloadLen : Nat) : Prop :=
  s.completed.length = maxQueuedFrames ∨ maxPayloadLen < s.queuedBytes + payloadLen

instance instDecidableFull (s : FramedStream) (payloadLen : Nat) : Decidable (s.Full payloadLen) :=
  inferInstanceAs (Decidable (_ ∨ _))

/-- The second half of a pass, once the four bytes of the length are there. -/
def pushBody (s : FramedStream) (input : List UInt8) : Pass :=
  let payloadLen := s.declaredLen
  let frameLen := payloadLen + 4
  let take := min (frameLen - s.buffer.length) input.length
  let s := s.extend (input.take take)
  let input := input.drop take
  if s.buffer.length = frameLen then
    if s.Full payloadLen then .returned (.error .queueFull) s.clear
    else
      let payload := s.buffer.drop 4
      .next ⟨[], s.completed ++ [payload], s.queuedBytes + payload.length⟩ input
  else .next s input

def pass (s : FramedStream) (input : List UInt8) : Pass :=
  if s.buffer.length < 4 then
    let take := min (4 - s.buffer.length) input.length
    let s := s.extend (input.take take)
    let input := input.drop take
    if s.buffer.length < 4 then .returned (.ok ()) s
    else
      match s.validateDeclaredLen with
      | (.error error, s) => .returned (.error error) s
      | (.ok (), s) => s.pushBody input
  else s.pushBody input

def pushLoop : Nat → FramedStream → List UInt8 → Except StreamError Unit × FramedStream
  | 0, s, _ => (.ok (), s)
  | fuel + 1, s, input =>
    if input = [] then (.ok (), s)
    else
      match s.pass input with
      | .returned result s => (result, s)
      | .next s input => pushLoop fuel s input

def push (s : FramedStream) (input : List UInt8) : Except StreamError Unit × FramedStream :=
  pushLoop input.length s input

def nextPayload (s : FramedStream) : Option (List UInt8) × FramedStream :=
  match s.completed with
  | [] => (none, s)
  | payload :: completed =>
    (some payload, { s with completed, queuedBytes := s.queuedBytes - payload.length })

def drainLoop : Nat → FramedStream → List (List UInt8) × FramedStream
  | 0, s => ([], s)
  | fuel + 1, s =>
    match s.nextPayload with
    | (none, s) => ([], s)
    | (some payload, s) => (payload :: (drainLoop fuel s).1, (drainLoop fuel s).2)

def drain (s : FramedStream) : List (List UInt8) × FramedStream :=
  drainLoop s.completed.length s

def finish (s : FramedStream) : Except StreamError Unit :=
  if s.buffer = [] then .ok () else .error .truncated

/-- A session's reads: each chunk is pushed, then all completed payloads are taken. -/
def receive (s : FramedStream) : List (List UInt8) → List (List UInt8) × Except StreamError Unit
  | [] => ([], s.finish)
  | chunk :: chunks =>
    match s.push chunk with
    | (.error error, _) => ([], .error error)
    | (.ok (), s) => (s.drain.1 ++ (receive s.drain.2 chunks).1, (receive s.drain.2 chunks).2)

end FramedStream

def frame (payload : List UInt8) : List UInt8 :=
  toLeBytes (.ofNat payload.length) ++ payload

def frameLen (payload : List UInt8) : Nat := payload.length + 4

def WithinLimits (payloads : List (List UInt8)) : Prop :=
  payloads.length ≤ maxQueuedFrames ∧ (payloads.map List.length).sum ≤ maxPayloadLen

instance instDecidableWithinLimits (payloads : List (List UInt8)) :
    Decidable (WithinLimits payloads) :=
  inferInstanceAs (Decidable (_ ∧ _))

/-- The payloads whose last byte lies in the chunk after the first `start` bytes. -/
def completedBy (payloads : List (List UInt8)) (start : Nat) (chunk : List UInt8) :
    List (List UInt8) :=
  (packed frameLen payloads (start + chunk.length)).drop (packed frameLen payloads start).length

section Frames

theorem encode_eq_ok (h : FrameCodec.encode payload = .ok bytes) :
    bytes = frame payload ∧ 0 < payload.length ∧ payload.length ≤ maxPayloadLen := by
  obtain ⟨hempty, h⟩ := check_bind_eq_ok.1 h
  obtain ⟨hlarge, h⟩ := check_bind_eq_ok.1 h
  have hne := of_decide_eq_true (ensure_eq_ok.1 hempty)
  exact ⟨(Except.ok.inj h).symm, Nat.pos_of_ne_zero hne, of_decide_eq_true (ensure_eq_ok.1 hlarge)⟩

theorem frame_length (payload : List UInt8) : (frame payload).length = frameLen payload := by
  rw [frame, List.length_append, frameLen, Nat.add_comm]
  rfl

theorem length_flatMap_frame (payloads : List (List UInt8)) :
    (payloads.flatMap frame).length = (payloads.map frameLen).sum := by
  induction payloads with
  | nil => rfl
  | cons payload payloads ih =>
    rw [List.flatMap_cons, List.length_append, frame_length, ih]
    rfl

theorem leBytes_toNat (value : UInt32) :
    value.toUInt8.toNat + 2 ^ 8 * (value >>> 8).toUInt8.toNat +
      2 ^ 16 * (value >>> 16).toUInt8.toNat + 2 ^ 24 * (value >>> 24).toUInt8.toNat =
      value.toNat := by
  have hlt := value.toNat_lt
  simp only [UInt32.toNat_toUInt8, UInt32.toNat_shiftRight, UInt32.reduceToNat, Nat.reduceMod,
    Nat.shiftRight_eq_div_pow]
  omega

end Frames

namespace FramedStream
variable {s : FramedStream}

/-- The bytes buffered and the input continue a frame that is not complete yet. -/
structure Within (s : FramedStream) (input payload more : List UInt8) : Prop where
  nonempty : 0 < payload.length
  bounded : payload.length ≤ maxPayloadLen
  short : s.buffer.length < frameLen payload
  bytes : s.buffer ++ input <+: frame payload ++ more

theorem Within.declaredLen (h : Within s input payload more) (hlen : 4 ≤ s.buffer.length) :
    s.declaredLen = payload.length := by
  have hat : ∀ i < 4, s.buffer.getD i 0 = (toLeBytes (.ofNat payload.length)).getD i 0 := by
    intro i hi
    obtain ⟨tail, htail⟩ := h.bytes
    have hget := congrArg (fun bytes => bytes[i]?) htail
    rw [List.append_assoc, List.getElem?_append_left (by omega), frame, List.append_assoc,
      List.getElem?_append_left (show i < (toLeBytes _).length from hi)] at hget
    rw [List.getD_eq_getElem?_getD, hget, List.getD_eq_getElem?_getD]
  unfold FramedStream.declaredLen
  rw [hat 0 (by omega), hat 1 (by omega), hat 2 (by omega), hat 3 (by omega)]
  have hbound : payload.length < 2 ^ 32 := by
    have hle := h.bounded
    unfold maxPayloadLen at hle
    omega
  have hbytes := leBytes_toNat (.ofNat payload.length)
  rw [UInt32.toNat_ofNat_of_lt' hbound] at hbytes
  exact hbytes

theorem Within.extend (h : Within s input payload more)
    (hn : s.buffer.length + n < frameLen payload) :
    Within (s.extend (input.take n)) (input.drop n) payload more := by
  refine ⟨h.nonempty, h.bounded, ?_, ?_⟩
  · unfold FramedStream.extend
    rw [List.length_append, List.length_take]
    omega
  · unfold FramedStream.extend
    rw [List.append_assoc, List.take_append_drop]
    exact h.bytes

theorem Within.pushBody_short (h : Within s input payload more) (hlen : 4 ≤ s.buffer.length)
    (hshort : s.buffer.length + input.length < frameLen payload) :
    s.pushBody input = .next (s.extend input) [] := by
  have hmin : min (payload.length + 4 - s.buffer.length) input.length = input.length := by
    unfold frameLen at hshort
    omega
  have hne : (s.extend input).buffer.length ≠ payload.length + 4 := by
    unfold FramedStream.extend
    rw [List.length_append]
    unfold frameLen at hshort
    omega
  unfold pushBody
  rw [h.declaredLen hlen]
  dsimp only
  rw [hmin, List.take_length, List.drop_length, if_neg hne]

theorem Within.frame_eq (h : Within s input payload more)
    (hcomplete : frameLen payload ≤ s.buffer.length + input.length) :
    s.buffer ++ input.take (frameLen payload - s.buffer.length) = frame payload := by
  have hshort := h.short
  obtain ⟨tail, htail⟩ := h.bytes
  have htake := congrArg (List.take (frameLen payload)) htail
  rw [List.append_assoc, List.take_append, List.take_of_length_le (by omega),
    List.take_append_of_le_length (by omega), ← frame_length payload, List.take_left] at htake
  rw [frame_length] at htake
  exact htake

theorem Within.pushBody_complete (h : Within s input payload more) (hlen : 4 ≤ s.buffer.length)
    (hcomplete : frameLen payload ≤ s.buffer.length + input.length) :
    s.pushBody input =
      if s.Full payload.length then .returned (.error .queueFull) s.clear
      else .next ⟨[], s.completed ++ [payload], s.queuedBytes + payload.length⟩
        (input.drop (frameLen payload - s.buffer.length)) := by
  have hmin : min (payload.length + 4 - s.buffer.length) input.length =
      frameLen payload - s.buffer.length := by
    unfold frameLen at hcomplete ⊢
    omega
  have hbuffer : (s.extend (input.take (frameLen payload - s.buffer.length))).buffer =
      frame payload := h.frame_eq hcomplete
  unfold pushBody
  rw [h.declaredLen hlen]
  dsimp only
  rw [hmin, hbuffer,
    if_pos (show (frame payload).length = payload.length + 4 from frame_length payload)]
  rfl

theorem Within.pass (h : Within s input payload more) :
    (s.buffer.length + input.length < frameLen payload →
      s.pass input = .returned (.ok ()) (s.extend input) ∨
      s.pass input = .next (s.extend input) []) ∧
    (frameLen payload ≤ s.buffer.length + input.length →
      s.pass input =
        if s.Full payload.length then .returned (.error .queueFull) s.clear
        else .next ⟨[], s.completed ++ [payload], s.queuedBytes + payload.length⟩
          (input.drop (frameLen payload - s.buffer.length))) := by
  unfold FramedStream.pass
  by_cases hheader : s.buffer.length < 4
  · rw [if_pos hheader]
    dsimp only
    by_cases hinput : s.buffer.length + input.length < 4
    · have hmin : min (4 - s.buffer.length) input.length = input.length := by omega
      have hlt : (s.extend input).buffer.length < 4 := by
        unfold FramedStream.extend
        rw [List.length_append]
        exact hinput
      rw [hmin, List.take_length, if_pos hlt]
      refine ⟨fun _ => .inl rfl, ?_⟩
      intro hle
      unfold frameLen at hle
      omega
    · have hmin : min (4 - s.buffer.length) input.length = 4 - s.buffer.length := by omega
      have hlen : (s.extend (input.take (4 - s.buffer.length))).buffer.length = 4 := by
        unfold FramedStream.extend
        rw [List.length_append, List.length_take]
        omega
      have hpos := h.nonempty
      have hnext := h.extend (n := 4 - s.buffer.length) (by unfold frameLen; omega)
      have hdeclared := hnext.declaredLen (Nat.le_of_eq hlen.symm)
      have hvalid : (s.extend (input.take (4 - s.buffer.length))).validateDeclaredLen =
          (.ok (), s.extend (input.take (4 - s.buffer.length))) := by
        unfold validateDeclaredLen
        rw [hdeclared, if_neg (Nat.ne_of_gt hpos), if_neg (Nat.not_lt.2 h.bounded)]
      rw [hmin, if_neg (by omega), hvalid]
      dsimp only
      refine ⟨?_, ?_⟩
      · intro hshort
        right
        rw [hnext.pushBody_short (Nat.le_of_eq hlen.symm)]
        · unfold FramedStream.extend
          rw [List.append_assoc, List.take_append_drop]
        · rw [hlen, List.length_drop]
          omega
      · intro hcomplete
        rw [hnext.pushBody_complete (Nat.le_of_eq hlen.symm)]
        · rw [hlen, List.drop_drop]
          unfold frameLen at hcomplete ⊢
          rw [show 4 - s.buffer.length + (payload.length + 4 - 4) =
            payload.length + 4 - s.buffer.length from by omega]
          rfl
        · rw [hlen, List.length_drop]
          omega
  · rw [if_neg hheader]
    refine ⟨?_, ?_⟩
    · intro hshort
      exact .inr (h.pushBody_short (Nat.not_lt.1 hheader) hshort)
    · intro hcomplete
      exact h.pushBody_complete (Nat.not_lt.1 hheader) hcomplete

def Open (s : FramedStream) : List (List UInt8) → Prop
  | [] => s.buffer = []
  | payload :: _ => s.buffer.length < frameLen payload

/-- A stream that has the bytes of `rest` still to come, apart from those in its buffer. -/
structure Expects (s : FramedStream) (input : List UInt8) (rest : List (List UInt8)) : Prop where
  valid : ∀ payload ∈ rest, 0 < payload.length ∧ payload.length ≤ maxPayloadLen
  incomplete : s.Open rest
  bytes : s.buffer ++ input <+: rest.flatMap frame
  queued : s.queuedBytes = (s.completed.map List.length).sum
  limits : WithinLimits s.completed

theorem withinLimits_of_append (h : WithinLimits (before ++ after)) : WithinLimits before := by
  obtain ⟨hcount, hbytes⟩ := h
  rw [List.length_append] at hcount
  rw [List.map_append, List.sum_append] at hbytes
  exact ⟨by omega, by omega⟩

theorem full_iff (hqueued : s.queuedBytes = (s.completed.map List.length).sum)
    (hlimits : WithinLimits s.completed) (payload : List UInt8) :
    s.Full payload.length ↔ ¬WithinLimits (s.completed ++ [payload]) := by
  obtain ⟨hcount, hbytes⟩ := hlimits
  unfold Full WithinLimits
  rw [List.length_append, List.map_append, List.sum_append, hqueued, List.map_singleton,
    List.sum_singleton, List.length_singleton]
  omega

theorem Expects.within (h : Expects s input (payload :: rest)) :
    Within s input payload (rest.flatMap frame) := by
  have hvalid := h.valid payload List.mem_cons_self
  have hbytes := h.bytes
  rw [List.flatMap_cons] at hbytes
  exact ⟨hvalid.1, hvalid.2, h.incomplete, hbytes⟩

theorem Expects.complete (h : Expects s input (payload :: rest))
    (hcomplete : frameLen payload ≤ s.buffer.length + input.length)
    (hlimits : WithinLimits (s.completed ++ [payload])) :
    Expects ⟨[], s.completed ++ [payload], s.queuedBytes + payload.length⟩
      (input.drop (frameLen payload - s.buffer.length)) rest := by
  refine ⟨fun p hp => h.valid p (List.mem_cons_of_mem _ hp), ?_, ?_, ?_, hlimits⟩
  · cases rest with
    | nil => rfl
    | cons next rest => exact Nat.succ_pos _
  · have hshort : s.buffer.length < frameLen payload := h.incomplete
    obtain ⟨tail, htail⟩ := h.bytes
    have hdrop := congrArg (List.drop (frameLen payload)) htail
    rw [List.flatMap_cons, ← frame_length payload, List.drop_left, frame_length,
      List.append_assoc, List.drop_append, List.drop_eq_nil_of_le (by omega), List.nil_append,
      List.drop_append_of_le_length (by omega)] at hdrop
    exact ⟨tail, hdrop⟩
  · dsimp only
    rw [h.queued, List.map_append, List.sum_append, List.map_singleton, List.sum_singleton]

theorem pushLoop_nil (fuel : Nat) (s : FramedStream) : pushLoop fuel s [] = (.ok (), s) := by
  cases fuel with
  | zero => rfl
  | succ fuel => exact if_pos rfl

/-- The stream after a push that completed `done`. -/
structure Pushed (s : FramedStream) (input : List UInt8) (rest done : List (List UInt8))
    (next : FramedStream) : Prop where
  completed : next.completed = s.completed ++ done
  expects : next.Expects [] (rest.drop done.length)
  bytes : done.flatMap frame ++ next.buffer = s.buffer ++ input

theorem Pushed.none (h : Expects s input (payload :: rest))
    (hshort : s.buffer.length + input.length < frameLen payload) :
    Pushed s input (payload :: rest) [] (s.extend input) := by
  refine ⟨(List.append_nil _).symm, ⟨h.valid, ?_, ?_, h.queued, h.limits⟩, rfl⟩
  · show (s.buffer ++ input).length < frameLen payload
    rw [List.length_append]
    exact hshort
  · unfold FramedStream.extend
    rw [List.append_nil]
    exact h.bytes

theorem Expects.pushLoop (fuel : Nat) (hfuel : input.length ≤ fuel) (h : Expects s input rest)
    (hdone : done = packed frameLen rest (s.buffer.length + input.length)) :
    (WithinLimits (s.completed ++ done) →
      ∃ next, pushLoop fuel s input = (.ok (), next) ∧ Pushed s input rest done next) ∧
    (¬WithinLimits (s.completed ++ done) →
      ∃ next, pushLoop fuel s input = (.error .queueFull, next)) := by
  induction rest generalizing s input fuel done with
  | nil =>
    have hempty := List.prefix_nil.1 h.bytes
    obtain ⟨hbuffer, hinput⟩ := List.append_eq_nil_iff.1 hempty
    subst hinput
    rw [hdone, packed, List.append_nil, pushLoop_nil]
    refine ⟨fun _ => ⟨s, rfl, (List.append_nil _).symm, h, (List.append_nil _).symm⟩,
      fun hn => absurd h.limits hn⟩
  | cons payload rest ih =>
    by_cases hshort : s.buffer.length + input.length < frameLen payload
    · rw [packed_cons_of_lt rest hshort] at hdone
      rw [hdone, List.append_nil]
      refine ⟨fun _ => ⟨s.extend input, ?_, Pushed.none h hshort⟩, fun hn => absurd h.limits hn⟩
      cases fuel with
      | zero =>
        rw [List.eq_nil_of_length_eq_zero (Nat.le_zero.1 hfuel), pushLoop_nil]
        unfold FramedStream.extend
        rw [List.append_nil]
      | succ fuel =>
        unfold FramedStream.pushLoop
        by_cases hinput : input = []
        · rw [if_pos hinput, hinput]
          unfold FramedStream.extend
          rw [List.append_nil]
        · rw [if_neg hinput]
          rcases h.within.pass.1 hshort with hpass | hpass
          · rw [hpass]
          · rw [hpass]
            exact pushLoop_nil fuel _
    · have hcomplete := Nat.not_lt.1 hshort
      have hincomplete : s.buffer.length < frameLen payload := h.incomplete
      rw [packed_cons_of_le rest hcomplete] at hdone
      have hpass := h.within.pass.2 hcomplete
      have hne : input ≠ [] := by
        rintro rfl
        rw [List.length_nil] at hcomplete
        omega
      have hpos := List.length_pos_iff.2 hne
      obtain ⟨fuel, rfl⟩ : ∃ n, fuel = n + 1 := ⟨fuel - 1, by omega⟩
      unfold FramedStream.pushLoop
      rw [if_neg hne, hpass]
      by_cases hfull : s.Full payload.length
      · rw [if_pos hfull]
        refine ⟨?_, fun _ => ⟨_, rfl⟩⟩
        intro hlimits
        rw [hdone, List.append_cons] at hlimits
        exact absurd (withinLimits_of_append hlimits) ((full_iff h.queued h.limits payload).1 hfull)
      · rw [if_neg hfull]
        have hlimits : WithinLimits (s.completed ++ [payload]) :=
          of_not_not fun hn => hfull ((full_iff h.queued h.limits payload).2 hn)
        have hnext := h.complete hcomplete hlimits
        have hlength : (input.drop (frameLen payload - s.buffer.length)).length =
            s.buffer.length + input.length - frameLen payload := by
          rw [List.length_drop]
          omega
        have hrest : packed frameLen rest (s.buffer.length + input.length - frameLen payload) =
            packed frameLen rest (([] : List UInt8).length +
              (input.drop (frameLen payload - s.buffer.length)).length) := by
          rw [hlength, List.length_nil, Nat.zero_add]
        have hstep := ih fuel (by rw [List.length_drop]; omega) hnext hrest
        dsimp only at hstep
        rw [List.append_assoc, List.singleton_append, ← hdone] at hstep
        refine ⟨?_, hstep.2⟩
        intro hwithin
        obtain ⟨next, hrun, hpushed⟩ := hstep.1 hwithin
        refine ⟨next, hrun, ?_, ?_, ?_⟩
        · rw [hpushed.completed, hdone, List.append_assoc]
          rfl
        · rw [hdone]
          exact hpushed.expects
        · have hbytes := hpushed.bytes
          rw [List.nil_append] at hbytes
          rw [hdone, List.flatMap_cons, List.append_assoc, hbytes]
          have hframe := h.within.frame_eq hcomplete
          rw [← hframe, List.append_assoc, List.take_append_drop]

theorem drainLoop_eq (h : s.queuedBytes = (s.completed.map List.length).sum) :
    drainLoop s.completed.length s = (s.completed, ⟨s.buffer, [], 0⟩) := by
  obtain ⟨buffer, completed, queuedBytes⟩ := s
  dsimp only at h
  subst h
  induction completed with
  | nil => rfl
  | cons payload completed ih =>
    rw [List.length_cons, drainLoop, nextPayload]
    dsimp only
    rw [List.map_cons, List.sum_cons, Nat.add_sub_cancel_left, ih]

/-- A session between two reads: `done` was taken, and the chunks to come hold all of `rest`. -/
structure Reading (s : FramedStream) (payloads done rest : List (List UInt8)) (start : Nat)
    (chunks : List (List UInt8)) : Prop where
  split : payloads = done ++ rest
  offset : start = (done.map frameLen).sum + s.buffer.length
  taken : s.completed = []
  expects : s.Expects [] rest
  bytes : s.buffer ++ chunks.flatten = rest.flatMap frame

theorem packed_open (h : s.Open rest) : packed frameLen rest s.buffer.length = [] := by
  cases rest with
  | nil => rfl
  | cons payload rest => exact packed_cons_of_lt rest h

theorem Reading.packed_start (h : Reading s payloads done rest start chunks) :
    packed frameLen payloads start = done := by
  rw [h.split, h.offset, packed_append, packed_open h.expects.incomplete]
  exact List.append_nil done

theorem Reading.completedBy_eq (h : Reading s payloads done rest start chunks)
    (chunk : List UInt8) :
    completedBy payloads start chunk = packed frameLen rest (s.buffer.length + chunk.length) := by
  unfold completedBy
  rw [h.packed_start, h.offset, h.split, Nat.add_assoc, packed_append, List.drop_left]

theorem Reading.expects_chunk (h : Reading s payloads done rest start (chunk :: chunks)) :
    s.Expects chunk rest := by
  have hexpects := h.expects
  refine ⟨hexpects.valid, hexpects.incomplete, ⟨chunks.flatten, ?_⟩, hexpects.queued,
    hexpects.limits⟩
  rw [List.append_assoc, ← h.bytes, List.flatten_cons]

theorem Reading.read (h : Reading s payloads done rest start (chunk :: chunks)) :
    (WithinLimits (completedBy payloads start chunk) → ∃ next,
      Reading next payloads (done ++ completedBy payloads start chunk)
        (rest.drop (completedBy payloads start chunk).length) (start + chunk.length) chunks ∧
      s.receive (chunk :: chunks) = (completedBy payloads start chunk ++ (next.receive chunks).1,
        (next.receive chunks).2)) ∧
    (¬WithinLimits (completedBy payloads start chunk) →
      s.receive (chunk :: chunks) = ([], .error .queueFull)) := by
  have hpush := h.expects_chunk.pushLoop chunk.length (Nat.le_refl _)
    (h.completedBy_eq chunk)
  rw [h.taken, List.nil_append] at hpush
  refine ⟨?_, ?_⟩
  · intro hlimits
    obtain ⟨next, hrun, hpushed⟩ := hpush.1 hlimits
    have hcompleted := hpushed.completed
    rw [h.taken, List.nil_append] at hcompleted
    have hdrain : next.drain = (completedBy payloads start chunk, ⟨next.buffer, [], 0⟩) := by
      unfold drain
      rw [drainLoop_eq hpushed.expects.queued, hcompleted]
    have hrest : rest = completedBy payloads start chunk ++
        rest.drop (completedBy payloads start chunk).length := by
      have hpre : packed frameLen rest (s.buffer.length + chunk.length) <+: rest :=
        packed_prefix_of rest _
      rw [← h.completedBy_eq chunk] at hpre
      exact (List.prefix_iff_eq_append.1 hpre).symm
    refine ⟨⟨next.buffer, [], 0⟩, ⟨?_, ?_, rfl, ?_, ?_⟩, ?_⟩
    · rw [List.append_assoc, ← hrest]
      exact h.split
    · have hlength := congrArg List.length hpushed.bytes
      rw [List.length_append, List.length_append, length_flatMap_frame] at hlength
      have hoffset := h.offset
      rw [List.map_append, List.sum_append]
      dsimp only
      omega
    · have hexpects := hpushed.expects
      exact ⟨hexpects.valid, hexpects.incomplete, hexpects.bytes, rfl,
        ⟨Nat.zero_le _, Nat.zero_le _⟩⟩
    · have hbytes := h.bytes
      rw [List.flatten_cons, ← List.append_assoc, ← hpushed.bytes, List.append_assoc] at hbytes
      have hframes := congrArg (List.flatMap frame) hrest
      rw [List.flatMap_append] at hframes
      exact List.append_cancel_left (hbytes.trans hframes)
    · rw [receive, push, hrun]
      dsimp only
      rw [hdrain]
  · intro hlimits
    obtain ⟨next, hrun⟩ := hpush.2 hlimits
    rw [receive, push, hrun]

end FramedStream

/-- Every chunk from `start` on completes no more than the queue holds. -/
def WithinBudget (payloads : List (List UInt8)) : Nat → List (List UInt8) → Prop
  | _, [] => True
  | start, chunk :: chunks =>
    WithinLimits (completedBy payloads start chunk) ∧
      WithinBudget payloads (start + chunk.length) chunks

namespace FramedStream
variable {s : FramedStream}

theorem Reading.receive_all (h : Reading s payloads done rest start chunks)
    (hbudget : WithinBudget payloads start chunks) : s.receive chunks = (rest, .ok ()) := by
  induction chunks generalizing s done rest start with
  | nil =>
    have hbytes := h.bytes
    rw [List.flatten_nil, List.append_nil] at hbytes
    have hrest := packed_open h.expects.incomplete
    rw [hbytes, length_flatMap_frame, packed_all] at hrest
    rw [hrest, List.flatMap_nil] at hbytes
    rw [receive, finish, if_pos hbytes, hrest]
  | cons chunk chunks ih =>
    obtain ⟨next, hnext, hreceive⟩ := h.read.1 hbudget.1
    rw [hreceive, ih hnext hbudget.2]
    have hsplit := h.split.symm.trans hnext.split
    rw [List.append_assoc] at hsplit
    rw [← List.append_cancel_left hsplit]

theorem Reading.receive_fails (h : Reading s payloads done rest start (before ++ chunk :: after))
    (hbudget : WithinBudget payloads start before)
    (hexceeds : ¬WithinLimits (completedBy payloads (start + before.flatten.length) chunk)) :
    ∃ taken, s.receive (before ++ chunk :: after) = (taken, .error .queueFull) ∧
      done ++ taken = packed frameLen payloads (start + before.flatten.length) := by
  induction before generalizing s done rest start with
  | nil =>
    refine ⟨[], h.read.2 hexceeds, ?_⟩
    rw [List.flatten_nil, List.length_nil, Nat.add_zero, h.packed_start]
    exact List.append_nil done
  | cons first before ih =>
    rw [List.cons_append] at h ⊢
    obtain ⟨next, hnext, hreceive⟩ := h.read.1 hbudget.1
    rw [List.flatten_cons, List.length_append, ← Nat.add_assoc] at hexceeds ⊢
    obtain ⟨taken, htaken, hdone⟩ := ih hnext hbudget.2 hexceeds
    refine ⟨completedBy payloads start first ++ taken, ?_, ?_⟩
    · rw [hreceive, htaken]
    · rw [← List.append_assoc]
      exact hdone

theorem Reading.initial (h : List.Forall₂ (fun p f => FrameCodec.encode p = .ok f) payloads frames)
    (hchunks : chunks.flatten = frames.flatten) : Reading .new payloads [] payloads 0 chunks := by
  have hvalid : (∀ p ∈ payloads, 0 < p.length ∧ p.length ≤ maxPayloadLen) ∧
      frames.flatten = payloads.flatMap frame := by
    clear hchunks
    induction h with
    | nil => exact ⟨fun _ hp => (nomatch hp), rfl⟩
    | cons hencode _ ih =>
      obtain ⟨rfl, hlength⟩ := encode_eq_ok hencode
      refine ⟨List.forall_mem_cons.2 ⟨hlength, ih.1⟩, ?_⟩
      rw [List.flatten_cons, List.flatMap_cons, ih.2]
  refine ⟨rfl, rfl, rfl,
    ⟨hvalid.1, ?_, List.nil_prefix, rfl, ⟨Nat.zero_le _, Nat.zero_le _⟩⟩,
    hchunks.trans hvalid.2⟩
  cases payloads with
  | nil => rfl
  | cons payload _ => exact Nat.succ_pos _

end FramedStream

/-- However the bytes of a sequence of frames are cut into chunks, a session takes exactly their
payloads in order, unless a chunk completes more than the queue holds: then it fails there. -/
theorem framed_stream_delivers (payloads frames chunks : List (List UInt8))
    (h : List.Forall₂ (fun payload bytes => FrameCodec.encode payload = .ok bytes) payloads frames)
    (hchunks : chunks.flatten = frames.flatten) :
    (WithinBudget payloads 0 chunks → FramedStream.new.receive chunks = (payloads, .ok ())) ∧
      ∀ before chunk after, chunks = before ++ chunk :: after → WithinBudget payloads 0 before →
        ¬WithinLimits (completedBy payloads before.flatten.length chunk) →
        FramedStream.new.receive chunks =
          (packed frameLen payloads before.flatten.length, .error .queueFull) := by
  have hreading := FramedStream.Reading.initial h hchunks
  refine ⟨hreading.receive_all, ?_⟩
  intro before chunk after hsplit hbudget hexceeds
  rw [hsplit] at hreading ⊢
  rw [← Nat.zero_add before.flatten.length] at hexceeds
  obtain ⟨taken, hreceive, htaken⟩ := hreading.receive_fails hbudget hexceeds
  rw [hreceive, ← Nat.zero_add before.flatten.length, ← htaken]
  rfl

/-- A frame cut in its length and in its body, with the next one in the last chunk. -/
theorem framed_stream_delivers_split_frames :
    [[3, 0], [0, 0, 1, 2], [3, 2, 0, 0, 0, 4, 5]].flatten =
        ([[3, 0, 0, 0, 1, 2, 3], [2, 0, 0, 0, 4, 5]] : List (List UInt8)).flatten ∧
      FramedStream.new.receive [[3, 0], [0, 0, 1, 2], [3, 2, 0, 0, 0, 4, 5]] =
        ([[1, 2, 3], [4, 5]], .ok ()) := by
  have hencode : List.Forall₂ (fun payload bytes => FrameCodec.encode payload = .ok bytes)
      [[1, 2, 3], [4, 5]] [[3, 0, 0, 0, 1, 2, 3], [2, 0, 0, 0, 4, 5]] :=
    .cons rfl (.cons rfl .nil)
  have hbudget : WithinBudget [[1, 2, 3], [4, 5]] 0
      [[3, 0], [0, 0, 1, 2], [3, 2, 0, 0, 0, 4, 5]] :=
    ⟨by decide, by decide, by decide, trivial⟩
  have hflatten : [[3, 0], [0, 0, 1, 2], [3, 2, 0, 0, 0, 4, 5]].flatten =
      ([[3, 0, 0, 0, 1, 2, 3], [2, 0, 0, 0, 4, 5]] : List (List UInt8)).flatten := rfl
  exact ⟨hflatten, (framed_stream_delivers _ _ _ hencode hflatten).1 hbudget⟩

/-- Payloads of one byte each, whose frames take 5125 bytes together. -/
def manyFrames : List (List UInt8) := List.replicate 1025 [1]

/-- Frames small enough for one chunk are too many for the queue. -/
theorem framed_stream_queue_overflows :
    (manyFrames.flatMap frame).length ≤ 65536 ∧ (∀ payload ∈ manyFrames, payload.length = 1) ∧
      FramedStream.new.receive [manyFrames.flatMap frame] = ([], .error .queueFull) := by
  have hlength : (manyFrames.flatMap frame).length = 5125 := by
    rw [length_flatMap_frame, manyFrames, List.map_replicate, List.sum_replicate]
    rfl
  have hone : ∀ payload ∈ manyFrames, payload = [1] := fun _ hp => List.eq_of_mem_replicate hp
  have hreading : FramedStream.Reading .new manyFrames [] manyFrames 0
      [manyFrames.flatMap frame] := by
    refine ⟨rfl, rfl, rfl,
      ⟨?_, Nat.succ_pos _, List.nil_prefix, rfl, ⟨Nat.zero_le _, Nat.zero_le _⟩⟩,
      List.append_nil _⟩
    intro payload hp
    rw [hone payload hp]
    decide
  have hcompleted : completedBy manyFrames 0 (manyFrames.flatMap frame) = manyFrames := by
    rw [hreading.completedBy_eq, length_flatMap_frame,
      show FramedStream.new.buffer.length = 0 from rfl, Nat.zero_add, packed_all]
  refine ⟨by omega, fun payload hp => by rw [hone payload hp]; rfl, hreading.read.2 ?_⟩
  rw [hcompleted]
  intro hlimits
  have hcount := hlimits.1
  rw [manyFrames, List.length_replicate] at hcount
  exact absurd hcount (by decide)

end PalBeacon.Ipc
