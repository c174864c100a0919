import Roammand.Library.Bytes
import Roammand.Library.Except
import Roammand.Library.Incremental
import Roammand.Library.Run

/-!
# Local frames

Messages between local processes are carried over a byte stream as frames: a length in four
bytes, most significant byte first, and that many bytes of payload.  The decoder is given the
stream in chunks of any size.

Main results:

- Definitions `encodeFrameWithLimit` and `FrameDecoder` with `push` and `finish`.
- Definition `FrameDecoder.decoder`: the decoder one byte at a time.
- Theorem `FrameDecoder.push_feed`: a push is what the bytes of its chunk do one by one.
- Theorem `FrameDecoder.frame_decoding`: frames are decoded whatever the chunks are.
-/

namespace Roammand

namespace Protocol

open Library Incremental List

/-- How many bytes hold the length of a frame. -/
def lengthPrefixBytes : Nat := 4

/-- The longest payload of a local frame. -/
def maxLocalIpcFrameBytes : Nat := 65536

/-- The largest length that four bytes can hold. -/
def u32Max : Nat := 4294967295

/-- The errors of framing. -/
inductive FrameError where
  | invalidLimit
  | zeroLength
  | frameTooLarge
  | truncated
  | failed

/-- A limit is positive and fits the length prefix. -/
def validateLimit (maximum : Nat) : Except FrameError Unit :=
  if maximum = 0 ∨ u32Max < maximum then .error .invalidLimit else .ok ()

/-- A payload is not empty and within the limit. -/
def validateFrameLength (length maximum : Nat) : Except FrameError Unit :=
  if length = 0 then .error .zeroLength
  else if maximum < length then .error .frameTooLarge
  else .ok ()

/-- The frame of a payload under a limit. -/
def encodeFrameWithLimit (payload : Bytes) (maximum : Nat) : Except FrameError Bytes := do
  validateLimit maximum
  validateFrameLength payload.length maximum
  if u32Max < payload.length then .error .frameTooLarge
  else .ok (bigEndian lengthPrefixBytes payload.length ++ payload)

/-- The frame of a local message. -/
def encodeFrame (payload : Bytes) : Except FrameError Bytes :=
  encodeFrameWithLimit payload maxLocalIpcFrameBytes

/-- The decoder: the bytes of the length and of the payload it has so far, the length it expects,
whether it has failed, and its limit. -/
structure FrameDecoder where
  header : Bytes
  expectedPayloadLength : Option Nat
  payload : Bytes
  failed : Bool
  maximum : Nat

namespace FrameDecoder

/-- A decoder of local messages. -/
def new : FrameDecoder where
  header := []
  expectedPayloadLength := none
  payload := []
  failed := false
  maximum := maxLocalIpcFrameBytes

/-- A decoder with a limit of its own. -/
def withLimit (maximum : Nat) : Except FrameError FrameDecoder := do
  validateLimit maximum
  .ok { new with maximum }

/-- How many bytes the decoder holds. -/
def bufferedBytes (d : FrameDecoder) : Nat := d.header.length + d.payload.length

/-- One turn of the loop: as many bytes as the length or the payload still needs. -/
def pushStep (d : FrameDecoder) (chunk : Bytes) :
    FrameDecoder × Bytes × Except FrameError (Option Bytes) :=
  match d.expectedPayloadLength with
  | some expected =>
    let copied := min (expected - d.payload.length) chunk.length
    let payload := d.payload ++ chunk.take copied
    if payload.length = expected then
      ({ d with payload := [], expectedPayloadLength := none }, chunk.drop copied,
        .ok (some payload))
    else ({ d with payload }, chunk.drop copied, .ok none)
  | none =>
    let copied := min (lengthPrefixBytes - d.header.length) chunk.length
    let header := d.header ++ chunk.take copied
    if header.length = lengthPrefixBytes then
      match validateFrameLength (ofBigEndian header) d.maximum with
      | .error e => ({ d with header }, chunk.drop copied, .error e)
      | .ok () =>
        ({ d with header := [], expectedPayloadLength := some (ofBigEndian header) },
          chunk.drop copied, .ok none)
    else ({ d with header }, chunk.drop copied, .ok none)

/-- The loop over a chunk; `none` when it goes on for ever. -/
def pushValid : Nat → FrameDecoder → Bytes → List Bytes →
    FrameDecoder × Option (Except FrameError (List Bytes))
  | _, d, [], frames => (d, some (.ok frames))
  | 0, d, _ :: _, _ => (d, none)
  | fuel + 1, d, b :: bs, frames =>
    match d.pushStep (b :: bs) with
    | (d', _, .error e) => (d', some (.error e))
    | (d', rest, .ok frame) => pushValid fuel d' rest (frames ++ frame.toList)

/-- Decode a chunk of the stream.  Each turn of the loop takes a byte at least. -/
def push (d : FrameDecoder) (chunk : Bytes) :
    FrameDecoder × Option (Except FrameError (List Bytes)) :=
  if d.failed then (d, some (.error .failed))
  else
    match pushValid chunk.length d chunk [] with
    | (d', some (.error e)) => ({ d' with failed := true }, some (.error e))
    | r => r

/-- The stream has ended between two frames. -/
def finish (d : FrameDecoder) : Except FrameError Unit :=
  if d.failed then .error .failed
  else if d.header.length ≠ 0 ∨ d.expectedPayloadLength.isSome then .error .truncated
  else .ok ()

/-! ## One byte at a time -/

/-- Take one byte. -/
def take (d : FrameDecoder) (b : UInt8) : FrameDecoder × Except FrameError (List Bytes) :=
  match d.expectedPayloadLength with
  | some expected =>
    if d.payload.length + 1 = expected then
      ({ d with payload := [], expectedPayloadLength := none }, .ok [d.payload ++ [b]])
    else ({ d with payload := d.payload ++ [b] }, .ok [])
  | none =>
    if d.header.length + 1 = lengthPrefixBytes then
      match validateFrameLength (ofBigEndian (d.header ++ [b])) d.maximum with
      | .error e => ({ d with header := d.header ++ [b] }, .error e)
      | .ok () =>
        ({ d with
            header := []
            expectedPayloadLength := some (ofBigEndian (d.header ++ [b])) }, .ok [])
    else ({ d with header := d.header ++ [b] }, .ok [])

/-- The decoder as an incremental one. -/
def decoder : Incremental FrameDecoder UInt8 Bytes FrameError where
  take := take

/-- Either the length or the payload is being read, and there is more of it to come. -/
def WellFormed (d : FrameDecoder) : Prop :=
  match d.expectedPayloadLength with
  | some expected => d.header = [] ∧ d.payload.length < expected ∧ expected ≤ d.maximum
  | none => d.payload = [] ∧ d.header.length < lengthPrefixBytes

variable {d : FrameDecoder} {expected : Nat}

/-- Bytes that do not complete the payload are kept. -/
theorem feed_payload (hexpected : d.expectedPayloadLength = some expected) (bytes : Bytes)
    (hshort : d.payload.length + bytes.length < expected) :
    decoder.feed d bytes =
      { state := { d with payload := d.payload ++ bytes }, emitted := [], failure := none } := by
  induction bytes generalizing d with
  | nil => simp
  | cons b bs ih =>
    rw [length_cons] at hshort
    have htake : decoder.take d b = ({ d with payload := d.payload ++ [b] }, .ok []) := by
      change d.take b = _
      unfold take
      rw [hexpected]
      exact if_neg (by omega)
    rw [feed_cons_ok htake]
    have hrest := ih (d := { d with payload := d.payload ++ [b] }) hexpected (by
      simp only [length_append, length_cons, length_nil]
      omega)
    rw [hrest]
    simp

/-- Bytes that complete the payload yield it. -/
theorem feed_payload_complete (hexpected : d.expectedPayloadLength = some expected)
    {bytes : Bytes} (hbytes : bytes ≠ []) (hfull : d.payload.length + bytes.length = expected) :
    decoder.feed d bytes =
      { state := { d with payload := [], expectedPayloadLength := none }
        emitted := [d.payload ++ bytes], failure := none } := by
  obtain ⟨front, last, rfl⟩ : ∃ front last, bytes = front ++ [last] :=
    ⟨_, _, (dropLast_append_getLast hbytes).symm⟩
  rw [length_append, length_singleton] at hfull
  have hfront := feed_payload hexpected front (by omega)
  have htake : decoder.take { d with payload := d.payload ++ front } last =
      ({ d with payload := [], expectedPayloadLength := none },
        .ok [d.payload ++ front ++ [last]]) := by
    change take _ last = _
    unfold take
    rw [hexpected]
    refine if_pos ?_
    rw [length_append]
    omega
  rw [feed_append (by rw [hfront]), hfront, feed_cons_ok htake]
  simp

/-- Bytes that do not complete the length are kept. -/
theorem feed_header (hexpected : d.expectedPayloadLength = none) (bytes : Bytes)
    (hshort : d.header.length + bytes.length < lengthPrefixBytes) :
    decoder.feed d bytes =
      { state := { d with header := d.header ++ bytes }, emitted := [], failure := none } := by
  induction bytes generalizing d with
  | nil => simp
  | cons b bs ih =>
    rw [length_cons] at hshort
    have htake : decoder.take d b = ({ d with header := d.header ++ [b] }, .ok []) := by
      change d.take b = _
      unfold take
      rw [hexpected]
      exact if_neg (by omega)
    rw [feed_cons_ok htake]
    have hrest := ih (d := { d with header := d.header ++ [b] }) hexpected (by
      simp only [length_append, length_cons, length_nil]
      omega)
    rw [hrest]
    simp

/-- What the last byte of a length does. -/
theorem take_header_complete (hexpected : d.expectedPayloadLength = none) {b : UInt8}
    (hfull : d.header.length + 1 = lengthPrefixBytes) :
    decoder.take d b =
      match validateFrameLength (ofBigEndian (d.header ++ [b])) d.maximum with
      | .error e => ({ d with header := d.header ++ [b] }, .error e)
      | .ok () =>
        ({ d with
            header := []
            expectedPayloadLength := some (ofBigEndian (d.header ++ [b])) }, .ok []) := by
  change d.take b = _
  unfold take
  rw [hexpected]
  exact if_pos hfull

/-- Bytes that complete a length within the limit. -/
theorem feed_header_complete (hexpected : d.expectedPayloadLength = none) (bytes : Bytes)
    (hbytes : bytes ≠ []) (hfull : d.header.length + bytes.length = lengthPrefixBytes)
    (hvalid : validateFrameLength (ofBigEndian (d.header ++ bytes)) d.maximum = .ok ()) :
    decoder.feed d bytes =
      { state := { d with
          header := []
          expectedPayloadLength := some (ofBigEndian (d.header ++ bytes)) }
        emitted := [], failure := none } := by
  obtain ⟨front, last, rfl⟩ : ∃ front last, bytes = front ++ [last] :=
    ⟨_, _, (dropLast_append_getLast hbytes).symm⟩
  rw [length_append, length_singleton] at hfull
  have hfront := feed_header hexpected front (by omega)
  have htake := take_header_complete (d := { d with header := d.header ++ front }) (b := last)
    hexpected (by rw [length_append]; omega)
  rw [← append_assoc] at hvalid ⊢
  rw [hvalid] at htake
  rw [feed_append (by rw [hfront]), hfront, feed_cons_ok htake]
  simp

/-- Bytes that complete a length that is refused. -/
theorem feed_header_refused (hexpected : d.expectedPayloadLength = none) {bytes : Bytes}
    (hbytes : bytes ≠ []) (hfull : d.header.length + bytes.length = lengthPrefixBytes)
    {e : FrameError}
    (hrefused : validateFrameLength (ofBigEndian (d.header ++ bytes)) d.maximum = .error e) :
    decoder.feed d bytes =
      { state := { d with header := d.header ++ bytes }, emitted := [], failure := some e } := by
  obtain ⟨front, last, rfl⟩ : ∃ front last, bytes = front ++ [last] :=
    ⟨_, _, (dropLast_append_getLast hbytes).symm⟩
  rw [length_append, length_singleton] at hfull
  have hfront := feed_header hexpected front (by omega)
  have htake := take_header_complete (d := { d with header := d.header ++ front }) (b := last)
    hexpected (by rw [length_append]; omega)
  rw [← append_assoc] at hrefused ⊢
  rw [hrefused] at htake
  rw [feed_append (by rw [hfront]), hfront, feed_cons_error htake]
  simp

/-! ## What holds of every decoder -/

theorem validateFrameLength_eq_ok {length maximum : Nat} :
    validateFrameLength length maximum = .ok () ↔ 0 < length ∧ length ≤ maximum := by
  unfold validateFrameLength
  split_ifs with hzero hlong
  · exact iff_of_false (by rintro ⟨⟩) (by omega)
  · exact iff_of_false (by rintro ⟨⟩) (by omega)
  · exact iff_of_true rfl (by omega)

/-- A byte that is taken leaves a well-formed decoder with the same limit. -/
theorem take_ok (h : d.WellFormed) {b : UInt8} {d' : FrameDecoder} {frames : List Bytes}
    (htake : d.take b = (d', .ok frames)) :
    d'.WellFormed ∧ d'.maximum = d.maximum ∧ d'.failed = d.failed := by
  unfold WellFormed at h
  unfold take at htake
  cases hexpected : d.expectedPayloadLength with
  | some expected =>
    rw [hexpected] at h htake
    obtain ⟨hheader, hshort, hlimit⟩ := h
    dsimp only at htake
    split_ifs at htake with hfull
    · cases htake
      refine ⟨⟨rfl, ?_⟩, rfl, rfl⟩
      rw [hheader]
      decide
    · cases htake
      refine ⟨?_, rfl, rfl⟩
      unfold WellFormed
      dsimp only
      refine ⟨hheader, ?_, hlimit⟩
      rw [length_append, length_singleton]
      omega
  | none =>
    rw [hexpected] at h htake
    obtain ⟨hpayload, hshort⟩ := h
    dsimp only at htake
    split_ifs at htake with hfull
    · cases hvalid : validateFrameLength (ofBigEndian (d.header ++ [b])) d.maximum with
      | error e =>
        rw [hvalid] at htake
        cases htake
      | ok _ =>
        rw [hvalid] at htake
        cases htake
        refine ⟨⟨rfl, ?_, (validateFrameLength_eq_ok.mp hvalid).2⟩, rfl, rfl⟩
        rw [hpayload]
        exact (validateFrameLength_eq_ok.mp hvalid).1
    · cases htake
      refine ⟨?_, rfl, rfl⟩
      unfold WellFormed
      dsimp only
      refine ⟨hpayload, ?_⟩
      rw [length_append, length_singleton]
      omega

/-- A byte that is refused is the last of a length. -/
theorem take_error (h : d.WellFormed) {b : UInt8} {d' : FrameDecoder} {e : FrameError}
    (htake : d.take b = (d', .error e)) :
    d'.header.length = lengthPrefixBytes ∧ d'.payload = [] ∧ d'.maximum = d.maximum := by
  unfold WellFormed at h
  unfold take at htake
  cases hexpected : d.expectedPayloadLength with
  | some expected =>
    rw [hexpected] at htake
    dsimp only at htake
    split_ifs at htake <;> cases htake
  | none =>
    rw [hexpected] at h htake
    dsimp only at htake
    split_ifs at htake with hfull
    · cases hvalid : validateFrameLength (ofBigEndian (d.header ++ [b])) d.maximum with
      | error e =>
        rw [hvalid] at htake
        cases htake
        exact ⟨by rw [length_append, length_singleton]; exact hfull, h.1, rfl⟩
      | ok _ =>
        rw [hvalid] at htake
        cases htake
    · cases htake

/-- What a stream leaves of a well-formed decoder. -/
theorem feed_wellFormed (h : d.WellFormed) (bytes : Bytes) :
    (decoder.feed d bytes).state.maximum = d.maximum ∧
      match (decoder.feed d bytes).failure with
      | none => (decoder.feed d bytes).state.WellFormed ∧
          (decoder.feed d bytes).state.failed = d.failed
      | some _ => (decoder.feed d bytes).state.header.length = lengthPrefixBytes ∧
          (decoder.feed d bytes).state.payload = [] := by
  induction bytes generalizing d with
  | nil => exact ⟨rfl, h, rfl⟩
  | cons b bs ih =>
    rcases htake : decoder.take d b with ⟨d', e | frames⟩
    · rw [feed_cons_error htake]
      obtain ⟨hheader, hpayload, hmaximum⟩ := take_error h htake
      exact ⟨hmaximum, hheader, hpayload⟩
    · rw [feed_cons_ok htake]
      obtain ⟨hnext, hmaximum, hfailed⟩ := take_ok h htake
      obtain ⟨hlimit, hrest⟩ := ih hnext
      refine ⟨hlimit.trans hmaximum, ?_⟩
      rw [hfailed] at hrest
      exact hrest

/-! ## A push takes the bytes of its chunk -/

/-- What one turn of the loop has done to the bytes that it took. -/
def turned : FrameDecoder × Bytes × Except FrameError (Option Bytes) →
    Fed FrameDecoder Bytes FrameError
  | (d, _, .ok frame) => { state := d, emitted := frame.toList, failure := none }
  | (d, _, .error e) => { state := d, emitted := [], failure := some e }

/-- A turn takes at least one byte, and does what the bytes it takes do one by one. -/
theorem pushStep_feed (h : d.WellFormed) {chunk : Bytes} (hchunk : chunk ≠ []) :
    ∃ taken, taken ≠ [] ∧ chunk = taken ++ (d.pushStep chunk).2.1 ∧
      decoder.feed d taken = turned (d.pushStep chunk) := by
  have hlength : 0 < chunk.length := length_pos_iff.mpr hchunk
  unfold WellFormed at h
  unfold pushStep
  cases hexpected : d.expectedPayloadLength with
  | some expected =>
    rw [hexpected] at h
    obtain ⟨hheader, hshort, -⟩ := h
    dsimp only
    generalize hcopied : min (expected - d.payload.length) chunk.length = copied
    have htaken : (chunk.take copied).length = copied := by
      rw [length_take]
      omega
    have hne : chunk.take copied ≠ [] := ne_nil_of_length_pos (by omega)
    rw [length_append, htaken]
    split_ifs with hfull
    · refine ⟨chunk.take copied, hne, (take_append_drop _ _).symm, ?_⟩
      exact feed_payload_complete hexpected hne (by omega)
    · refine ⟨chunk.take copied, hne, (take_append_drop _ _).symm, ?_⟩
      rw [feed_payload hexpected _ (by rw [htaken]; omega), hexpected]
      rfl
  | none =>
    rw [hexpected] at h
    obtain ⟨hpayload, hshort⟩ := h
    dsimp only
    generalize hcopied : min (lengthPrefixBytes - d.header.length) chunk.length = copied
    have htaken : (chunk.take copied).length = copied := by
      rw [length_take]
      omega
    have hne : chunk.take copied ≠ [] := ne_nil_of_length_pos (by omega)
    rw [length_append, htaken]
    split_ifs with hfull
    · cases hvalid :
        validateFrameLength (ofBigEndian (d.header ++ chunk.take copied)) d.maximum with
      | error e =>
        refine ⟨chunk.take copied, hne, (take_append_drop _ _).symm, ?_⟩
        rw [feed_header_refused hexpected hne (by omega) hvalid, hexpected]
        rfl
      | ok _ =>
        refine ⟨chunk.take copied, hne, (take_append_drop _ _).symm, ?_⟩
        rw [feed_header_complete hexpected _ hne (by omega) hvalid]
        rfl
    · refine ⟨chunk.take copied, hne, (take_append_drop _ _).symm, ?_⟩
      rw [feed_header hexpected _ (by rw [htaken]; omega), hexpected]
      rfl

/-- The result of a stream that has been read to its end or to its failure. -/
def result (fed : Fed FrameDecoder Bytes FrameError) : Except FrameError (List Bytes) :=
  match fed.failure with
  | none => .ok fed.emitted
  | some e => .error e

/-- The loop ends, and does what the bytes of the chunk do one by one. -/
theorem pushValid_feed {fuel : Nat} (h : d.WellFormed) {chunk : Bytes}
    (hfuel : chunk.length ≤ fuel) (frames : List Bytes) :
    d.pushValid fuel chunk frames =
      ((decoder.feed d chunk).state, some ((result (decoder.feed d chunk)).map (frames ++ ·))) := by
  induction fuel generalizing d chunk frames with
  | zero =>
    obtain rfl := eq_nil_of_length_eq_zero (Nat.le_zero.mp hfuel)
    simp [pushValid, result, Except.map]
  | succ fuel ih =>
    cases chunk with
    | nil => simp [pushValid, result, Except.map]
    | cons b bs =>
      obtain ⟨taken, hne, hsplit, hfeed⟩ := pushStep_feed h (cons_ne_nil b bs)
      rw [pushValid]
      rcases hstep : d.pushStep (b :: bs) with ⟨d', rest, e | frame⟩
      · rw [hstep] at hsplit hfeed
        have hfailure : (decoder.feed d taken).failure = some e := by rw [hfeed]; rfl
        rw [hsplit, feed_append_of_failure hfailure, hfeed]
        rfl
      · rw [hstep] at hsplit hfeed
        have hnone : (decoder.feed d taken).failure = none := by rw [hfeed]; rfl
        have hnext : d'.WellFormed := by
          have hkept := feed_wellFormed h taken
          rw [hfeed] at hkept
          exact hkept.2.1
        have hshorter : rest.length ≤ fuel := by
          have hlengths := congrArg length hsplit
          have hpositive := length_pos_iff.mpr hne
          rw [length_append, length_cons] at hlengths
          rw [length_cons] at hfuel
          dsimp only at hlengths
          omega
        dsimp only
        rw [ih hnext hshorter, hsplit, feed_append hnone, hfeed]
        unfold result turned
        dsimp only
        cases (decoder.feed d' rest).failure <;> simp [Except.map]

/-- A push is what the bytes of its chunk do one by one. -/
theorem push_feed (h : d.WellFormed) (hvalid : d.failed = false) (chunk : Bytes) :
    d.push chunk =
      ({ (decoder.feed d chunk).state with failed := (decoder.feed d chunk).failure.isSome },
        some (result (decoder.feed d chunk))) := by
  have hfed := feed_wellFormed h chunk
  unfold push
  rw [hvalid, pushValid_feed h (Nat.le_refl _)]
  unfold result
  cases hfailure : (decoder.feed d chunk).failure with
  | some e => rfl
  | none =>
    rw [hfailure] at hfed
    have hstate : ({ (decoder.feed d chunk).state with failed := false } : FrameDecoder) =
        (decoder.feed d chunk).state := by
      rw [← hvalid, ← hfed.2.2]
    simp [Except.map, hstate]

/-! ## Streams in chunks -/

/-- The decoder as a machine that is pushed one chunk after the other. -/
def machine : Machine FrameDecoder Bytes (Option (Except FrameError (List Bytes))) where
  step := push

/-- The frames that a push has returned. -/
def returned : Option (Except FrameError (List Bytes)) → List Bytes
  | some (.ok frames) => frames
  | _ => []

/-- The error that a push has returned. -/
def refused : Option (Except FrameError (List Bytes)) → Option FrameError
  | some (.error e) => some e
  | _ => none

/-- The frames that the chunks of a stream yield. -/
def frames (d : FrameDecoder) (chunks : List Bytes) : List Bytes :=
  (machine.trace d chunks).flatMap fun e => returned e.output

/-- The first error that the chunks of a stream yield. -/
def firstError (d : FrameDecoder) (chunks : List Bytes) : Option FrameError :=
  (machine.trace d chunks).findSome? fun e => refused e.output

/-- Chunks after a failure are refused and change nothing. -/
theorem run_failed (h : d.failed = true) (chunks : List Bytes) :
    machine.run d chunks = d ∧
      ∀ e ∈ machine.trace d chunks, e.output = some (.error .failed) := by
  induction chunks with
  | nil => exact ⟨rfl, forall_mem_nil _⟩
  | cons chunk chunks ih =>
    have hpush : machine.step d chunk = (d, some (.error .failed)) := by
      change d.push chunk = _
      rw [push, if_pos h]
    rw [Machine.run_cons, Machine.trace_cons, hpush]
    refine ⟨ih.1, forall_mem_cons.mpr ⟨?_, ih.2⟩⟩
    rw [Machine.occurrence_output, hpush]

/-- The run over the chunks is what the incremental decoder makes of them. -/
theorem run_pushAll (h : d.WellFormed) (hvalid : d.failed = false) (chunks : List Bytes) :
    machine.run d chunks =
        { (decoder.pushAll d chunks).state with
          failed := (decoder.pushAll d chunks).failure.isSome } ∧
      d.frames chunks = (decoder.pushAll d chunks).emitted ∧
      d.firstError chunks = (decoder.pushAll d chunks).failure ∧
      ∀ e ∈ machine.trace d chunks, e.output ≠ none := by
  induction chunks generalizing d with
  | nil =>
    refine ⟨?_, rfl, rfl, forall_mem_nil _⟩
    change d = { d with failed := false }
    rw [← hvalid]
  | cons chunk chunks ih =>
    have hpush : machine.step d chunk = _ := push_feed h hvalid chunk
    have hfed := feed_wellFormed h chunk
    unfold frames firstError
    rw [pushAll, Machine.run_cons, Machine.trace_cons, flatMap_cons,
      findSome?_cons, Machine.occurrence_output, hpush]
    unfold result
    cases hfailure : (decoder.feed d chunk).failure with
    | some e =>
      obtain ⟨hrun, hrest⟩ := run_failed
        (d := { (decoder.feed d chunk).state with failed := true }) rfl chunks
      refine ⟨hrun, ?_, rfl, forall_mem_cons.mpr ⟨?_, fun e' he' => ?_⟩⟩
      · rw [flatMap_eq_nil_iff.mpr fun e' he' => by rw [hrest e' he']; rfl]
        rfl
      · rw [Machine.occurrence_output, hpush]
        exact Option.some_ne_none _
      · rw [hrest e' he']
        exact Option.some_ne_none _
    | none =>
      rw [hfailure] at hfed
      obtain ⟨-, hnext, hstill⟩ := hfed
      have hsame : ({ (decoder.feed d chunk).state with failed := false } : FrameDecoder) =
          (decoder.feed d chunk).state := by
        rw [← hvalid, ← hstill]
      obtain ⟨hrun, hframes, herror, htotal⟩ := ih hnext (hstill.trans hvalid)
      rw [Option.isSome_none, hsame]
      refine ⟨hrun, ?_, herror, forall_mem_cons.mpr ⟨?_, htotal⟩⟩
      · exact congrArg ((decoder.feed d chunk).emitted ++ ·) hframes
      · rw [Machine.occurrence_output, hpush]
        exact Option.some_ne_none _

/-- A decoder with a limit is well formed. -/
theorem withLimit_eq_ok {maximum : Nat} (h : withLimit maximum = .ok d) :
    d = { new with maximum } ∧ 0 < maximum ∧ maximum ≤ u32Max := by
  unfold withLimit validateLimit at h
  split_ifs at h with hlimit
  · cases h
  · cases h
    exact ⟨rfl, by omega, by omega⟩

/-- The frame of a payload, byte by byte. -/
theorem feed_frame (hheader : d.header = []) (hexpected : d.expectedPayloadLength = none)
    (hpayload : d.payload = []) (hlimit : d.maximum ≤ u32Max) {payload : Bytes}
    (hpositive : 0 < payload.length) (hbound : payload.length ≤ d.maximum) :
    decoder.feed d (bigEndian lengthPrefixBytes payload.length ++ payload) =
      { state := d, emitted := [payload], failure := none } := by
  have hextends : ofBigEndian (bigEndian lengthPrefixBytes payload.length) = payload.length := by
    apply ofBigEndian_bigEndian
    exact Nat.lt_of_le_of_lt (hbound.trans hlimit) (by decide)
  have hlength := feed_header_complete hexpected (bigEndian lengthPrefixBytes payload.length)
    (ne_nil_of_length_pos (by rw [length_bigEndian]; decide))
    (by rw [hheader, length_bigEndian]; rfl)
    (by
      rw [hheader, nil_append, hextends]
      exact validateFrameLength_eq_ok.mpr ⟨hpositive, hbound⟩)
  rw [hheader, nil_append, hextends] at hlength
  rw [feed_append (by rw [hlength]), hlength]
  have hrest : ({ d with header := [], expectedPayloadLength := some payload.length } :
      FrameDecoder).expectedPayloadLength = some payload.length := rfl
  rw [feed_payload_complete hrest
    (ne_nil_of_length_pos hpositive) (by dsimp only; rw [hpayload]; exact Nat.zero_add _)]
  cases d
  simp_all

/-- Payloads within the limit can be encoded, and their frames yield them. -/
theorem feed_frames (hheader : d.header = []) (hexpected : d.expectedPayloadLength = none)
    (hpayload : d.payload = []) (hpositive : 0 < d.maximum) (hlimit : d.maximum ≤ u32Max)
    {payloads : List Bytes} (hvalid : ∀ p ∈ payloads, 1 ≤ p.length ∧ p.length ≤ d.maximum) :
    ∃ encoded, payloads.mapM (fun p => encodeFrameWithLimit p d.maximum) = .ok encoded ∧
      decoder.feed d encoded.flatten = { state := d, emitted := payloads, failure := none } := by
  induction payloads with
  | nil => exact ⟨[], rfl, rfl⟩
  | cons p ps ih =>
    obtain ⟨⟨hp, hbound⟩, hps⟩ := forall_mem_cons.mp hvalid
    obtain ⟨encoded, hencoded, hfeed⟩ := ih hps
    have hencode : encodeFrameWithLimit p d.maximum =
        .ok (bigEndian lengthPrefixBytes p.length ++ p) := by
      have hfits : ¬ u32Max < p.length := by omega
      unfold encodeFrameWithLimit validateLimit
      rw [if_neg (by omega), validateFrameLength_eq_ok.mpr ⟨hp, hbound⟩, if_neg hfits]
      rfl
    refine ⟨(bigEndian lengthPrefixBytes p.length ++ p) :: encoded, ?_, ?_⟩
    · rw [mapM_cons, hencode, hencoded]
      rfl
    · have hframe := feed_frame hheader hexpected hpayload hlimit hp hbound
      rw [flatten_cons, feed_append (by rw [hframe]), hframe, hfeed]
      rfl

/-- The bytes that a decoder holds are those of an unfinished length or payload. -/
theorem bufferedBytes_run (h : d.WellFormed) (hvalid : d.failed = false) (chunks : List Bytes) :
    (machine.run d chunks).bufferedBytes ≤ max lengthPrefixBytes d.maximum := by
  obtain ⟨hfailure, hstate, -⟩ := decoder.pushAll_spec d chunks
  rw [(run_pushAll h hvalid chunks).1, hstate]
  obtain ⟨hmaximum, hfed⟩ := feed_wellFormed h chunks.flatten
  change (decoder.feed d chunks.flatten).state.bufferedBytes ≤ _
  generalize (decoder.feed d chunks.flatten).state = reached at hmaximum hfed ⊢
  unfold bufferedBytes
  cases hnone : (decoder.feed d chunks.flatten).failure with
  | some e =>
    rw [hnone] at hfed
    rw [hfed.1, hfed.2, length_nil]
    exact le_max_left _ _
  | none =>
    rw [hnone] at hfed
    have hwell := hfed.1
    unfold WellFormed at hwell
    cases hexpected : reached.expectedPayloadLength with
    | some expected =>
      rw [hexpected] at hwell
      obtain ⟨hheader, hshort, hlimit⟩ := hwell
      rw [hheader, length_nil]
      omega
    | none =>
      rw [hexpected] at hwell
      obtain ⟨hpayload, hshort⟩ := hwell
      rw [hpayload, length_nil]
      omega

/-- Frames are decoded whatever the chunks are.  For every limit: the frames of payloads within
the limit yield these payloads however the stream is cut; for any stream the frames of the chunks
before the first refused one are those of their bytes in one chunk, and whether a chunk is refused
depends on the bytes of the whole stream; every push returns; the bytes held fit a length or the
limit; and after an error everything is refused. -/
theorem frame_decoding {maximum : Nat} (hlimit : withLimit maximum = .ok d) :
    (∀ payloads : List Bytes, (∀ p ∈ payloads, 1 ≤ p.length ∧ p.length ≤ maximum) →
      ∃ encoded, payloads.mapM (fun p => encodeFrameWithLimit p maximum) = .ok encoded ∧
        ∀ chunks : List Bytes, chunks.flatten = encoded.flatten →
          d.frames chunks = payloads ∧ d.firstError chunks = none ∧
            (machine.run d chunks).finish = .ok ()) ∧
    (∀ chunks : List Bytes,
      d.firstError chunks = d.firstError [chunks.flatten] ∧
      ∃ before rest, chunks = before ++ rest ∧ d.firstError before = none ∧
        d.frames chunks = d.frames [before.flatten] ∧
        match d.firstError chunks with
        | none => rest = []
        | some e => ∃ failing after, rest = failing :: after ∧
            d.firstError [(before ++ [failing]).flatten] = some e) ∧
    (∀ chunks : List Bytes,
      (∀ e ∈ machine.trace d chunks, e.output ≠ none) ∧
      (machine.run d chunks).bufferedBytes ≤ max lengthPrefixBytes maximum ∧
      (d.firstError chunks ≠ none →
        (machine.run d chunks).finish = .error .failed ∧
        ∀ later : List Bytes,
          (machine.run d (chunks ++ later)).finish = .error .failed ∧
          ∀ e ∈ machine.trace (machine.run d chunks) later, e.output = some (.error .failed))) := by
  obtain ⟨hnew, hpositive, hfits⟩ := withLimit_eq_ok hlimit
  have hmaximum : d.maximum = maximum := by rw [hnew]
  have hwell : d.WellFormed := by
    rw [hnew]
    exact ⟨rfl, Nat.zero_lt_succ 3⟩
  have hvalid : d.failed = false := by rw [hnew]; rfl
  have hrun := run_pushAll hwell hvalid
  have hspec := decoder.pushAll_spec d
  have hone : ∀ stream, d.frames [stream] = (decoder.pushAll d [stream]).emitted ∧
      d.firstError [stream] = (decoder.feed d stream).failure := by
    intro stream
    obtain ⟨-, hframes, herror, -⟩ := hrun [stream]
    refine ⟨hframes, herror.trans ?_⟩
    have hstream := (hspec [stream]).1
    rwa [flatten_singleton] at hstream
  refine ⟨fun payloads hpayloads => ?_, fun chunks => ?_, fun chunks => ?_⟩
  · rw [← hmaximum] at hpayloads hpositive hfits
    obtain ⟨encoded, hencoded, hfeed⟩ := feed_frames (d := d) (by rw [hnew]; rfl)
      (by rw [hnew]; rfl) (by rw [hnew]; rfl) hpositive hfits hpayloads
    rw [hmaximum] at hencoded
    refine ⟨encoded, hencoded, fun chunks hchunks => ?_⟩
    obtain ⟨hreached, hframes, herror, -⟩ := hrun chunks
    obtain ⟨hfailure, hstate, before, rest, hsplit, -, hemitted, hdone, -⟩ := hspec chunks
    rw [hchunks, hfeed] at hfailure hstate
    obtain rfl := hdone hfailure
    rw [append_nil] at hsplit
    rw [← hsplit, hchunks, hfeed] at hemitted
    refine ⟨hframes.trans hemitted, herror.trans hfailure, ?_⟩
    rw [hreached, hfailure, hstate, hnew]
    rfl
  · obtain ⟨-, hframes, herror, -⟩ := hrun chunks
    obtain ⟨hfailure, -, before, rest, hsplit, hbefore, hemitted, hdone, hfails⟩ := hspec chunks
    refine ⟨by rw [herror, hfailure, (hone _).2], before, rest, hsplit, ?_, ?_, ?_⟩
    · rw [(hrun before).2.2.1, (hspec before).1, hbefore]
    · rw [hframes, hemitted, (hone _).1, pushAll]
      simp only [hbefore]
      exact (append_nil _).symm
    · rw [herror]
      cases hcase : (decoder.pushAll d chunks).failure with
      | none => exact hdone hcase
      | some e =>
        obtain ⟨failing, after, hrest, hlast⟩ := hfails (hcase ▸ Option.some_ne_none e)
        exact ⟨failing, after, hrest, by rw [(hone _).2, hlast, hcase]⟩
  · obtain ⟨hreached, -, herror, htotal⟩ := hrun chunks
    refine ⟨htotal, hmaximum ▸ bufferedBytes_run hwell hvalid chunks, fun hne => ?_⟩
    have hfailed : (machine.run d chunks).failed = true := by
      rw [hreached]
      rw [herror] at hne
      exact Option.isSome_iff_ne_none.mpr hne
    refine ⟨if_pos hfailed, fun later => ?_⟩
    obtain ⟨hkept, hrefused⟩ := run_failed hfailed later
    rw [Machine.run_append, hkept]
    exact ⟨if_pos hfailed, hrefused⟩

/-- The theorem at a limit of three bytes. -/
theorem frame_decoding_sample :
    withLimit 3 = .ok { new with maximum := 3 } ∧
      (∀ chunks : List Bytes,
        chunks.flatten = [0, 0, 0, 1, 7, 0, 0, 0, 2, 8, 9] →
          FrameDecoder.frames { new with maximum := 3 } chunks = [[7], [8, 9]]) := by
  refine ⟨rfl, fun chunks hchunks => ?_⟩
  have hlimit : withLimit 3 = .ok { new with maximum := 3 } := rfl
  obtain ⟨encoded, hencoded, hall⟩ := (frame_decoding hlimit).1 [[7], [8, 9]] (by decide)
  have hbytes : encoded = [[0, 0, 0, 1, 7], [0, 0, 0, 2, 8, 9]] :=
    (Except.ok.inj hencoded).symm
  exact (hall chunks (by rw [hchunks, hbytes]; rfl)).1

end FrameDecoder

end Protocol

end Roammand
