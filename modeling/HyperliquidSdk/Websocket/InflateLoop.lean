import HyperliquidSdk.Foundation.Inflation
import HyperliquidSdk.Websocket.MessageIsolation

/-!
# The loop around `inflate`

`inflateRawDeflate` calls `inflate` with a buffer of fixed size until the stream is at its
end. What it appends is compared with what the data decompresses to.
-/

set_option autoImplicit false

namespace HyperliquidSdk.Websocket

open Foundation

/-- A call of `inflate` with so much space. `rest` is what the stream still decompresses to. -/
structure InflateCall {Stream : Type} (availIn : Stream → Nat) (rest : Stream → Inflation)
    (stream : Stream) (available : Nat) (status : InflateStatus) (written : Bytes)
    (next : Stream) : Prop where
  fits : written.length ≤ available
  consumes : availIn next ≤ availIn stream
  writes : status ≠ .failed → rest stream = (rest next).after written
  progress : status = .ok → availIn next < availIn stream ∨ written ≠ []
  streamEnd : status = .streamEnd → rest next = ⟨[], .complete⟩
  /-- With space, there is no progress only where the input stops before the end. -/
  bufError : status = .bufError → 0 < available → rest stream = ⟨[], .truncated⟩
  failed : status = .failed → (rest stream).ending = .corrupt

/-- zlib as it documents itself, for a format. -/
structure Inflater (format : Decompressor) where
  Stream : Type
  inflateInit2 : Bytes → Option Stream
  inflate : Stream → Nat → InflateStatus × Bytes × Stream
  availIn : Stream → Nat
  rest : Stream → Inflation
  /-- The input is set after the initialisation, which does not depend on it. -/
  initialises : ∀ first second : Bytes, (inflateInit2 first).isSome = (inflateInit2 second).isSome
  opens : ∀ {compressed : Bytes} {stream : Stream}, inflateInit2 compressed = some stream →
    rest stream = format.decompress compressed
  calls : ∀ {stream next : Stream} {available : Nat} {status : InflateStatus} {written : Bytes},
    inflate stream available = (status, written, next) →
      InflateCall availIn rest stream available status written next

/-! ## Termination -/

namespace Inflater

variable {format : Decompressor} (inflater : Inflater format)

/-- The input that is not consumed and the output that is not written. -/
def remaining (stream : inflater.Stream) : Nat :=
  inflater.availIn stream + (inflater.rest stream).output.length

theorem remaining_lt {stream next : inflater.Stream} {available : Nat} {written : Bytes}
    (call : inflater.inflate stream available = (.ok, written, next)) :
    inflater.remaining next < inflater.remaining stream := by
  have documented := inflater.calls call
  have consumes := documented.consumes
  have written_length : (inflater.rest stream).output.length =
      written.length + (inflater.rest next).output.length := by
    rw [documented.writes (by decide), Inflation.after_output, List.length_append]
  unfold remaining
  rcases documented.progress rfl with consumed | wrote
  · omega
  · have positive := List.length_pos_iff.mpr wrote
    omega

/-- Because of the progress of each call, the loop ends. -/
def zlib : Zlib where
  Stream := inflater.Stream
  inflateInit2 := inflater.inflateInit2
  inflate := inflater.inflate
  remaining := inflater.remaining
  progress := inflater.remaining_lt

end Inflater

/-- The loop with at most so many calls of `inflate`, if it is at its end by then. -/
def inflateWithin {Stream : Type} (inflate : Stream → Nat → InflateStatus × Bytes × Stream) :
    Nat → Stream → Bytes → Option (Bool × Bytes)
  | 0, _, _ => none
  | calls + 1, stream, out =>
      match inflate stream inflateBufferSize with
      | (.ok, written, next) => inflateWithin inflate calls next (out ++ written)
      | (.streamEnd, written, _) => some (true, out ++ written)
      | (.bufError, written, _) => some (false, out ++ written)
      | (.failed, _, _) => some (false, out)

theorem inflateWithin_eq (zlib : Zlib) (calls : Nat) {stream : zlib.Stream} (out : Bytes)
    (enough : zlib.remaining stream < calls) :
    inflateWithin zlib.inflate calls stream out = some (inflateFrom zlib stream out) := by
  induction calls generalizing stream out with
  | zero => cases enough
  | succ calls ih =>
      fun_cases inflateFrom zlib stream out with
      | case1 written next call =>
          rw [inflateWithin, call]
          exact ih (out ++ written) (by have := zlib.progress call; omega)
      | case2 written next call => rw [inflateWithin, call]
      | case3 written next call => rw [inflateWithin, call]
      | case4 written next call => rw [inflateWithin, call]

/-! ## The whole output -/

/-- What the loop makes of the inflation that is still to come. -/
structure Collects (inflation : Inflation) (out : Bytes) (result : Bool × Bytes) : Prop where
  finished : result.1 = true ↔ inflation.ending = .complete
  appended : ∃ part, part <+: inflation.output ∧ result.2 = out ++ part
  whole : inflation.ending ≠ .corrupt → result.2 = out ++ inflation.output

theorem Collects.after {inflation : Inflation} {out written : Bytes} {result : Bool × Bytes}
    (collects : Collects inflation (out ++ written) result) :
    Collects (inflation.after written) out result where
  finished := collects.finished
  appended := by
    obtain ⟨part, isPrefix, isOutput⟩ := collects.appended
    refine ⟨written ++ part, (List.prefix_append_right_inj written).mpr isPrefix, ?_⟩
    rw [isOutput, List.append_assoc]
  whole sound := by
    rw [collects.whole sound, Inflation.after_output, List.append_assoc]

theorem Collects.exactly (inflation : Inflation) (out : Bytes) {finished : Bool}
    (isFinished : finished = true ↔ inflation.ending = .complete) :
    Collects inflation out (finished, out ++ inflation.output) :=
  ⟨isFinished, ⟨inflation.output, List.prefix_rfl, rfl⟩, fun _ => rfl⟩

namespace Inflater

variable {format : Decompressor} (inflater : Inflater format)

theorem inflateFrom_collects (stream : inflater.Stream) (out : Bytes) :
    Collects (inflater.rest stream) out (inflateFrom inflater.zlib stream out) := by
  -- on the calls of the loop: what a call writes goes from the rest to the output
  fun_induction inflateFrom inflater.zlib stream out with
  | case1 stream out written next call ih =>
      rw [(inflater.calls call).writes (by decide)]
      exact ih.after
  | case2 stream out written next call =>
      have documented := inflater.calls call
      rw [documented.writes (by decide)]
      have last := Collects.exactly ⟨[], .complete⟩ (out ++ written) (iff_of_true rfl rfl)
      rw [List.append_nil] at last
      exact (documented.streamEnd rfl ▸ last).after
  | case3 stream out written next call =>
      have documented := inflater.calls call
      have stopped := documented.bufError rfl (by decide)
      have nothing : written = [] := by
        have same := congrArg Inflation.output (documented.writes (by decide))
        rw [stopped, Inflation.after_output] at same
        exact (List.append_eq_nil_iff.mp same.symm).1
      rw [stopped, nothing]
      exact .exactly ⟨[], .truncated⟩ out (by decide)
  | case4 stream out written next call =>
      have isCorrupt := (inflater.calls call).failed rfl
      refine ⟨?_, ⟨[], List.nil_prefix, (List.append_nil out).symm⟩, fun sound => ?_⟩
      · exact iff_of_false Bool.false_ne_true (by rw [isCorrupt]; decide)
      · exact absurd isCorrupt sound

/-- The stream is opened, and the data decompresses up to its end. -/
def ReachesEnd (compressed : Bytes) : Prop :=
  (inflater.inflateInit2 compressed).isSome ∧ (format.decompress compressed).ending = .complete

theorem inflateRawDeflate_available (compressed out : Bytes) :
    ((inflateRawDeflate inflater.zlib compressed out).1 = true ↔
      inflater.ReachesEnd (availableInput compressed)) ∧
    ((inflateRawDeflate inflater.zlib compressed out).1 = true →
      (inflateRawDeflate inflater.zlib compressed out).2 =
        out ++ (format.decompress (availableInput compressed)).output) := by
  have opening : inflater.zlib.inflateInit2 = inflater.inflateInit2 := rfl
  unfold inflateRawDeflate ReachesEnd
  rw [opening]
  cases opened : inflater.inflateInit2 (availableInput compressed) with
  | none => exact ⟨by simp, by simp⟩
  | some stream =>
      have collects := inflater.inflateFrom_collects stream out
      rw [inflater.opens opened] at collects
      refine ⟨collects.finished.trans (by simp), fun finished => collects.whole ?_⟩
      rw [collects.finished.mp finished]
      decide

theorem terminates (compressed out : Bytes) {stream : inflater.Stream}
    (opened : inflater.inflateInit2 (availableInput compressed) = some stream) {calls : Nat}
    (enough : inflater.remaining stream < calls) :
    inflateWithin inflater.inflate calls stream out =
      some (inflateRawDeflate inflater.zlib compressed out) := by
  have isStream : inflater.zlib.inflateInit2 (availableInput compressed) = some stream := opened
  rw [inflateRawDeflate, isStream]
  exact inflateWithin_eq inflater.zlib calls out enough

end Inflater

/-! ## The cast of the size -/

theorem availableInput_of_short {compressed : Bytes} (short : compressed.length < 2 ^ 32) :
    availableInput compressed = compressed := by
  rw [availableInput, UInt32.toNat_ofNat', Nat.mod_eq_of_lt short, List.take_length]

namespace Inflater

variable {format : Decompressor} (inflater : Inflater format)

/-- What reaches its end does so with anything behind it. -/
theorem ReachesEnd.append {compressed : Bytes} (reaches : inflater.ReachesEnd compressed)
    (more : Bytes) :
    inflater.ReachesEnd (compressed ++ more) ∧
      format.decompress (compressed ++ more) = format.decompress compressed := by
  have same := format.endsItself more reaches.2
  refine ⟨⟨?_, same ▸ reaches.2⟩, same⟩
  rw [inflater.initialises (compressed ++ more) compressed]
  exact reaches.1

theorem ReachesEnd.of_available {compressed : Bytes}
    (reaches : inflater.ReachesEnd (availableInput compressed)) :
    inflater.ReachesEnd compressed ∧
      format.decompress compressed = format.decompress (availableInput compressed) := by
  have split : availableInput compressed ++
      compressed.drop (UInt32.ofNat compressed.length).toNat = compressed :=
    List.take_append_drop _ compressed
  have whole := reaches.append inflater (compressed.drop (UInt32.ofNat compressed.length).toNat)
  rw [split] at whole
  exact whole

/-- The loop ends, and it gives what the data decompresses to in one piece. -/
structure IsOneShot (compressed out : Bytes) : Prop where
  terminates : ∀ stream, inflater.inflateInit2 (availableInput compressed) = some stream →
    ∀ calls, inflater.remaining stream < calls →
      inflateWithin inflater.inflate calls stream out =
        some (inflateRawDeflate inflater.zlib compressed out)
  reachesEnd : (inflateRawDeflate inflater.zlib compressed out).1 = true ↔
    inflater.ReachesEnd compressed
  whole : (inflateRawDeflate inflater.zlib compressed out).1 = true →
    (inflateRawDeflate inflater.zlib compressed out).2 =
      out ++ (format.decompress compressed).output

theorem isOneShot_of_available {compressed : Bytes} (out : Bytes)
    (inside : inflater.ReachesEnd compressed → inflater.ReachesEnd (availableInput compressed)) :
    inflater.IsOneShot compressed out := by
  obtain ⟨finished, whole⟩ := inflater.inflateRawDeflate_available compressed out
  refine ⟨fun stream opened calls enough => inflater.terminates compressed out opened enough,
    ⟨fun ended => ?_, fun reaches => finished.mpr (inside reaches)⟩, fun ended => ?_⟩
  · exact ((finished.mp ended).of_available inflater).1
  · rw [whole ended, ((finished.mp ended).of_available inflater).2]

/-- An input whose size is a `uInt`. -/
theorem isOneShot_of_short {compressed : Bytes} (short : compressed.length < 2 ^ 32)
    (out : Bytes) : inflater.IsOneShot compressed out :=
  inflater.isOneShot_of_available out fun reaches => (availableInput_of_short short).symm ▸ reaches

/-- The end has to come before that of the input whose size is cast. -/
theorem isOneShot_iff (compressed out : Bytes) :
    inflater.IsOneShot compressed out ↔
      (inflater.ReachesEnd compressed → inflater.ReachesEnd (availableInput compressed)) := by
  constructor
  · intro oneShot reaches
    exact (inflater.inflateRawDeflate_available compressed out).1.mp
      (oneShot.reachesEnd.mpr reaches)
  · exact inflater.isOneShot_of_available out

end Inflater

/-! ## The payload of a message -/

theorem Base64State.push_length (state : Base64State) (c : UInt8) :
    (state.push c).out.length ≤ state.out.length + 1 := by
  unfold Base64State.push
  cases base64Digit c with
  | none => exact Nat.le_succ _
  | some digit =>
      dsimp only
      split_ifs
      · exact Nat.le_of_eq List.length_append
      · exact Nat.le_succ _

theorem base64Decode_length_le (input : Bytes) : (base64Decode input).length ≤ input.length := by
  have loop (input : Bytes) : ∀ state : Base64State,
      (input.foldl Base64State.push state).out.length ≤ state.out.length + input.length := by
    induction input with
    | nil => exact fun state => Nat.le_refl _
    | cons c input ih =>
        intro state
        have step := state.push_length c
        have others := ih (state.push c)
        rw [List.foldl_cons, List.length_cons]
        omega
  exact Nat.le_trans (loop input {}) (Nat.le_of_eq (Nat.zero_add _))

/-- The contexts are read from the whole of what their payload decompresses to, as a message
has fewer than `2 ^ 32` bytes. -/
theorem inflated_eq_some_iff {format : Decompressor} (inflater : Inflater format)
    {parser : WebsocketMessageParser} (documented : parser.zlib = inflater.zlib)
    {base64Data text : Bytes} (short : base64Data.length < 2 ^ 32) :
    parser.inflated base64Data = some text ↔
      inflater.ReachesEnd (base64Decode base64Data) ∧
        (format.decompress (base64Decode base64Data)).output = text := by
  have shortInput := Nat.lt_of_le_of_lt (base64Decode_length_le base64Data) short
  have oneShot : inflater.IsOneShot (base64Decode base64Data) [] :=
    (inflater.isOneShot_iff _ _).mpr fun reaches => by rwa [availableInput_of_short shortInput]
  rw [← oneShot.reachesEnd, WebsocketMessageParser.inflated, documented]
  have whole := oneShot.whole
  cases ran : inflateRawDeflate inflater.zlib (base64Decode base64Data) [] with
  | mk finished decompressed =>
      rw [ran, List.nil_append] at whole
      cases finished with
      | false => simp
      | true =>
          rw [← whole rfl, Option.some_inj]
          exact (and_iff_right rfl).symm

/-! ## An inflater for each format -/

/-- The input that is not read, and what is still to be written. -/
structure PendingInflation where
  availIn : Nat
  rest : Inflation

namespace PendingInflation

/-- Write what fits; the first call reads all the input. -/
def inflate (stream : PendingInflation) (available : Nat) :
    InflateStatus × Bytes × PendingInflation :=
  let written := stream.rest.output.take available
  let output := stream.rest.output.drop available
  let status : InflateStatus :=
    if output = [] ∧ stream.rest.ending = .complete then .streamEnd
    else if output = [] ∧ stream.rest.ending = .corrupt then .failed
    else if written = [] ∧ stream.availIn = 0 then .bufError
    else .ok
  (status, written, { availIn := 0, rest := ⟨output, stream.rest.ending⟩ })

theorem inflate_call {stream next : PendingInflation} {available : Nat} {status : InflateStatus}
    {written : Bytes} (call : stream.inflate available = (status, written, next)) :
    InflateCall availIn rest stream available status written next := by
  obtain ⟨isStatus, same⟩ := Prod.mk.inj call
  obtain ⟨rfl, rfl⟩ := Prod.mk.inj same
  have writes : stream.rest = Inflation.after (stream.rest.output.take available)
      ⟨stream.rest.output.drop available, stream.rest.ending⟩ := by
    rw [Inflation.after, List.take_append_drop]
  refine ⟨List.length_take_le .., Nat.zero_le _, fun _ => writes, ?progress, ?streamEnd,
    ?bufError, ?failed⟩
  case progress =>
    rintro rfl
    split_ifs at isStatus with _ _ still
    rcases not_and_or.mp still with wrote | unread
    · exact .inr wrote
    · exact .inl (Nat.pos_of_ne_zero unread)
  case streamEnd =>
    rintro rfl
    split_ifs at isStatus with ended
    simp only [ended]
  case bufError =>
    rintro rfl space
    split_ifs at isStatus with notEnded notFailed still
    have nothing : stream.rest.output = [] :=
      (List.take_eq_nil_iff.mp still.1).resolve_left (Nat.ne_of_gt space)
    rw [nothing, List.drop_nil] at notEnded notFailed
    obtain ⟨availIn, output, ending⟩ := stream
    cases ending with
    | complete => exact absurd ⟨rfl, rfl⟩ notEnded
    | corrupt => exact absurd ⟨rfl, rfl⟩ notFailed
    | truncated => rw [show output = [] from nothing]
  case failed =>
    rintro rfl
    split_ifs at isStatus with _ failed
    exact failed.2

end PendingInflation

/-- A zlib that decompresses at once and writes as much as it may. -/
def Inflater.ofDecompressor (format : Decompressor) : Inflater format where
  Stream := PendingInflation
  inflateInit2 compressed := some ⟨compressed.length, format.decompress compressed⟩
  inflate := PendingInflation.inflate
  availIn := PendingInflation.availIn
  rest := PendingInflation.rest
  initialises _ _ := rfl
  opens opened := by
    cases opened
    rfl
  calls := PendingInflation.inflate_call

/-- An output that fills the buffer twice. -/
theorem isOneShot_of_short_twoBuffers :
    inflateRawDeflate (Inflater.ofDecompressor storedBlocks).zlib
        (storedBlock true (List.replicate 8192 7)) [] =
      (true, List.replicate 8192 7) := by
  have length : (List.replicate 8192 (7 : UInt8)).length = 8192 := List.length_replicate
  have block := inflateStored_block true (by rw [length]; decide) []
  rw [List.append_nil, if_pos rfl] at block
  have short : (storedBlock true (List.replicate 8192 7)).length < 2 ^ 32 := by
    rw [storedBlock_length, length]
    decide
  have oneShot := (Inflater.ofDecompressor storedBlocks).isOneShot_of_short short []
  have finished := oneShot.reachesEnd.mpr ⟨rfl, congrArg Inflation.ending block⟩
  refine Prod.ext finished ((oneShot.whole finished).trans ?_)
  exact congrArg Inflation.output block

/-- As many blocks as there are bytes in each, which are `2 ^ 32` bytes in all. -/
def manyBlocks : Bytes :=
  ((List.replicate 65535 (List.replicate 65531 0)).map (storedBlock false)).flatten ++
    storedBlock true (List.replicate 65531 0)

theorem manyBlocks_length : manyBlocks.length = 2 ^ 32 := by
  unfold manyBlocks
  rw [List.length_append, List.length_flatten, List.map_map, List.map_replicate,
    List.sum_replicate_nat, Function.comp, storedBlock_length, storedBlock_length,
    List.length_replicate]
  decide

theorem manyBlocks_complete : (inflateStored manyBlocks).ending = .complete := by
  have short : (List.replicate 65531 (0 : UInt8)).length < 2 ^ 16 := by
    rw [List.length_replicate]
    decide
  have last := inflateStored_block true short []
  rw [List.append_nil, if_pos rfl] at last
  unfold manyBlocks
  rw [inflateStored_blocks _ (fun payload present => by rwa [List.eq_of_mem_replicate present]),
    Inflation.after_ending, last]

/-- The size becomes zero, so that none of the bytes is read. -/
theorem manyBlocks_not_oneShot :
    ¬ (Inflater.ofDecompressor storedBlocks).IsOneShot manyBlocks [] := by
  intro oneShot
  have nothing : availableInput manyBlocks = [] := by
    rw [availableInput, manyBlocks_length]
    rfl
  have finished := oneShot.reachesEnd.mpr ⟨rfl, manyBlocks_complete⟩
  have reaches := ((Inflater.ofDecompressor storedBlocks).inflateRawDeflate_available
    manyBlocks []).1.mp finished
  have atOnce : (inflateStored []).ending = .complete := nothing ▸ reaches.2
  have stopped : inflateStored [] = ⟨[], .truncated⟩ := by simp [inflateStored]
  rw [stopped] at atOnce
  cases atOnce

end HyperliquidSdk.Websocket
