import HyperliquidSdk.Foundation.Bytes

/-!
# Decompression of messages

`WebsocketParsingUtils`: base64, and the loop around zlib for raw DEFLATE. Of zlib it is
assumed that a call which returns `Z_OK` has made progress.
-/

set_option autoImplicit false

namespace HyperliquidSdk.Websocket

open Foundation

/-! ## Base64 -/

def base64Alphabet : Bytes :=
  utf8 "ABCDEFGHIJKLMNOPQRSTUVWXYZabcdefghijklmnopqrstuvwxyz0123456789+/"

/-- `table[c]`, if it is not -1. -/
def base64Digit (c : UInt8) : Option Nat :=
  let digit := base64Alphabet.idxOf c
  if digit < 64 then some digit else none

structure Base64State where
  val : Int32 := 0
  bits : Int := -8
  out : Bytes := []

/-- The accumulator is never masked. -/
def Base64State.push (state : Base64State) (c : UInt8) : Base64State :=
  match base64Digit c with
  | none => state
  | some digit =>
      let val := (state.val <<< 6) + .ofNat digit
      let bits := state.bits + 6
      if 0 ≤ bits then
        { val, bits := bits - 8, out := state.out ++ [(val >>> .ofInt bits).toInt8.toUInt8] }
      else { state with val, bits }

def base64Decode (input : Bytes) : Bytes :=
  (input.foldl Base64State.push {}).out

/-! ## Inflate -/

/-- What a call of `inflate` returns; `failed` stands for all other codes. -/
inductive InflateStatus where
  | ok
  | streamEnd
  | bufError
  | failed
  deriving DecidableEq, Repr

/-- `inflate` is given the free space of the output buffer and returns what it wrote. -/
structure Zlib where
  Stream : Type
  inflateInit2 : Bytes → Option Stream
  inflate : Stream → Nat → InflateStatus × Bytes × Stream
  /-- The input that is not consumed and the output that is not written. -/
  remaining : Stream → Nat
  progress : ∀ {stream next : Stream} {available : Nat} {written : Bytes},
    inflate stream available = (.ok, written, next) → remaining next < remaining stream

def inflateBufferSize : Nat := 4096

/-- The loop: is the end of the stream reached, and the output. -/
def inflateFrom (zlib : Zlib) (stream : zlib.Stream) (out : Bytes) : Bool × Bytes :=
  match _ : zlib.inflate stream inflateBufferSize with
  | (.ok, written, next) => inflateFrom zlib next (out ++ written)
  | (.streamEnd, written, _) => (true, out ++ written)
  | (.bufError, written, _) => (false, out ++ written)
  | (.failed, _, _) => (false, out)
termination_by zlib.remaining stream
decreasing_by exact zlib.progress ‹_›

/-- `next_in`, with `avail_in`: the size is cast to a `uInt`. -/
def availableInput (compressed : Bytes) : Bytes :=
  compressed.take (UInt32.ofNat compressed.length).toNat

def inflateRawDeflate (zlib : Zlib) (compressed out : Bytes) : Bool × Bytes :=
  match zlib.inflateInit2 (availableInput compressed) with
  | none => (false, out)
  | some stream => inflateFrom zlib stream out

end HyperliquidSdk.Websocket
