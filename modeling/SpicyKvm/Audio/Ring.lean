import Mathlib.Order.Basic

/-!
# Ring buffers

`lg_common/ringbuffer.c` is not part of the sources; `audio.c` uses two of its
rings. The sample ring `audio.playback.buffer` is unbounded and its count is
signed: appending or consuming a negative number of frames moves a position
backwards, which is how `audio.c` slews. The device-tick ring
`audio.playback.deviceTiming` holds at most 16 ticks.

Both are modelled from the spec (§3, §4.1, §4.2). A ring handle is `none`
when it is `NULL` (never allocated, freed, or its allocation failed). An
operation on a `NULL` handle dereferences it in C; the model lets such an
operation do nothing and lets `ringbuffer_getCount` read `0`, so every run of
the C code that does not crash is a run of the model.
-/

namespace SpicyKvm

/-- Modelled from the spec: the sample ring keeps its write and read positions
in frames; the sample values themselves are not modelled. A fresh ring starts
at `0`, so the write position is the signed total appended to it and the read
position the signed total consumed from it. -/
structure SampleRing where
  writePos : Int
  readPos : Int
deriving DecidableEq, Repr

namespace SampleRing

/-- The signed frame count (`ringbuffer_getCount`). Negative while silence is
owed to the consumer. -/
def count (r : SampleRing) : Int := r.writePos - r.readPos

/-- Modelled from the spec: `ringbuffer_append(rb, values, n)` for any signed
`n`; `values = NULL` appends silence, which is the same move of the write
position. -/
def append (r : SampleRing) (n : Int) : SampleRing := { r with writePos := r.writePos + n }

/-- Modelled from the spec: `ringbuffer_consume(rb, dst, n)` for any signed `n`;
frames owed beyond the count are read as silence. -/
def consume (r : SampleRing) (n : Int) : SampleRing := { r with readPos := r.readPos + n }

@[simp] theorem append_writePos (r : SampleRing) (n : Int) :
    (r.append n).writePos = r.writePos + n := rfl
@[simp] theorem append_readPos (r : SampleRing) (n : Int) :
    (r.append n).readPos = r.readPos := rfl
@[simp] theorem consume_writePos (r : SampleRing) (n : Int) :
    (r.consume n).writePos = r.writePos := rfl
@[simp] theorem consume_readPos (r : SampleRing) (n : Int) :
    (r.consume n).readPos = r.readPos + n := rfl

end SampleRing

/-- `ringbuffer_newUnbounded`: an empty ring, or `NULL` when allocation fails. -/
def ringbufferNewUnbounded (ok : Bool) : Option SampleRing :=
  if ok then some ⟨0, 0⟩ else none

/-- `ringbuffer_append` on a possibly `NULL` handle. -/
def ringbufferAppend (rb : Option SampleRing) (n : Int) : Option SampleRing :=
  rb.map (·.append n)

/-- `ringbuffer_consume` on a possibly `NULL` handle. -/
def ringbufferConsume (rb : Option SampleRing) (n : Int) : Option SampleRing :=
  rb.map (·.consume n)

/-- `ringbuffer_getCount` on a possibly `NULL` handle. -/
def ringbufferGetCount (rb : Option SampleRing) : Int :=
  match rb with
  | some r => r.count
  | none => 0

@[simp] theorem ringbufferAppend_none (n : Int) : ringbufferAppend none n = none := rfl
@[simp] theorem ringbufferAppend_some (r : SampleRing) (n : Int) :
    ringbufferAppend (some r) n = some (r.append n) := rfl
@[simp] theorem ringbufferConsume_none (n : Int) : ringbufferConsume none n = none := rfl
@[simp] theorem ringbufferConsume_some (r : SampleRing) (n : Int) :
    ringbufferConsume (some r) n = some (r.consume n) := rfl
@[simp] theorem ringbufferAppend_isSome (rb : Option SampleRing) (n : Int) :
    (ringbufferAppend rb n).isSome = rb.isSome := by cases rb <;> rfl
@[simp] theorem ringbufferConsume_isSome (rb : Option SampleRing) (n : Int) :
    (ringbufferConsume rb n).isSome = rb.isSome := by cases rb <;> rfl

@[simp] theorem ringbufferAppend_zero (rb : Option SampleRing) : ringbufferAppend rb 0 = rb := by
  cases rb <;> simp [SampleRing.append]

theorem ringbufferAppend_append (rb : Option SampleRing) (m n : Int) :
    ringbufferAppend (ringbufferAppend rb m) n = ringbufferAppend rb (m + n) := by
  cases rb <;> simp [SampleRing.append, Int.add_assoc]

/-! ## The bounded tick ring -/

/-- Modelled from the spec: `ringbuffer_push` on a bounded ring of capacity
`cap`. A full ring drops the new element silently (§4.2, "drop-newest");
a `NULL` handle is left alone. -/
def ringbufferPush {α : Type} (cap : Nat) (rb : Option (List α)) (x : α) : Option (List α) :=
  rb.map fun xs => if xs.length < cap then xs ++ [x] else xs

@[simp] theorem ringbufferPush_isSome {α : Type} (cap : Nat) (rb : Option (List α)) (x : α) :
    (ringbufferPush cap rb x).isSome = rb.isSome := by cases rb <;> rfl

/-- A push appends its element or drops it. -/
theorem ringbufferPush_getD_sublist {α : Type} (cap : Nat) (rb : Option (List α)) (x : α) :
    ((ringbufferPush cap rb x).getD []).Sublist (rb.getD [] ++ [x]) := by
  cases rb with
  | none => exact List.nil_sublist _
  | some xs =>
      simp only [ringbufferPush, Option.map_some', Option.getD_some]
      split_ifs
      · exact List.Sublist.refl _
      · exact List.sublist_append_left _ _

end SpicyKvm
