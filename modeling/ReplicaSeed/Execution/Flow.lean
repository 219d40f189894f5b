/-!
# Flows of bytes

What goes through a pipe: pieces of bytes, each with the time when it was written, and the time when
the last writer closed the pipe. Times are milliseconds.

## Main definitions

* `Flow`: the pieces and the end.
* `Flow.bytes`: what a reader gets that reads to the end.
* `Flow.drop`: what is left for the next reader.
-/

namespace ReplicaSeed

/-- Bytes that were written at one time. -/
structure Chunk where
  time : Nat
  bytes : List UInt8
  deriving DecidableEq, Repr

/-- What goes through a pipe. -/
structure Flow where
  chunks : List Chunk := []
  /-- When the last writer closes the pipe. -/
  ends : Nat := 0
  deriving DecidableEq, Repr

namespace Flow

/-- A flow of one piece. -/
def ofBytes (bytes : List UInt8) (time : Nat) : Flow := ⟨[⟨time, bytes⟩], time⟩

/-- All bytes of the flow. -/
def bytes (f : Flow) : List UInt8 := f.chunks.flatMap (·.bytes)

/-- How many bytes flow. -/
def size (f : Flow) : Nat := f.chunks.foldl (fun n c => n + c.bytes.length) 0

/-- The pieces without their first `n` bytes. -/
def dropChunks : (n : Nat) → List Chunk → List Chunk
  | _, [] => []
  | n, c :: cs =>
    if c.bytes.length ≤ n then dropChunks (n - c.bytes.length) cs
    else { c with bytes := c.bytes.drop n } :: cs

/-- The flow without its first `n` bytes. -/
def drop (f : Flow) (n : Nat) : Flow := { f with chunks := dropChunks n f.chunks }

/-- What is written before a time. -/
def before (f : Flow) (time : Nat) : Flow :=
  { f with chunks := f.chunks.filter fun c => c.time < time }

@[simp] theorem bytes_ofBytes (bytes : List UInt8) (time : Nat) :
    (ofBytes bytes time).bytes = bytes := by
  simp [ofBytes, Flow.bytes]

theorem flatMap_dropChunks (n : Nat) (cs : List Chunk) :
    (dropChunks n cs).flatMap (·.bytes) = (cs.flatMap (·.bytes)).drop n := by
  fun_induction dropChunks n cs with
  | case1 => simp
  | case2 n c cs h ih => simp [ih, List.drop_append, List.drop_eq_nil_of_le h]
  | case3 n c cs h => simp [List.drop_append, Nat.sub_eq_zero_of_le (Nat.le_of_not_le h)]

@[simp] theorem bytes_drop (f : Flow) (n : Nat) : (f.drop n).bytes = f.bytes.drop n :=
  flatMap_dropChunks n f.chunks

end Flow

end ReplicaSeed
