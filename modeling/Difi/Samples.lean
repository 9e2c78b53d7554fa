import Difi.Machine.Iteration

namespace Difi

open Machine

structure ComplexI8 where
  i : Int8
  q : Int8
deriving DecidableEq, Repr

structure ComplexI16 where
  i : Int16
  q : Int16
deriving DecidableEq, Repr

inductive SampleError where
  | misalignedPayload (len sampleBytes : Nat)
deriving DecidableEq, Repr

def i16FromBeBytes (b0 b1 : UInt8) : Int16 := ((b0.toUInt16 <<< 8) ||| b1.toUInt16).toInt16

structure IqI8Samples where
  chunks : ChunksExact UInt8 2

instance : Iterator IqI8Samples ComplexI8 where
  next samples :=
    let step := Iterator.next samples.chunks
    (do
      let some chunk ← step.1 | .ok none
      let i ← indexAt chunk 0
      let q ← indexAt chunk 1
      .ok (some { i := i.toInt8, q := q.toInt8 }), { chunks := step.2 })

instance : ExactSizeIterator IqI8Samples ComplexI8 where

structure IqI16Samples where
  chunks : ChunksExact UInt8 4

instance : Iterator IqI16Samples ComplexI16 where
  next samples :=
    let step := Iterator.next samples.chunks
    (do
      let some chunk ← step.1 | .ok none
      let i0 ← indexAt chunk 0
      let i1 ← indexAt chunk 1
      let q0 ← indexAt chunk 2
      let q1 ← indexAt chunk 3
      .ok (some { i := i16FromBeBytes i0 i1, q := i16FromBeBytes q0 q1 }), { chunks := step.2 })

instance : ExactSizeIterator IqI16Samples ComplexI16 where

def iqI8Samples (payload : List UInt8) : Outcome SampleError IqI8Samples :=
  let chunks := ChunksExact.new 2 payload
  if chunks.remainder.isEmpty then .ok { chunks } else .err (.misalignedPayload payload.length 2)

def iqI16Samples (payload : List UInt8) : Outcome SampleError IqI16Samples :=
  let chunks := ChunksExact.new 4 payload
  if chunks.remainder.isEmpty then .ok { chunks } else .err (.misalignedPayload payload.length 4)

end Difi
