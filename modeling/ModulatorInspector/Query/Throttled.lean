import ModulatorInspector.Query.Output

namespace ModulatorInspector.Query

inductive Refusal where
  | fault (fault : OutputFault)
  | nothing
  deriving DecidableEq, Repr

structure Throttled where
  -- At most this many bytes at once, and at most so many more; `none` is without end.
  atOnce : Option Nat := none
  left : Option Nat := none
  refusal : Refusal := .fault .brokenPipe
  interruptions : Nat := 0
  flushFault : Option OutputFault := none
  flushes : Nat := 0
  backwards : List UInt8 := []

namespace Throttled

def taken (t : Throttled) : List UInt8 := t.backwards.reverse

def upTo (limit : Option Nat) (bytes : List UInt8) : List UInt8 :=
  match limit with
  | some n => bytes.take n
  | none => bytes

def admitted (t : Throttled) (bytes : List UInt8) : List UInt8 := upTo t.atOnce (upTo t.left bytes)

def take (t : Throttled) (part : List UInt8) : Throttled :=
  { t with left := t.left.map (· - part.length), backwards := part.reverse ++ t.backwards }

def offer (bytes : List UInt8) (t : Throttled) : Offer × Throttled :=
  match t.interruptions with
  | n + 1 => (.interrupted, { t with interruptions := n })
  | 0 =>
      match t.admitted bytes, t.refusal with
      | [], .fault fault => (.failed fault, t)
      | [], .nothing => (.took 0, t)
      | part, _ => (.took part.length, t.take part)

def flush (t : Throttled) : Except OutputFault Unit × Throttled :=
  (t.flushFault.elim (.ok ()) .error, { t with flushes := t.flushes + 1 })

theorem interrupted_lt (bytes : List UInt8) (t : Throttled)
    (h : (offer bytes t).1 = .interrupted) :
    (offer bytes t).2.interruptions < t.interruptions := by
  unfold offer at h ⊢
  split
  · rename_i n left
    simp only [left]
    exact Nat.lt_succ_self n
  · rename_i none_left
    simp only [none_left] at h
    split at h <;> cases h

def stream : Stream Throttled :=
  ⟨offer, flush, interruptions_end_of_patience interruptions interrupted_lt⟩

end Throttled

end ModulatorInspector.Query
