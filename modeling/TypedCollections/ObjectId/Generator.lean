import TypedCollections.ObjectId
/-!
# Fresh identifiers

A generator holds the five octets of its process and a counter of 32 bits, of which an identifier
carries the low 24. It takes the time as an argument: the clock's reading in milliseconds since the
epoch, where a time before the epoch reads zero.
-/

namespace TypedCollections

namespace ObjectId

structure Generator where
  process : List UInt8
  counter : UInt32
  length_eq : process.length = 5
deriving DecidableEq

/-- The milliseconds that a clock reads, never below zero. -/
def readClock (now : Int) : Nat := now.toNat

/-- The last octets of a number, the most significant first. -/
def octetsOf : Nat → Nat → List UInt8
  | 0, _ => []
  | width + 1, n => octetsOf width (n / 256) ++ [UInt8.ofNat (n % 256)]

theorem length_octetsOf (width n : Nat) : (octetsOf width n).length = width := by
  induction width generalizing n with
  | zero => rfl
  | succ width ih => simp [octetsOf, ih]

/-- The identifier made at a time, and the generator after it. -/
def Generator.next (generator : Generator) (millis : Nat) : ObjectId × Generator :=
  (⟨octetsOf 4 (millis / 1000) ++ generator.process ++ octetsOf 3 generator.counter.toNat, by
      simp [length_octetsOf, generator.length_eq]⟩,
    { generator with counter := generator.counter + 1 })

end ObjectId

end TypedCollections
