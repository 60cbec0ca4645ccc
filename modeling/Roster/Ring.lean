import Roster.Ring.SipHash

/-!
# Rings

A ring spreads keys over addresses. Every address has a number of points on it, each at a hash of
the address and the point's number. A key belongs to the first point that is not before the key's
own hash, or to the first point of all if there is none. Points at the same place keep the order in
which they were added.
-/

namespace Roster

/-- The places of points and keys. -/
structure RingHash where
  /-- The place of the point of a number of an address. -/
  point : String → Nat → UInt64
  key : String → UInt64

/-- The four bytes of a number of 32 bits, the lowest first. -/
def wordBytes (n : Nat) : List UInt8 :=
  [n, n / 0x100, n / 0x10000, n / 0x1000000].map fun k => UInt8.ofNat (k % 256)

/-- A text as the bytes that are hashed: its own, and one that no text contains. -/
def hashedBytes (s : String) : List UInt8 := s.toUTF8.toList ++ [0xff]

/-- The places on rings that independent clients agree on. -/
def RingHash.standard : RingHash where
  point address n := SipHash.hash 0 0 (hashedBytes address ++ wordBytes n)
  key k := SipHash.hash 0 0 (hashedBytes k)

/-- A point of an address on a ring. -/
structure RingPoint where
  place : UInt64
  address : String
  deriving DecidableEq, Repr

/-- A ring: its points in the order of their places. -/
structure Ring where
  points : List RingPoint
  deriving DecidableEq, Repr

namespace Ring

/-- The points of an address. -/
def pointsOf (h : RingHash) (replicas : Nat) (address : String) : List RingPoint :=
  (List.range replicas).map fun n => ⟨h.point address n, address⟩

def build (h : RingHash) (addresses : List String) (replicas : Nat) : Ring :=
  ⟨(addresses.flatMap (pointsOf h replicas)).mergeSort fun p q => p.place ≤ q.place⟩

def size (r : Ring) : Nat := r.points.length

/-- The point to which a place belongs. -/
def pointAt? (r : Ring) (place : UInt64) : Option RingPoint :=
  (r.points.find? fun p => place ≤ p.place).or r.points.head?

def owner? (h : RingHash) (r : Ring) (key : String) : Option String :=
  (r.pointAt? (h.key key)).map (·.address)

end Ring

end Roster
