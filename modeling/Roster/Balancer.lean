import Roster.Balancer.Picker

/-!
# Balancers

A balancer holds the current picker, and builds a new one whenever it is told which connections are
ready. Before that there is none, and no call gets a connection.
-/

namespace Roster

structure PickerBuilder where
  options : ShardOptions
  /-- The addresses for which the last picker was built. -/
  tracked : List String := []

namespace PickerBuilder

variable {C : Type}

/-- A picker for ready connections: one that fails if there are none. -/
def pickerFor (options : ShardOptions) (ready : Table C) : Picker C :=
  if ready.size = 0 then .failing .noConnectionAvailable
  else .sharding ⟨Ring.build .standard ready.keys options.replicas, ready, options⟩

def build (b : PickerBuilder) (ready : Table C) : Picker C × PickerBuilder :=
  (pickerFor b.options ready, { b with tracked := ready.keys.mergeSort (· ≤ ·) })

end PickerBuilder

structure Balancer (C : Type) where
  builder : PickerBuilder
  picker : Option (Picker C) := none
  /-- The addresses of every set of connections for which a picker was built, sorted. -/
  builds : List (List String) := []

namespace Balancer

variable {C : Type}

def new (options : ShardOptions) : Balancer C := { builder := { options } }

/-- Builds the picker for the connections that are ready now. -/
def update (b : Balancer C) (ready : Table C) : Balancer C :=
  let (picker, builder) := b.builder.build ready
  { builder, picker := some picker, builds := b.builds ++ [builder.tracked] }

def candidates (b : Balancer C) (call : Call) : Except RoutingError (List C) :=
  match b.picker with
  | some p => p.candidates call
  | none => .error .noConnectionAvailable

def pick (b : Balancer C) (draw : Nat) (call : Call) : Except RoutingError C :=
  match b.picker with
  | some p => p.pick draw call
  | none => .error .noConnectionAvailable

end Balancer

end Roster
