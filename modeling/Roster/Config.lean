import Roster.MissingKey
import Roster.Table

/-!
# Configuration

The settings of a registry, a resolver, a balancer and a log, each with its default.
-/

namespace Roster

inductive Backend where
  | consul
  | file
  | static
  | noop
  deriving DecidableEq, Repr

namespace Backend

instance : Inhabited Backend := ⟨.noop⟩

/-- The backends under their names in documents. -/
def names : List (String × Backend) :=
  [("consul", consul), ("file", file), ("static", static), ("noop", noop)]

def name : Backend → String
  | consul => "consul"
  | file => "file"
  | static => "static"
  | noop => "noop"

/-- The backend that a text names in any case, with "none" for the backend without members. No
character beyond ASCII has a letter of these names for its lower case, so ASCII letters decide. -/
def ofText? (text : String) : Option Backend :=
  (names ++ [("none", noop)]).lookup (String.ofList (text.toList.map Char.toLower))

def unknownText (text : String) : String :=
  "Unknown registry backend: " ++ text

end Backend

/-- The number of changes that wait for a watcher unless a configuration says otherwise. -/
def defaultWatchBuffer : Nat := 64

/-- The number of points that each address has on a ring unless a configuration says otherwise. -/
def defaultReplicas : Nat := 64

def registryScheme : String := "registry"

def shardPolicy : String := "shard"

def maxWord64 : Nat := 0xffffffffffffffff

def maxWord32 : Nat := 0xffffffff

structure RegistryConfig where
  backend : Backend := .noop
  address : Option String := none
  datacenter : Option String := none
  /-- The names under which the catalog knows services. -/
  aliases : Table String := Table.empty
  refreshIntervalSecs : Nat := 30
  watchBuffer : Nat := defaultWatchBuffer
  path : Option String := none
  watch : Bool := false
  /-- The members of the static backend. -/
  services : Table (List String) := Table.empty
  deriving DecidableEq, Inhabited

/-- The milliseconds between two queries, never fewer than a second's. -/
def RegistryConfig.refreshIntervalMs (c : RegistryConfig) : Nat :=
  max c.refreshIntervalSecs 1 * 1000

structure ResolverConfig where
  scheme : String := registryScheme
  deriving DecidableEq, Inhabited

structure BalancerConfig where
  policy : String := shardPolicy
  replicas : Nat := defaultReplicas
  missingKey : MissingKey := .sentinel MissingKey.defaultSentinel
  deriving DecidableEq, Inhabited

inductive LogFormat where
  | text
  | json
  deriving DecidableEq, Repr, Inhabited

namespace LogFormat

def names : List (String × LogFormat) := [("text", text), ("json", json)]

def name : LogFormat → String
  | text => "text"
  | json => "json"

end LogFormat

structure LogConfig where
  level : String := "info"
  format : LogFormat := .text
  deriving DecidableEq, Inhabited

structure RoutingConfig where
  registry : RegistryConfig := {}
  resolver : ResolverConfig := {}
  balancer : BalancerConfig := {}
  logging : LogConfig := {}
  deriving DecidableEq, Inhabited

/-! ## Values that numbers of fixed width can hold -/

/-- Whether the numbers of a registry's settings fit into 64 bits. -/
def RegistryConfig.Fits (c : RegistryConfig) : Prop :=
  c.refreshIntervalSecs ≤ maxWord64 ∧ c.watchBuffer ≤ maxWord64

instance (c : RegistryConfig) : Decidable c.Fits := inferInstanceAs (Decidable (_ ∧ _))

def BalancerConfig.Fits (c : BalancerConfig) : Prop :=
  c.replicas ≤ maxWord32

instance (c : BalancerConfig) : Decidable c.Fits := inferInstanceAs (Decidable (_ ≤ _))

def RoutingConfig.Fits (c : RoutingConfig) : Prop :=
  c.registry.Fits ∧ c.balancer.Fits

instance (c : RoutingConfig) : Decidable c.Fits := inferInstanceAs (Decidable (_ ∧ _))

end Roster
