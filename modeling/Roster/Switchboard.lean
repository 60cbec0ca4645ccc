import Roster.Dialer

/-!
# Switchboards

A dialer together with the channels that were dialed through it and with what their connector
records. The background work of channels is done one channel after the other, in the order in which
they got something to do: a channel gets something to do when it is dialed, when changes of its
service are committed and when it is dropped.
-/

namespace Roster

/-- A dialer with its channels. -/
structure Switchboard (σ C : Type) where
  dialer : Dialer := {}
  channels : List (Dialed C) := []
  /-- The places of the channels that have something to do. -/
  due : List Nat := []
  /-- What the connector records. -/
  record : σ

namespace Switchboard

variable {σ C : Type}

/-- Notes that the channel at a place has something to do. -/
def wake (b : Switchboard σ C) (i : Nat) : Switchboard σ C :=
  if b.due.contains i then b else { b with due := b.due ++ [i] }

def alter (b : Switchboard σ C) (i : Nat) (f : Dialed C → Dialed C) : Switchboard σ C :=
  { b with channels := b.channels.modify i f }

/-- Dials a target under a policy, and returns the place of the channel. -/
def dial (b : Switchboard σ C) (connect : Connector σ C) (inRuntime : Bool)
    (target policy : String) : Except RoutingError (Nat × Switchboard σ C) := do
  let (channel, dialer, record) ← b.dialer.dial connect b.record inRuntime target policy
  let place := b.channels.length
  return (place, { b with dialer, channels := b.channels ++ [channel], record }.wake place)

/-- Commits members of a service to the registry at a place. -/
def commit (b : Switchboard σ C) (source : Nat) (service : String) (is : List Instance) :
    List Change × Switchboard σ C :=
  let registry := b.dialer.registryAt source
  let (changes, state) := registry.state.commit service is
  let b := { b with dialer := b.dialer.setRegistry source (registry.withState state) }
  let followers := b.channels.zipIdx.filterMap fun (c, i) =>
    if c.source == source && c.resolver.service == service then some i else none
  (changes, if changes.isEmpty then b else followers.foldl wake b)

/-- Lets the background work of a channel go on until it waits or is over. -/
def serve (b : Switchboard σ C) (connect : Connector σ C) (i : Nat) : Switchboard σ C :=
  match b.channels[i]? with
  | none => b
  | some c =>
    let (c, dialer, record) := c.settle b.dialer connect b.record
    { b with dialer, record, channels := b.channels.set i c }

def settle (b : Switchboard σ C) (connect : Connector σ C) : Switchboard σ C :=
  b.due.foldl (fun b i => b.serve connect i) { b with due := [] }

def resolveNow (b : Switchboard σ C) (connect : Connector σ C) (i : Nat) : Switchboard σ C :=
  match b.channels[i]? with
  | none => b
  | some c =>
    let (c, record) := c.resolveNow b.dialer connect b.record
    { b with record, channels := b.channels.set i c }

def drop (b : Switchboard σ C) (i : Nat) : Switchboard σ C :=
  (b.alter i Dialed.drop).wake i

end Switchboard

end Roster
