import Multipath.Arbiter.Error

/-!
# Diagnostics

Operations report noteworthy events as `LogRecord`s.  A `Logged` value carries the records of its
computation, oldest first; sequencing two computations concatenates their records.

There are no records of the level INFO.  They would say that a network is being set up and how long
the steps of this took, and nothing here has a duration.
-/

namespace Multipath

/-- How urgent a record is. -/
inductive LogLevel where
  | error
  | warn
  | debug
  | trace
  deriving DecidableEq

/-- The name of a level in a log. -/
def LogLevel.name : LogLevel → String
  | error => "ERROR"
  | warn => "WARN"
  | debug => "DEBUG"
  | trace => "TRACE"

/-- A noteworthy event. -/
inductive LogRecord where
  /-- So many ordered pairs of nodes are not joined by a path. -/
  | disconnected (pairs : Nat)
  /-- The decision maker of `node` is about to be built. -/
  | installing (node : NodeId)
  /-- A decision failed for good. -/
  | decisionFailed (node : NodeId) (uid : UInt64) (fault : ArbiterError)
  /-- A packet of this host cannot leave. -/
  | noRouteToHost (destination : Ipv4) (probe : Bool)
  /-- A packet has arrived. -/
  | delivered (uid : UInt64) (interface : UInt32)
  /-- A packet in transit is lost. -/
  | dropped (uid : UInt64) (destination : Ipv4)
  deriving DecidableEq

namespace LogRecord

/-- The level of a record. -/
def level : LogRecord → LogLevel
  | disconnected _ => .warn
  | installing _ => .debug
  | decisionFailed _ _ _ => .error
  | noRouteToHost _ _ => .debug
  | delivered _ _ => .trace
  | dropped _ _ => .debug

/-- The text of a record. -/
def text : LogRecord → String
  | disconnected pairs => s!"Topology is disconnected, {pairs} ordered node pairs have no path"
  | installing node => s!"Installing ECMP arbiter on node {node}"
  | decisionFailed node uid fault =>
    s!"Arbiter of node {node} failed on packet {uid}: " ++ fault.message
  | noRouteToHost destination probe => s!"No route to host {destination} (probe: {probe})"
  | delivered uid interface => s!"Local delivery of packet {uid} on interface {interface}"
  | dropped uid destination => s!"Dropping packet {uid} towards {destination}, no route"

end LogRecord

/-- A value and the records that its computation left, oldest first. -/
structure Logged (α : Type) where
  log : List LogRecord
  value : α

namespace Logged

/-- Leaves one record. -/
def emit (r : LogRecord) : Logged Unit :=
  ⟨[r], ()⟩

instance : Monad Logged where
  pure x := ⟨[], x⟩
  bind x f := ⟨x.log ++ (f x.value).log, (f x.value).value⟩

@[simp] theorem log_pure {α : Type} (x : α) : (pure x : Logged α).log = [] := rfl

@[simp] theorem value_pure {α : Type} (x : α) : (pure x : Logged α).value = x := rfl

@[simp] theorem log_bind {α β : Type} (x : Logged α) (f : α → Logged β) :
    (x >>= f).log = x.log ++ (f x.value).log := rfl

@[simp] theorem value_bind {α β : Type} (x : Logged α) (f : α → Logged β) :
    (x >>= f).value = (f x.value).value := rfl

@[simp] theorem log_emit (r : LogRecord) : (emit r).log = [r] := rfl

end Logged

end Multipath
