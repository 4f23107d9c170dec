import FitzClient.Connection
import FitzClient.NoticeLifetime
import FitzClient.SubscriptionRegistry
import Mathlib.Data.Fintype.Defs
import Mathlib.Data.Finset.Insert

/-!
# The client and its subscriptions

A client has one connection.  Five of its domains keep a subscription registry,
and the notice client keeps wires of its own; all six listen for the end of the
connection.  None of these listeners awaits, so that `_notify_close` ends the
registered consumers in the step in which it sets its flag.

The tasks of the registries interleave freely with those of the connection.
When they run, and what the broker answers to them, is part of their actions.
-/

namespace FitzClient

/-- The domains with a `SubscriptionRegistry`. -/
inductive SubscriptionDomain
  | kv
  | queue
  | stream
  | lease
  | schedule
  deriving DecidableEq, Repr

instance : Fintype SubscriptionDomain where
  elems := {.kv, .queue, .stream, .lease, .schedule}
  complete domain := by cases domain <;> decide

/-- `closing` says that `_close` has not come to its listeners yet. -/
structure Client (Item : Type) where
  connection : Connection
  registries : SubscriptionDomain → SubscriptionRegistry Item
  notices : NoticeLifetime Item
  closing : Bool := false

inductive ClientAction (Item : Type)
  | connection (action : ConnectionAction)
  | registry (domain : SubscriptionDomain) (action : RegistryAction Item)
  | notices (action : NoticeAction Item)
  deriving DecidableEq, Repr

namespace Client

variable {Item : Type}

/-- The listeners of `on_close`. -/
def terminate (client : Client Item) : Client Item :=
  { client with
    registries := fun domain => (client.registries domain).terminate none
    notices := { client.notices with client := client.notices.client.terminate } }

/-- The connection makes a transition; the first one that notifies the close
listeners runs them. -/
def advance (client : Client Item) (action : ConnectionAction) (connection : Connection) :
    Client Item :=
  let advanced := { client with
    connection
    closing := match action with
      | .close => client.closing || !client.connection.closed
      | .closeTasks => false
      | _ => client.closing }
  if connection.closeNotified && !client.connection.closeNotified then
    advanced.terminate
  else
    advanced

/-- One transition.  The registries are terminated by the close listeners
only. -/
def step (client : Client Item) : ClientAction Item → Option (Client Item)
  -- `_close` comes to its listeners once
  | .connection action =>
      if action = .closeTasks ∧ client.closing = false then
        none
      else
        (client.connection.step action).map (client.advance action)
  | .registry _ (.terminate _) => none
  | .registry domain action =>
      ((client.registries domain).step action).map fun registry =>
        { client with registries := Function.update client.registries domain registry }
  | .notices .terminate => none
  | .notices action =>
      (client.notices.step action).map fun notices => { client with notices }

/-- All interleavings of a new client. -/
def system (Item : Type) (config : ConnectionConfig) (bufferSize : Nat) :
    LabelledSystem (Client Item) (ClientAction Item) where
  starts client := client = {
    connection := { config }
    registries := fun _ => { capacity := bufferSize }
    notices := { client := { bufferSize } } }
  step := step

end Client

/-- No task of the connection is left. -/
def Connection.completed (connection : Connection) : Bool :=
  connection.connectTask = .idle && connection.reconnectTask = .idle &&
    connection.lossTask = .idle && connection.heartbeats.all (· = .done) &&
    connection.transports.all (·.receiver.all (· = .done))

/-- No `aclose` of these consumers is under way. -/
def AsyncSubscription.completed {Item : Type} (consumers : List (AsyncSubscription Item)) : Bool :=
  consumers.all fun consumer => consumer.closing = .idle || consumer.closing = .ended

/-- Nobody holds the lock or waits for it. -/
def SubscriptionRegistry.completed {Item : Type} (registry : SubscriptionRegistry Item) : Bool :=
  registry.holder.isNone && registry.cleanupTasks.isEmpty &&
    AsyncSubscription.completed registry.consumers

def NoticeLifetime.completed {Item : Type} (lifetime : NoticeLifetime Item) : Bool :=
  lifetime.client.holder.isNone && lifetime.upkeep.isNone &&
    lifetime.client.cleanupTasks.isEmpty && AsyncSubscription.completed lifetime.client.consumers

namespace Client

variable {Item : Type}

/-- All tasks of the library have run to completion. -/
def completed (client : Client Item) : Bool :=
  !client.closing && client.connection.completed &&
    decide (∀ domain, (client.registries domain).completed = true) && client.notices.completed

/-- Every consumer that `subscribe` ever returned has been finished or
failed. -/
def ConsumersEnded (client : Client Item) : Prop :=
  (∀ domain, ∀ consumer ∈ (client.registries domain).consumers, consumer.closed = true) ∧
    ∀ consumer ∈ client.notices.client.consumers, consumer.closed = true

instance (client : Client Item) : Decidable client.ConsumersEnded :=
  inferInstanceAs (Decidable (_ ∧ _))

end Client

end FitzClient
