import OpenBadges.Dict
import OpenBadges.Flow.Crew
import OpenBadges.Flow.Outcome

/-!
# Delivering events

Every subscription has a mailbox that its reader empties at leisure. A
subscription is for one event name, for several, or for all; one that lists a
name twice gets the event twice. A reader may give up its mailbox at any time.
The bus notices at the next delivery and forgets the subscription.
-/

namespace OpenBadges

/-- A subscription, counted from zero in the order they were made. -/
abbrev Subscription := Nat

/-- Who gets which events. -/
structure EventBus where
  /-- The subscriptions to each event name, in the order they were made. -/
  byName : Dict (List Subscription) := ∅
  /-- The subscriptions to all events. -/
  wildcards : List Subscription := []
  /-- The mailbox of each subscription. -/
  mailboxes : List (Mailbox EventName) := []

namespace EventBus

/-- Whether a subscription still has a reader. -/
def isLive (b : EventBus) (s : Subscription) : Bool := b.mailboxes[s]?.any (·.live)

/-- The subscriptions to an event name, wildcards apart. -/
def subscribers (b : EventBus) (e : EventName) : List Subscription := (b.byName.get? e).getD []

/-- The number of live subscriptions to an event name, wildcards apart. -/
def subscriberCount (b : EventBus) (e : EventName) : Nat := (b.subscribers e).countP b.isLive

/-- Adds a subscription to an event name. -/
def enrol (b : EventBus) (s : Subscription) (e : EventName) : EventBus :=
  { b with byName := b.byName.insert e (b.subscribers e ++ [s]) }

def openMailbox (b : EventBus) : Subscription × EventBus :=
  (b.mailboxes.length, { b with mailboxes := b.mailboxes ++ [{}] })

/-- Subscribes to several event names. -/
def subscribeMany (b : EventBus) (events : List EventName) : Subscription × EventBus :=
  let (s, b) := b.openMailbox
  (s, events.foldl (·.enrol s ·) b)

/-- Subscribes to one event name. -/
def subscribe (b : EventBus) (event : EventName) : Subscription × EventBus := b.subscribeMany [event]

/-- Subscribes to all events. -/
def subscribeAll (b : EventBus) : Subscription × EventBus :=
  let (s, b) := b.openMailbox
  (s, { b with wildcards := b.wildcards ++ [s] })

/-- Puts an event into a mailbox. -/
def deliver (b : EventBus) (e : EventName) (s : Subscription) : EventBus :=
  { b with mailboxes := b.mailboxes.modify s (·.deliver e) }

/-- Forgets the subscriptions to an event name, and to all events, that have no reader left. -/
def prune (b : EventBus) (e : EventName) : EventBus :=
  let kept := (b.subscribers e).filter b.isLive
  { b with
    byName := if kept.isEmpty then b.byName.erase e else b.byName.insert e kept
    wildcards := b.wildcards.filter b.isLive }

/-- Delivers an event to all who want it; also the number of deliveries. -/
def emit (b : EventBus) (e : EventName) : Nat × EventBus :=
  let b := b.prune e
  let readers := b.subscribers e ++ b.wildcards
  (readers.length, readers.foldl (·.deliver e ·) b)

/-- Delivers events one after another. -/
def emitAll (b : EventBus) (events : List EventName) : EventBus :=
  events.foldl (fun b e => (b.emit e).2) b

/-- Takes the waiting events out of a mailbox. -/
def drain (b : EventBus) (s : Subscription) : List EventName × EventBus :=
  ((b.mailboxes[s]?.map (·.waiting)).getD [],
    { b with mailboxes := b.mailboxes.modify s Mailbox.emptied })

/-- Gives up a mailbox with all that is in it. -/
def close (b : EventBus) (s : Subscription) : EventBus :=
  { b with mailboxes := b.mailboxes.modify s Mailbox.closed }

end EventBus

end OpenBadges
