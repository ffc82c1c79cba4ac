import OpenBadges.Flow.EventBus

/-!
# Named readers

A bus whose subscriptions are held by readers with names. A reader holds one
subscription; making another one gives up the first.
-/

namespace OpenBadges

/-- A bus and its readers. -/
structure Audience where
  bus : EventBus := {}
  /-- The subscription of each reader. -/
  readers : Dict Subscription := ∅

namespace Audience

/-- Whether there is a reader of this name. -/
def has (a : Audience) (reader : String) : Bool := a.readers.contains reader

/-- Hands a reader a subscription that was just made. -/
def adopt (a : Audience) (reader : String) (made : Subscription × EventBus) : Audience :=
  let bus := match a.readers.get? reader with
    | some old => made.2.close old
    | none => made.2
  ⟨bus, a.readers.insert reader made.1⟩

/-- Lets a reader subscribe to several event names. -/
def subscribeMany (a : Audience) (reader : String) (events : List EventName) : Audience :=
  a.adopt reader (a.bus.subscribeMany events)

/-- Lets a reader subscribe to one event name. -/
def subscribe (a : Audience) (reader : String) (event : EventName) : Audience :=
  a.adopt reader (a.bus.subscribe event)

/-- Lets a reader subscribe to all events. -/
def subscribeAll (a : Audience) (reader : String) : Audience :=
  a.adopt reader a.bus.subscribeAll

/-- Delivers an event; also the number of deliveries. -/
def emit (a : Audience) (e : EventName) : Nat × Audience :=
  let (n, bus) := a.bus.emit e
  (n, { a with bus := bus })

/-- Delivers events one after another. -/
def emitAll (a : Audience) (events : List EventName) : Audience :=
  { a with bus := a.bus.emitAll events }

/-- The events that wait for a reader, which count as read from now on. -/
def drain? (a : Audience) (reader : String) : Option (List EventName × Audience) :=
  (a.readers.get? reader).map fun s =>
    let (events, bus) := a.bus.drain s
    (events, { a with bus := bus })

/-- Takes a reader's subscription away. -/
def leave (a : Audience) (reader : String) : Audience :=
  match a.readers.get? reader with
  | some s => ⟨a.bus.close s, a.readers.erase reader⟩
  | none => a

end Audience

end OpenBadges
