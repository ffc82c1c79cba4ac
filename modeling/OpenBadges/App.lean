import OpenBadges.Stores
import OpenBadges.Text.Blank
import OpenBadges.Transport.Exchange

/-!
# The application

The stores in their standard wiring, an action loop around them, and a world that
answers their requests. Views queue actions; a run handles them until nothing is
left to do. Two rounds are enough for that, since what comes of a request makes
no further requests.

An application that was stopped takes no more actions. What its readers have not
read yet stays readable.
-/

namespace OpenBadges

/-!
## Links

A link stays inside the application unless it names a scheme or a host, points
into the current page, or is empty. Blanks around it do not count.
-/

/-- Where a link leads. -/
inductive LinkKind where
  /-- To another place of the application. -/
  | internal
  /-- Out of the application, or nowhere. -/
  | external
deriving DecidableEq, Repr

namespace Link

/-- Whether a text can be the name of a scheme: a letter, then letters, digits, `+`, `-` and `.`. -/
def isScheme (cs : List Char) : Bool :=
  cs.head?.any Char.isAlpha && cs.all fun c => c.isAlphanum || c = '+' || c = '-' || c = '.'

/-- Whether a character ends the part of a link that could be a scheme. -/
def endsScheme (c : Char) : Bool := c = ':' || c = '/' || c = '?' || c = '#'

/-- Whether a link starts with a scheme. -/
def hasScheme (cs : List Char) : Bool :=
  match cs.dropWhile fun c => !endsScheme c with
  | ':' :: _ => isScheme (cs.takeWhile fun c => !endsScheme c)
  | _ => false

/-- Where a link without blanks around it leads. -/
def classifyTrimmed (cs : List Char) : LinkKind :=
  match cs with
  | [] => .external
  | '#' :: _ => .external
  | '/' :: '/' :: _ => .external
  | _ => if hasScheme cs then .external else .internal

def classify (href : String) : LinkKind := classifyTrimmed (Text.trimmed href.toList)

end Link

/-! ## Running -/

/-- The application in a world that answers its requests. -/
structure App (ω : Type) where
  loop : ActionLoop Stores Action Effect
  /-- What answers the requests. -/
  world : ω
  /-- Whether it still takes actions. -/
  running : Bool := true

namespace App

variable {ω : Type}

/-- The application with given stores. -/
def new (stores : Stores) (world : ω) : Except WiringError (App ω) := do
  return { loop := { dispatcher := ⟨stores, ← StoreWiring.standard⟩ }, world := world }

/-- The state of the application. -/
def stores (a : App ω) : Stores := a.loop.dispatcher.state

def queue (a : App ω) (action : Action) : App ω :=
  if a.running then { a with loop := a.loop.enqueue action } else a

/-- Follows a link, if it stays inside the application; also whether it does. -/
def navigate (a : App ω) (href : String) : Bool × App ω :=
  match Link.classify href with
  | .internal => (true, a.queue (.routeChanged href))
  | .external => (false, a)

/-- Changes what the readers hold, as long as the application runs. -/
def withAudience (a : App ω) (f : Audience → Audience) : App ω :=
  if a.running then { a with loop := { a.loop with audience := f a.loop.audience } } else a

/-- The number of rounds in which everything gets done. -/
def rounds : Nat := 2

/-- Handles actions until nothing is left to do; also the events of that. -/
def run (a : App ω) (send : Transport ω) : List EventName × App ω :=
  let r := ActionLoop.run (Effect.perform send) rounds a.world a.loop
  (r.events, { a with loop := r.loop, world := r.world })

def stop (a : App ω) : App ω := { a with running := false }

end App

end OpenBadges
