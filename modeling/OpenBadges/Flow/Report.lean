import OpenBadges.Flow.Outcome
import OpenBadges.Json.Basic

/-!
# Watching dispatches

A middleware hears of every action before it is dispatched and again when all
handlers have run. It writes records and touches nothing else. The first to hear
of an action beforehand is the last to hear that it is done.
-/

namespace OpenBadges

/-- Writes records of type `ρ` about actions of type `α`. -/
structure Middleware (α ρ : Type) where
  /-- What it writes before an action is dispatched. -/
  before : α → List ρ
  /-- What it writes after, knowing whether the state changed. -/
  after : α → Bool → List ρ

namespace Middleware

variable {α ρ : Type}

def silent : Middleware α ρ := ⟨fun _ => [], fun _ _ => []⟩

/-- All that the middlewares write before an action. -/
def allBefore (ms : List (Middleware α ρ)) (a : α) : List ρ := ms.flatMap fun m => m.before a

/-- All that the middlewares write after an action. -/
def allAfter (ms : List (Middleware α ρ)) (a : α) (changed : Bool) : List ρ :=
  ms.reverse.flatMap fun m => m.after a changed

end Middleware

/-- What a log says about an action. -/
structure ActionLabel where
  name : String
  /-- The group it belongs to. -/
  category : Option String
  /-- What it carries, in short. -/
  summary : String

/-- The group as logs write it. -/
def ActionLabel.categoryText (l : ActionLabel) : String := l.category.getD "none"

/-- A line of the log. -/
inductive LogRecord where
  /-- An action is about to be dispatched. -/
  | dispatching (action : ActionLabel)
  /-- An action has been dispatched. -/
  | processed (action : ActionLabel) (stateChanged : Bool)

/-- Which of its two records a logger writes. -/
structure Logger where
  /-- Whether it logs actions before they are dispatched. -/
  logsBefore : Bool := false
  /-- Whether it logs actions after they were dispatched. -/
  logsAfter : Bool := false

namespace Logger

/-- Logs what has been dispatched. -/
def brief : Logger := { logsAfter := true }

def verbose : Logger := { logsBefore := true, logsAfter := true }

/-- A logger as a middleware for actions with labels. -/
def middleware {α : Type} (l : Logger) (label : α → ActionLabel) : Middleware α LogRecord where
  before a := if l.logsBefore then [.dispatching (label a)] else []
  after a changed := if l.logsAfter then [.processed (label a) changed] else []

end Logger

/-!
## Reports

Outcomes and log records as JSON values, for whoever watches from outside.
-/

def Json.ofStrings (names : List String) : Json := .arr (names.map .str)

def Outcome.fields {ε : Type} (effect : ε → Json) (o : Outcome ε) : List (String × Json) := [
  ("changed", .bool o.changed),
  ("events", .ofStrings o.events),
  ("effects", .arr (o.effects.map effect))]

/-- Writes a record of a log. -/
def LogRecord.encode : LogRecord → Json
  | dispatching a => .ofFields [
    ("message", .str "Dispatching action"),
    ("action", .str a.name),
    ("category", .str a.categoryText),
    ("summary", .str a.summary)]
  | processed a changed => .ofFields [
    ("message", .str "Action processed"),
    ("action", .str a.name),
    ("category", .str a.categoryText),
    ("state_changed", .bool changed)]

end OpenBadges
