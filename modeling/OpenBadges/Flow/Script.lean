import OpenBadges.Flow.ActionLoop

/-!
# Scripted stores

Stores that follow a script instead of a purpose, for trying out a wiring or a
loop. Their actions are plain names and their only state is the list of those
that ran.
-/

namespace OpenBadges

/-- What a scripted store does with an action. -/
structure Reaction where
  /-- The actions it reacts to; without a list, all. -/
  only : Option (List String) := none
  /-- What it answers to them. -/
  outcome : Outcome String := {}

namespace Reaction

/-- What the store answers to an action. -/
def answer (r : Reaction) (action : String) : Outcome String :=
  if r.only.all fun names => names.contains action then r.outcome else .unchanged

/-- The scripted store of this name. It runs for every action, whether it reacts or not. -/
def handler (r : Reaction) (name : String) : Handler (List String) String String :=
  fun ran action => (ran ++ [name], r.answer action)

end Reaction

/-- What a script answers to each action; to all others, nothing. -/
abbrev Script := Dict (Outcome String)

namespace Script

/-- The one store that follows the script. -/
def handler (script : Script) : Handler Unit String String :=
  fun s action => (s, (script.get? action).getD .unchanged)

/-- A loop around the one store. -/
def loop (script : Script) : ActionLoop Unit String String where
  dispatcher := { state := (), wiring := ⟨[⟨"script", script.handler, []⟩], [0]⟩ }

/-- An effect is the name of the action it comes to. -/
def perform : Performer Unit String String := fun world effect => (effect, world)

/-- Rounds enough for a script that does not run in circles: of the actions that lead to one
another at most the last is unknown to it, and tasks may be under way before the first. -/
def rounds (script : Script) : Nat := script.size + 2

end Script

end OpenBadges
