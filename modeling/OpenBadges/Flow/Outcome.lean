/-!
# What handling an action leads to

A handler of actions changes its part of the state and reports an outcome:
whether anything changed, the events that views should hear, and the effects that
somebody else is to carry out. Outcomes form a monoid; the outcome of several
handlers is their product in the order in which they ran.
-/

namespace OpenBadges

/-- The name of something a view can listen for. -/
abbrev EventName := String

/-- The event `kind` about one `subject` in particular. -/
def EventName.about (kind : EventName) (subject : String) : EventName := kind ++ "_" ++ subject

/-- Events of one kind about different subjects have different names. -/
@[simp] theorem EventName.about_inj {kind : EventName} {s t : String} :
    kind.about s = kind.about t ↔ s = t :=
  String.append_right_inj _

/-- What handling an action leads to. -/
@[ext] structure Outcome (ε : Type) where
  /-- Whether any state changed. -/
  changed : Bool := false
  /-- Events for the views, in order. -/
  events : List EventName := []
  /-- Effects to carry out, in order. -/
  effects : List ε := []
deriving DecidableEq, Repr

namespace Outcome

variable {ε : Type}

def unchanged : Outcome ε := {}

/-- The state changed, and that is all. -/
def change : Outcome ε := { changed := true }

/-- Effects without a change. -/
def ofEffects (effects : List ε) : Outcome ε := { effects := effects }

def emit (o : Outcome ε) (event : EventName) : Outcome ε := { o with events := o.events ++ [event] }

def withEffect (o : Outcome ε) (effect : ε) : Outcome ε :=
  { o with effects := o.effects ++ [effect] }

/-- The same with the change noted. -/
def markChanged (o : Outcome ε) : Outcome ε := { o with changed := true }

/-- One outcome after another. -/
def append (o p : Outcome ε) : Outcome ε :=
  ⟨o.changed || p.changed, o.events ++ p.events, o.effects ++ p.effects⟩

instance : Append (Outcome ε) := ⟨append⟩

@[simp] theorem changed_append (o p : Outcome ε) : (o ++ p).changed = (o.changed || p.changed) := rfl

@[simp] theorem events_append (o p : Outcome ε) : (o ++ p).events = o.events ++ p.events := rfl

@[simp] theorem effects_append (o p : Outcome ε) : (o ++ p).effects = o.effects ++ p.effects := rfl

@[simp] theorem unchanged_append (o : Outcome ε) : unchanged ++ o = o := by
  ext <;> simp [unchanged]

@[simp] theorem append_unchanged (o : Outcome ε) : o ++ unchanged = o := by
  ext <;> simp [unchanged]

theorem append_assoc (o p q : Outcome ε) : o ++ p ++ q = o ++ (p ++ q) := by
  ext <;> simp [Bool.or_assoc]

end Outcome

end OpenBadges
