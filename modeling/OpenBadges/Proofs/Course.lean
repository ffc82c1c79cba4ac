import Mathlib.Data.List.Induction
import OpenBadges.Proofs.Requests
import OpenBadges.Proofs.StoreOrder
import OpenBadges.Transport.Exchange

/-!
# Runs that remember when

A request takes its time, and by the time that it is answered the same may have
been asked for again. Whether an answer comes to the one that asked can only be
said if it is known when that was. So here every dispatch has a number; an errand,
which is an effect under way, bears the number of the dispatch that asked for it,
and of every form it is kept which dispatch made it wait.

None of this is in the application. The stores see the same actions as they do
without it (`stores_dispatch`).
-/

namespace OpenBadges

/-! ## What an effect is for -/

namespace Effect

/-- The collection that an effect fetches. -/
def fetches? : Effect → Option String
  | getData context => some context.collection
  | _ => none

/-- The form that an effect submits. -/
def submits? : Effect → Option FormId
  | postForm s => some s.form
  | _ => none

theorem isAnswer_answer (e : Effect) (result : Except RequestFailure Json) :
    (e.answer result).isAnswer = true := by
  cases e <;> cases result <;> rfl

end Effect

/-- Where a form is in its life; one that has no record yet is ready. -/
def Stores.phase (s : Stores) (form : FormId) : FormPhase :=
  ((s.forms.get? form).map (·.state.phase)).getD .ready

/-! ## Runs -/

/-- An action that is not what came of a request. -/
abbrev Intent := { a : Action // a.isAnswer = false }

/-- An effect under way. -/
structure Errand where
  effect : Effect
  /-- The number of the dispatch that asked for it. -/
  asked : Nat

/-- The stores, what is under way, and what is remembered of the past. -/
structure Course where
  /-- The stores. -/
  stores : Stores
  /-- The errands that have not come back, first the oldest. -/
  errands : List Errand := []
  /-- How many actions have been dispatched. -/
  clock : Nat := 0
  /-- The number of the dispatch at which a form last began to wait. -/
  begun : FormId → Option Nat := fun _ => none

/-- Something that happens. -/
inductive Move where
  /-- An action is dispatched that is not what came of a request. -/
  | act (a : Intent)
  /-- The errand at this place comes back with a result. -/
  | answer (place : Nat) (result : Except RequestFailure Json)

namespace Course

/-- The application before anything has happened. -/
def start (specs : Dict CollectionSpec) (registry : FormRegistry) : Course :=
  { stores := { collections := { specs := specs }, registry := registry } }

/-- Dispatches an action; its effects are under way from now on. -/
def dispatch (c : Course) (a : Action) : Course :=
  let r := (Dispatcher.mk c.stores StoreWiring.application).dispatch a
  { stores := r.1.state
    errands := c.errands ++ r.2.effects.map (⟨·, c.clock⟩)
    clock := c.clock + 1
    begun := fun form =>
      if c.stores.phase form = .ready ∧ r.1.state.phase form = .waiting then some c.clock
      else c.begun form }

/-- The same without the errand at a place. -/
def without (c : Course) (place : Nat) : Course :=
  { c with errands := c.errands.eraseIdx place }

/-- Goes on by one move. Nothing comes back from where there is no errand. -/
def move (c : Course) : Move → Course
  | .act a => c.dispatch a
  | .answer place result =>
    match c.errands[place]? with
    | some e => (c.without place).dispatch (e.effect.answer result)
    | none => c

/-- One move after another. -/
def run (c : Course) (ms : List Move) : Course := ms.foldl move c

theorem run_snoc (c : Course) (ms : List Move) (m : Move) : c.run (ms ++ [m]) = (c.run ms).move m :=
  List.foldl_concat ..

/-- What holds at first and is kept by every move of a run holds at its end. -/
theorem run_induction {P : Course → Prop} {c : Course} {ms : List Move} (hstart : P c)
    (hmove : ∀ ns m, ns ++ [m] <+: ms → P (c.run ns) → P ((c.run ns).move m)) : P (c.run ms) := by
  -- what is said of a move is said of a beginning of the run, so the induction is on those
  have hall : ∀ ns, ns <+: ms → P (c.run ns) := by
    intro ns
    induction ns using List.reverseRecOn with
    | nil => intro _; exact hstart
    | append_singleton ns m ih =>
      intro hpre
      rw [run_snoc]
      exact hmove ns m hpre (ih ((List.prefix_append ns [m]).trans hpre))
  exact hall ms (List.prefix_refl ms)

/-! ## One dispatch -/

theorem stores_dispatch (c : Course) (a : Action) : (c.dispatch a).stores = c.stores.next a := by
  rw [dispatch, Stores.state_dispatch]

theorem errands_dispatch (c : Course) (a : Action) :
    (c.dispatch a).errands =
      c.errands ++ (c.stores.outcomeOf a .collections).effects.map (⟨·, c.clock⟩) := by
  rw [dispatch, Stores.effects_dispatch]

/-- An answer asks for nothing. -/
theorem errands_dispatch_answer (c : Course) {a : Action} (ha : a.isAnswer = true) :
    (c.dispatch a).errands = c.errands := by
  have hnone : (c.stores.outcomeOf a .collections).effects = [] :=
    CollectionStore.effects_of_isAnswer ha
  rw [errands_dispatch, hnone, List.map_nil, List.append_nil]

theorem move_answer {c : Course} {place : Nat} {e : Errand} (h : c.errands[place]? = some e)
    (result : Except RequestFailure Json) :
    c.move (.answer place result) = (c.without place).dispatch (e.effect.answer result) := by
  rw [move, h]

/-- What comes back was somewhere among the errands; the others stay. -/
theorem errands_without {c : Course} {place : Nat} {e : Errand} (h : c.errands[place]? = some e) :
    ∃ before after, c.errands = before ++ e :: after ∧
      (c.without place).errands = before ++ after := by
  obtain ⟨hlt, hget⟩ := List.getElem?_eq_some_iff.mp h
  refine ⟨c.errands.take place, c.errands.drop (place + 1), ?_, ?_⟩
  · rw [← hget, List.getElem_cons_drop, List.take_append_drop]
  · exact List.eraseIdx_eq_take_drop_succ ..

end Course

end OpenBadges
