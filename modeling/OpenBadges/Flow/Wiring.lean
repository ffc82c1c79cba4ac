/-!
# Who runs after whom

Stores register one handler each and may wait for other stores, so that these
have already dealt with an action when their turn comes. The run order is the
least one in order of registration that respects every wait; it is worked out
when the wiring changes, and a change that would leave no order is refused as a
whole.
-/

namespace OpenBadges

/-- A registered store, counted from zero in order of registration. -/
abbrev Token := Nat

/-- A store with its handler and the stores it waits for. -/
structure Registration (η : Type) where
  name : String
  /-- What it does with an action. -/
  handler : η
  /-- The stores that run before it. -/
  waitsFor : List Token := []

/-- The registered stores and the order they run in. -/
structure Wiring (η : Type) where
  /-- The stores, in order of registration. -/
  registrations : List (Registration η) := []
  order : List Token := []

/-- Why a change of the wiring is refused. -/
inductive WiringError where
  /-- Two stores of one name. -/
  | duplicateStore (name : String)
  /-- No store has this token. -/
  | unknownToken (token : Token)
  /-- `on` already runs after `store`, or is `store` itself. -/
  | cycle (store on : String)
deriving DecidableEq, Repr

def WiringError.message : WiringError → String
  | duplicateStore name => s!"store `{name}` is already registered"
  | unknownToken token => s!"unknown dispatch token DispatchToken({token})"
  | cycle store on => s!"store `{store}` waiting for `{on}` would create a dependency cycle"

namespace Wiring

variable {η : Type}

def size (w : Wiring η) : Nat := w.registrations.length

/-- The token of the store of this name. -/
def token? (w : Wiring η) (name : String) : Option Token :=
  w.registrations.findIdx? fun r => r.name = name

def name? (w : Wiring η) (t : Token) : Option String := w.registrations[t]?.map (·.name)

/-- The stores that `t` waits for directly. -/
def waitsFor (w : Wiring η) (t : Token) : List Token :=
  (w.registrations[t]?.map (·.waitsFor)).getD []

/-- The handlers, in the order they run. -/
def handlers (w : Wiring η) : List η := w.order.filterMap fun t => w.registrations[t]?.map (·.handler)

/-- The names of the stores, in the order they run. -/
def orderNames (w : Wiring η) : List String := w.order.filterMap w.name?

/-! ## The run order -/

/-- The first store that has not run although all it waits for has. -/
def nextReady? (w : Wiring η) (placed : List Token) : Option Token :=
  (List.range w.size).find? fun t => t ∉ placed ∧ ∀ d ∈ w.waitsFor t, d ∈ placed

/-- The order that starts with `placed` and goes on for `n` more stores. -/
def runOrderFrom (w : Wiring η) : (n : Nat) → (placed : List Token) → Option (List Token)
  | 0, placed => some placed
  | n + 1, placed => (w.nextReady? placed).bind fun t => runOrderFrom w n (placed ++ [t])

/-- The least order of all stores in which each runs after those it waits for, if there is any. -/
def runOrder? (w : Wiring η) : Option (List Token) := w.runOrderFrom w.size []

/-! ## Reachability -/

/--
Whether a search from the stores on the stack comes to `target`. A store is
expanded once, when it is taken out of `unseen`.
-/
def search (w : Wiring η) (target : Token) (stack unseen : List Token) : Bool :=
  match stack with
  | [] => false
  | t :: rest =>
    if t = target then true
    else if _h : t ∈ unseen then w.search target (w.waitsFor t ++ rest) (unseen.erase t)
    else w.search target rest unseen
termination_by (unseen.length, stack.length)
decreasing_by
  · have := List.length_erase_of_mem _h
    have := List.length_pos_of_mem _h
    exact Prod.Lex.left _ _ (by omega)
  · exact Prod.Lex.right _ (by simp)

/-- Whether `t` is `target` or waits for it, directly or through others. -/
def dependsOn (w : Wiring η) (t target : Token) : Bool :=
  w.search target [t] (List.range w.size)

/-! ## Changes -/

/-- The first of some tokens that no store has. -/
def checkTokens (w : Wiring η) (ts : List Token) : Except WiringError Unit :=
  match ts.find? fun t => w.size ≤ t with
  | some t => .error (.unknownToken t)
  | none => .ok ()

/-- `ds` and those of `more` that are not in it, each once. -/
def union (ds more : List Token) : List Token :=
  more.foldl (fun ds d => if d ∈ ds then ds else ds ++ [d]) ds

/-- The wiring with one more store, which waits for nobody and runs last. -/
def withStore (w : Wiring η) (name : String) (handler : η) : Wiring η where
  registrations := w.registrations ++ [{ name := name, handler := handler }]
  order := w.order ++ [w.size]

/-- The wiring in which `t` waits for just `ds`, before any order is worked out. -/
def setWaits (w : Wiring η) (t : Token) (ds : List Token) : Wiring η :=
  { w with registrations := w.registrations.modify t fun r => { r with waitsFor := ds } }

/-- The wiring in which `t` also waits for `ds`, before any order is worked out. -/
def withWaits (w : Wiring η) (t : Token) (ds : List Token) : Wiring η :=
  w.setWaits t (union (w.waitsFor t) ds)

/-- The store to blame when `t` cannot wait for `ds`: the first that runs after `t` itself. -/
def blamed (w : Wiring η) (t : Token) (ds : List Token) : String :=
  (((ds.find? fun d => w.dependsOn d t).or ds.head?).bind w.name?).getD ""

/-- A change of the wiring in place. A refusal leaves a wiring behind as well. -/
abbrev Change (η α : Type) := EStateM WiringError (Wiring η) α

namespace Change

/-- Refuses to go on with a token that no store has. -/
def check (ts : List Token) : Change η Unit := do
  MonadExcept.ofExcept ((← get).checkTokens ts)

/-- Registers a store that waits for nobody. -/
def register (name : String) (handler : η) : Change η Token := do
  let w ← get
  if w.registrations.any fun r => r.name = name then
    throw (.duplicateStore name)
  set (w.withStore name handler)
  return w.size

/-- Makes `t` wait for each of `ds`. -/
def waitFor (t : Token) (ds : List Token) : Change η Unit := do
  check (t :: ds)
  let previous := (← get).waitsFor t
  modify fun w => w.withWaits t ds
  match (← get).runOrder? with
  | some order => modify fun w => { w with order := order }
  | none =>
    modify fun w => w.setWaits t previous
    let w ← get
    throw (.cycle ((w.name? t).getD "") (w.blamed t ds))

/-- Registers a store that waits for each of `ds`. -/
def registerAfter (name : String) (handler : η) (ds : List Token) : Change η Token := do
  check ds
  let t ← register name handler
  waitFor t ds
  return t

/-- What a change comes to for somebody who gives the wiring up when it is refused. -/
def granted {α : Type} (c : Change η α) (w : Wiring η) : Except WiringError (α × Wiring η) :=
  match c w with
  | .ok a w => .ok (a, w)
  | .error e _ => .error e

end Change

/-- Registers a store that waits for nobody, or gives up. -/
def register (w : Wiring η) (name : String) (handler : η) : Except WiringError (Token × Wiring η) :=
  (Change.register name handler).granted w

/-- Registers a store that waits for each of `ds`, or gives up. -/
def registerAfter (w : Wiring η) (name : String) (handler : η) (ds : List Token) :
    Except WiringError (Token × Wiring η) :=
  (Change.registerAfter name handler ds).granted w

end Wiring

end OpenBadges
