import OpenBadges.Flow.Dispatcher
import OpenBadges.Proofs.RunOrder

/-!
# The wiring after any calls

A wiring grows by calls that register stores and declare waits, granted or
refused. Registering a store does not work the order out again but lets the new
store run last, and a wait that is refused has already been noted down when the
search for an order fails. So it takes an argument that the order kept in the
wiring is always the one that the search would find.

The invariant is `Settled`: the search finds just the order that is kept. It
holds of the empty wiring and every call preserves it, which makes the stored
order the least run order after any calls. A dispatch then lets the stores take
their turns in that order (`Turns`).
-/

namespace OpenBadges.Wiring

variable {η : Type}

/-! ## What each change comes to -/

/-- Giving a store back the waits it had undoes a declaration. -/
theorem setWaits_withWaits (w : Wiring η) (t : Token) (ds : List Token) :
    (w.withWaits t ds).setWaits t (w.waitsFor t) = w := by
  have h : ((w.withWaits t ds).setWaits t (w.waitsFor t)).registrations = w.registrations := by
    refine List.ext_getElem? fun i => ?_
    simp only [setWaits, withWaits, waitsFor, List.getElem?_modify]
    by_cases hi : t = i
    · subst hi
      cases w.registrations[t]? <;> simp
    · simp [hi]
  exact congrArg (fun rs => ({ w with registrations := rs } : Wiring η)) h

/-- A new store waits for nobody, and the others wait as before. -/
theorem waitsFor_withStore (w : Wiring η) (name : String) (handler : η) (t : Token) :
    (w.withStore name handler).waitsFor t = w.waitsFor t := by
  simp only [waitsFor, withStore, List.getElem?_append]
  split
  · rfl
  · rename_i h
    rw [List.getElem?_eq_none (Nat.le_of_not_lt h)]
    cases t - w.registrations.length with
    | zero => rfl
    | succ n => rfl

theorem size_withStore (w : Wiring η) (name : String) (handler : η) :
    (w.withStore name handler).size = w.size + 1 := by
  simp [size, withStore]

namespace Change

section Run

variable {α β : Type}

theorem bind_run (c : Change η α) (f : α → Change η β) (w : Wiring η) :
    (c >>= f) w = match c w with
      | .ok a w => f a w
      | .error e w => .error e w := by
  show EStateM.bind c f w = _
  unfold EStateM.bind
  cases c w <;> rfl

theorem get_bind_run (f : Wiring η → Change η β) (w : Wiring η) :
    ((get : Change η (Wiring η)) >>= f) w = f w w := rfl

theorem modify_bind_run (f : Wiring η → Wiring η) (c : Unit → Change η β) (w : Wiring η) :
    ((modify f : Change η Unit) >>= c) w = c () (f w) := rfl

end Run

theorem check_run (ts : List Token) (w : Wiring η) :
    check ts w = match w.checkTokens ts with
      | .ok () => .ok () w
      | .error e => .error e w := by
  rw [check, get_bind_run]
  cases w.checkTokens ts <;> rfl

/-- A store is registered unless its name is taken. -/
theorem register_run (name : String) (handler : η) (w : Wiring η) :
    Change.register name handler w =
      if w.registrations.any fun r => r.name = name then .error (.duplicateStore name) w
      else .ok w.size (w.withStore name handler) := by
  rw [Change.register, get_bind_run]
  by_cases h : w.registrations.any fun r => r.name = name
  · rw [if_pos h, if_pos h]; rfl
  · rw [if_neg h, if_neg h]; rfl

/-- Waits are declared if an order is left, and otherwise the wiring is as it was. -/
theorem waitFor_run (t : Token) (ds : List Token) (w : Wiring η) :
    Change.waitFor t ds w =
      match w.checkTokens (t :: ds) with
      | .error e => .error e w
      | .ok () =>
        match (w.withWaits t ds).runOrder? with
        | some order => .ok () { w.withWaits t ds with order := order }
        | none => .error (.cycle ((w.name? t).getD "") (w.blamed t ds)) w := by
  rw [Change.waitFor, bind_run, check_run]
  cases w.checkTokens (t :: ds) with
  | error e => rfl
  | ok u =>
      dsimp only
      rw [get_bind_run, modify_bind_run, get_bind_run]
      cases (w.withWaits t ds).runOrder? with
      | some order => rfl
      | none =>
          -- the waits noted down are taken back before the blame is found
          dsimp only
          rw [modify_bind_run, get_bind_run, setWaits_withWaits]
          rfl

theorem registerAfter_run (name : String) (handler : η) (ds : List Token) (w : Wiring η) :
    Change.registerAfter name handler ds w =
      match w.checkTokens ds with
      | .error e => .error e w
      | .ok () =>
        match Change.register name handler w with
        | .error e w => .error e w
        | .ok t w =>
          match Change.waitFor t ds w with
          | .error e w => .error e w
          | .ok () w => .ok t w := by
  rw [Change.registerAfter, bind_run, check_run]
  cases w.checkTokens ds with
  | error e => rfl
  | ok u =>
      dsimp only
      rw [bind_run]
      cases Change.register name handler w with
      | error e w => rfl
      | ok t w =>
          dsimp only
          rw [bind_run]
          cases Change.waitFor t ds w <;> rfl

end Change

/-! ## The order is always the one that would be found -/

/-- The order that is kept is the one that a search would find. -/
def Settled (w : Wiring η) : Prop := w.runOrder? = some w.order

theorem settled_init : Settled ({} : Wiring η) := rfl

/-- The last store of an order is placed when all before it have been. -/
theorem runOrderFrom_succ (w : Wiring η) : ∀ (n : Nat) (placed : List Token),
    w.runOrderFrom (n + 1) placed =
      (w.runOrderFrom n placed).bind fun o => (w.nextReady? o).map fun t => o ++ [t] := by
  intro n
  induction n with
  | zero =>
    intro placed
    cases h : w.nextReady? placed <;> simp [runOrderFrom, h]
  | succ n ih =>
    intro placed
    rw [runOrderFrom, runOrderFrom, Option.bind_assoc]
    exact congrArg _ (funext fun t => ih (placed ++ [t]))

/-- A new store does not come between the others. -/
theorem runOrderFrom_withStore (w : Wiring η) (name : String) (handler : η) :
    ∀ (n : Nat) {placed order : List Token}, w.runOrderFrom n placed = some order →
      (w.withStore name handler).runOrderFrom n placed = some order := by
  intro n
  induction n with
  | zero => intro placed order h; exact h
  | succ n ih =>
    intro placed order h
    rw [runOrderFrom, Option.bind_eq_some_iff] at h
    obtain ⟨t, hnext, h⟩ := h
    have hnext' : (w.withStore name handler).nextReady? placed = some t := by
      rw [nextReady?_eq_some] at hnext ⊢
      simp only [Ready, size_withStore, waitsFor_withStore] at hnext ⊢
      obtain ⟨⟨hlt, hnew, hwaits⟩, hfirst⟩ := hnext
      exact ⟨⟨Nat.lt_succ_of_lt hlt, hnew, hwaits⟩,
        fun a ha hready => hfirst a ha ⟨Nat.lt_trans ha hlt, hready.2⟩⟩
    rw [runOrderFrom, hnext']
    exact ih h

/-- **Letting a new store run last is what working the order out again would come to.** -/
theorem settled_withStore {w : Wiring η} (h : w.Settled) (name : String) (handler : η) :
    (w.withStore name handler).Settled := by
  have hrun := (runOrder?_eq_some_iff.mp h).toIsRunOrder
  have hnext : (w.withStore name handler).nextReady? w.order = some w.size := by
    rw [nextReady?_eq_some]
    simp only [Ready, size_withStore, waitsFor_withStore]
    refine ⟨⟨Nat.lt_succ_self _, fun hmem => ?_, fun d hd => ?_⟩, fun a ha hready => ?_⟩
    · exact absurd (hrun.mem_iff.mp hmem) (Nat.lt_irrefl _)
    · simp [waitsFor, size] at hd
    · exact hready.2.1 (hrun.mem_iff.mpr ha)
  rw [Settled, runOrder?, size_withStore, runOrderFrom_succ,
    runOrderFrom_withStore w name handler w.size h, Option.bind_some, hnext]
  rfl

/-- The wiring that a change leaves behind, granted or refused. -/
def Change.left {α : Type} (c : Change η α) (w : Wiring η) : Wiring η :=
  match c w with
  | .ok _ w => w
  | .error _ w => w

theorem settled_register {w : Wiring η} (h : w.Settled) (name : String) (handler : η) :
    ((Change.register name handler).left w).Settled := by
  rw [Change.left, Change.register_run]
  by_cases hname : w.registrations.any fun r => r.name = name
  · rw [if_pos hname]; exact h
  · rw [if_neg hname]; exact settled_withStore h name handler

/-- The search does not look at the order that is kept. -/
theorem runOrder?_setOrder (w : Wiring η) (order : List Token) :
    ({ w with order := order } : Wiring η).runOrder? = w.runOrder? := by
  have run : ∀ (n : Nat) (placed : List Token),
      ({ w with order := order } : Wiring η).runOrderFrom n placed = w.runOrderFrom n placed := by
    intro n
    induction n with
    | zero => intro placed; rfl
    | succ n ih =>
      intro placed
      rw [runOrderFrom, runOrderFrom]
      exact congrArg _ (funext fun t => ih (placed ++ [t]))
  exact run w.size []

theorem settled_waitFor {w : Wiring η} (h : w.Settled) (t : Token) (ds : List Token) :
    ((Change.waitFor t ds).left w).Settled := by
  rw [Change.left, Change.waitFor_run]
  cases w.checkTokens (t :: ds) with
  | error e => exact h
  | ok u =>
      dsimp only
      cases horder : (w.withWaits t ds).runOrder? with
      | some order =>
          show ({ w.withWaits t ds with order := order } : Wiring η).runOrder? = some order
          rw [runOrder?_setOrder, horder]
      | none => exact h

theorem settled_registerAfter {w : Wiring η} (h : w.Settled) (name : String) (handler : η)
    (ds : List Token) : ((Change.registerAfter name handler ds).left w).Settled := by
  rw [Change.left, Change.registerAfter_run]
  cases w.checkTokens ds with
  | error e => exact h
  | ok u =>
      have hreg := settled_register h name handler
      rw [Change.left] at hreg
      dsimp only
      cases hr : Change.register name handler w with
      | error e w' => rw [hr] at hreg; exact hreg
      | ok t w' =>
          rw [hr] at hreg
          have hwait := settled_waitFor hreg t ds
          rw [Change.left] at hwait
          dsimp only
          cases hw : Change.waitFor t ds w' <;> (rw [hw] at hwait; exact hwait)

/-- A call that changes the wiring. -/
inductive Call (η : Type) where
  /-- Register a store. -/
  | register (name : String) (handler : η)
  /-- Register a store that waits for others. -/
  | registerAfter (name : String) (handler : η) (ds : List Token)
  /-- Make a store wait for others. -/
  | waitFor (t : Token) (ds : List Token)

/-- The wiring that a call leaves behind, granted or refused. -/
def Call.perform (w : Wiring η) : Call η → Wiring η
  | register name handler => (Change.register name handler).left w
  | registerAfter name handler ds => (Change.registerAfter name handler ds).left w
  | waitFor t ds => (Change.waitFor t ds).left w

/-- The wiring after some calls, the first of them on an empty wiring. -/
def afterCalls (calls : List (Call η)) : Wiring η := calls.foldl Call.perform {}

/-- **Preserved by every call.** -/
theorem settled_perform {w : Wiring η} (h : w.Settled) (c : Call η) : (c.perform w).Settled := by
  cases c with
  | register name handler => exact settled_register h name handler
  | registerAfter name handler ds => exact settled_registerAfter h name handler ds
  | waitFor t ds => exact settled_waitFor h t ds

theorem settled_afterCalls (calls : List (Call η)) : (afterCalls calls).Settled := by
  have run : ∀ (calls : List (Call η)) {w : Wiring η}, w.Settled →
      (calls.foldl Call.perform w).Settled := by
    intro calls
    induction calls with
    | nil => intro w h; exact h
    | cons c calls ih => intro w h; exact ih (settled_perform h c)
  exact run calls settled_init

/-! ## Dispatches -/

variable {σ α ε : Type}

/-- The stores take turns at an action, in the order given; each sees what the last one left. -/
inductive Turns (w : Wiring (Handler σ α ε)) (a : α) :
    List Token → σ → σ → Outcome ε → Prop where
  /-- All have had their turn. -/
  | done {s : σ} : Turns w a [] s s .unchanged
  /-- The handler of the next store runs. -/
  | turn {t : Token} {r : Registration (Handler σ α ε)} {ts : List Token} {s s₁ s₂ : σ}
      {o₁ o₂ : Outcome ε} : w.registrations[t]? = some r → r.handler s a = (s₁, o₁) →
      Turns w a ts s₁ s₂ o₂ → Turns w a (t :: ts) s s₂ (o₁ ++ o₂)

theorem turns_runAll (w : Wiring (Handler σ α ε)) (a : α) : ∀ (ts : List Token) (s : σ),
    (∀ t ∈ ts, t < w.size) →
    let r := Handler.runAll (ts.filterMap fun t => w.registrations[t]?.map (·.handler)) s a
    Turns w a ts s r.1 r.2 := by
  intro ts
  induction ts with
  | nil => intro s _; exact Turns.done
  | cons t ts ih =>
    intro s hlt
    obtain ⟨r, ht⟩ : ∃ r, w.registrations[t]? = some r :=
      ⟨_, List.getElem?_eq_getElem (hlt t (by simp))⟩
    have hrest := ih (r.handler s a).1 (fun t' ht' => hlt t' (List.mem_cons_of_mem _ ht'))
    have hcons : (t :: ts).filterMap (fun t => w.registrations[t]?.map (·.handler)) =
        r.handler :: ts.filterMap fun t => w.registrations[t]?.map (·.handler) := by
      rw [List.filterMap_cons, ht]; rfl
    rw [hcons]
    exact Turns.turn ht rfl hrest

/-- In a wiring with a run order, a dispatch lets the stores take their turns in it. -/
theorem turns_dispatch {w : Wiring (Handler σ α ε)} (h : w.IsRunOrder w.order) (s : σ) (a : α) :
    let r := (Dispatcher.mk s w).dispatch a
    Turns w a w.order s r.1.state r.2 ∧ r.1.wiring = w :=
  ⟨turns_runAll w a w.order s fun _ ht => h.mem_iff.mp ht, rfl⟩

/--
**The order that is kept is the least run order, whatever calls were made.**

It is also the one that a search would find, after every call and again when one
more store is to run last; and every dispatch lets the stores take their turns
in it.
-/
theorem isLeastRunOrder_afterCalls (calls : List (Call (Handler σ α ε))) :
    let w := afterCalls calls
    w.IsLeastRunOrder w.order ∧ w.runOrder? = some w.order ∧
      (∀ name handler, (w.withStore name handler).runOrder? = some (w.order ++ [w.size])) ∧
      ∀ s a, let r := (Dispatcher.mk s w).dispatch a
        Turns w a w.order s r.1.state r.2 ∧ r.1.wiring = w := by
  have hw := settled_afterCalls calls
  have hleast := runOrder?_eq_some_iff.mp hw
  exact ⟨hleast, hw, fun name handler => settled_withStore hw name handler,
    turns_dispatch hleast.toIsRunOrder⟩

-- the menus wait for the user, and the user is then refused to wait for the menus
example :
    (afterCalls [.register "menu" (), .register "user" (), .waitFor 0 [1], .waitFor 1 [0]] :
      Wiring Unit).order = [1, 0] := by decide

end OpenBadges.Wiring
