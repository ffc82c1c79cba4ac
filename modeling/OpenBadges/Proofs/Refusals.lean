import OpenBadges.Proofs.Reachability

/-!
# Which changes of the wiring are refused, and what the others add

A store may wait for others if an order is left; if there is none, the store to
blame is found by a search of its own, through the waits as they were before. The
two agree: a wait is refused exactly if it would lead back to the store that
waits, and the first store that leads there is blamed.

A wait that is refused has been noted down and is taken back, and a store that is
to wait for others is registered before it is known whether it may. Still, every
refusal leaves the wiring as it was. For a store that was just registered is
reached by no other, so that the second step of its registration cannot fail.

A change that is granted adds the store or the waits that it is about, and nothing
else. So after any calls the stores and their waits are just those of the calls that
were granted.
-/

namespace OpenBadges.Wiring

variable {η : Type}

/-! ## Who is blamed -/

/-- All tokens are known. -/
theorem checkTokens_eq_ok_iff {w : Wiring η} {ts : List Token} :
    w.checkTokens ts = .ok () ↔ ∀ t ∈ ts, t < w.size := by
  rw [checkTokens]
  cases hfind : ts.find? fun t => w.size ≤ t with
  | none => simpa using hfind
  | some t =>
    have ht := List.find?_some hfind
    simp only [reduceCtorEq, false_iff]
    intro hall
    exact absurd (hall t (List.mem_of_find?_eq_some hfind)) (by simpa using ht)

/-- A registered store has a name. -/
theorem exists_name? {w : Wiring η} {t : Token} (ht : t < w.size) : ∃ name, w.name? t = some name :=
  ⟨_, by rw [name?, List.getElem?_eq_getElem ht]; rfl⟩

/-- The first of some stores that reaches `t`, if one does. -/
theorem find?_dependsOn_eq_some_iff {w : Wiring η} {t d : Token} {ds : List Token} :
    ds.find? (fun d => w.dependsOn d t) = some d ↔
      w.Reaches d t ∧ ∃ before after, ds = before ++ d :: after ∧ ∀ a ∈ before, ¬w.Reaches a t := by
  simp only [List.find?_eq_some_iff_append, dependsOn_iff, Bool.not_eq_true', ← Bool.not_eq_true]

/-- **The store that is blamed is the first that reaches the one that waits.** -/
theorem blamed_of_reaches {w : Wiring η} {t : Token} {ds : List Token}
    (hds : ∀ d ∈ ds, d < w.size) (h : ∃ d ∈ ds, w.Reaches d t) :
    ∃ d, ds.find? (fun d => w.dependsOn d t) = some d ∧ w.name? d = some (w.blamed t ds) := by
  obtain ⟨d, hfind⟩ : ∃ d, ds.find? (fun d => w.dependsOn d t) = some d := by
    obtain ⟨d, hd, hreach⟩ := h
    rw [← Option.isSome_iff_exists, List.find?_isSome]
    exact ⟨d, hd, dependsOn_iff.mpr hreach⟩
  obtain ⟨on, hon⟩ := exists_name? (hds d (List.mem_of_find?_eq_some hfind))
  refine ⟨d, hfind, ?_⟩
  rw [blamed, hfind, Option.some_or, Option.bind_some, hon, Option.getD_some]

/-! ## Which waits are granted -/

section Known

variable {w : Wiring η} {order : List Token} (h : w.IsRunOrder order) {t : Token}
  {ds : List Token} (known : ∀ a ∈ t :: ds, a < w.size)
include h known

/-- A wait that leads back to no store is granted. -/
theorem waitFor_of_not_reaches (hfree : ¬∃ d ∈ ds, w.Reaches d t) :
    ∃ w', Change.waitFor t ds w = .ok () w' := by
  have hnone := runOrder?_withWaits_eq_none_iff h (known t List.mem_cons_self)
    fun d hd => known d (List.mem_cons_of_mem _ hd)
  obtain ⟨order', horder⟩ := Option.ne_none_iff_exists'.mp fun heq => hfree (hnone.mp heq)
  refine ⟨{ w.withWaits t ds with order := order' }, ?_⟩
  rw [Change.waitFor_run, checkTokens_eq_ok_iff.mpr known]
  dsimp only
  rw [horder]

/-- A wait that leads back to the store that waits is refused, and nothing is changed. -/
theorem waitFor_of_reaches (hloop : ∃ d ∈ ds, w.Reaches d t) :
    Change.waitFor t ds w = .error (.cycle ((w.name? t).getD "") (w.blamed t ds)) w := by
  have hnone := runOrder?_withWaits_eq_none_iff h (known t List.mem_cons_self)
    fun d hd => known d (List.mem_cons_of_mem _ hd)
  rw [Change.waitFor_run, checkTokens_eq_ok_iff.mpr known]
  dsimp only
  rw [hnone.mpr hloop]

end Known

/--
**A wait is refused exactly if it would go round in a circle, and the report names the culprit.**

After any calls, `t` is refused to wait for known stores if one of them is `t` or
waits for it in turn, and is granted it otherwise. The report names `t` and the
first of the stores that does; there always is one, so the search for it never
has to fall back on the first store of the list.
-/
theorem waitFor_afterCalls (calls : List (Call η)) (t : Token) (ds : List Token)
    (known : ∀ a ∈ t :: ds, a < (afterCalls calls).size) :
    let w := afterCalls calls
    ((∃ d ∈ ds, w.Reaches d t) ↔
      ∃ store on w', Change.waitFor t ds w = .error (.cycle store on) w') ∧
    ((¬∃ d ∈ ds, w.Reaches d t) ↔ ∃ w', Change.waitFor t ds w = .ok () w') ∧
    ∀ store on w', Change.waitFor t ds w = .error (.cycle store on) w' →
      w.name? t = some store ∧
      ∃ before d after, ds = before ++ d :: after ∧ w.Reaches d t ∧
        (∀ a ∈ before, ¬w.Reaches a t) ∧ w.name? d = some on ∧
        ds.find? (fun d => w.dependsOn d t) = some d := by
  intro w
  have hrun := (runOrder?_eq_some_iff.mp (settled_afterCalls calls)).toIsRunOrder
  by_cases hloop : ∃ d ∈ ds, w.Reaches d t
  · have hwait := waitFor_of_reaches hrun known hloop
    refine ⟨iff_of_true hloop ⟨_, _, _, hwait⟩, iff_of_false (fun h => h hloop) ?_, ?_⟩
    · rintro ⟨w', h⟩
      rw [hwait] at h
      cases h
    · intro store on w' h
      rw [hwait] at h
      cases h
      obtain ⟨store, hstore⟩ := exists_name? (known t List.mem_cons_self)
      obtain ⟨d, hfind, hon⟩ := blamed_of_reaches (fun d hd => known d (List.mem_cons_of_mem _ hd))
        hloop
      obtain ⟨hreach, before, after, hsplit, hbefore⟩ := find?_dependsOn_eq_some_iff.mp hfind
      exact ⟨by rw [hstore]; rfl, before, d, after, hsplit, hreach, hbefore, hon, hfind⟩
  · obtain ⟨w', hwait⟩ := waitFor_of_not_reaches hrun known hloop
    refine ⟨iff_of_false hloop ?_, iff_of_true hloop ⟨w', hwait⟩, ?_⟩
    · rintro ⟨store, on, w'', h⟩
      rw [hwait] at h
      cases h
    · intro store on w'' h
      rw [hwait] at h
      cases h

/-- One wait leads from the third store to the first, through the second. -/
def queuedUp : List (Call Unit) :=
  [.register "forms" (), .registerAfter "api" () [0], .registerAfter "route" () [1],
    .register "menu" ()]

/-- Of the stores that the first one is to wait for, the second one named leads back to it. -/
theorem waitFor_queuedUp :
    (∀ a ∈ [0, 3, 2, 1], a < (afterCalls queuedUp).size) ∧
      (afterCalls queuedUp).Reaches 2 0 ∧
      ∃ store on w', Change.waitFor 0 [3, 2, 1] (afterCalls queuedUp) =
        .error (.cycle store on) w' := by
  have known : ∀ a ∈ [0, 3, 2, 1], a < (afterCalls queuedUp).size := by decide
  have hreach : (afterCalls queuedUp).Reaches 2 0 :=
    .head (b := 1) (by decide) (.single (by decide))
  exact ⟨known, hreach,
    (waitFor_afterCalls queuedUp 0 [3, 2, 1] known).1.mp ⟨2, by decide, hreach⟩⟩

/-! ## What a refusal leaves -/

/-- What a change is refused for, if it is. -/
def Change.refusal? {α : Type} (c : Change η α) (w : Wiring η) : Option WiringError :=
  match c w with
  | .ok _ _ => none
  | .error e _ => some e

/-- What a call is refused for, if it is. -/
def Call.refusal? (w : Wiring η) : Call η → Option WiringError
  | register name handler => (Change.register name handler).refusal? w
  | registerAfter name handler ds => (Change.registerAfter name handler ds).refusal? w
  | waitFor t ds => (Change.waitFor t ds).refusal? w

theorem left_register_of_refused {w : Wiring η} {name : String} {handler : η} {e : WiringError}
    (h : (Change.register name handler).refusal? w = some e) :
    (Change.register name handler).left w = w := by
  rw [Change.refusal?, Change.register_run] at h
  rw [Change.left, Change.register_run]
  by_cases hname : w.registrations.any fun r => r.name = name
  · rw [if_pos hname]
  · rw [if_neg hname] at h
    simp at h

/-- The waits that were noted down for a refused store have been taken back. -/
theorem left_waitFor_of_refused {w : Wiring η} {t : Token} {ds : List Token} {e : WiringError}
    (h : (Change.waitFor t ds).refusal? w = some e) : (Change.waitFor t ds).left w = w := by
  rw [Change.refusal?, Change.waitFor_run] at h
  rw [Change.left, Change.waitFor_run]
  cases hcheck : w.checkTokens (t :: ds) with
  | error e => rfl
  | ok u =>
    rw [hcheck] at h
    dsimp only at h ⊢
    cases horder : (w.withWaits t ds).runOrder? with
    | some order => simp [horder] at h
    | none => rfl

/-- From the other stores, no wait leads to a new one. -/
theorem lt_of_reaches_withStore {w : Wiring η} {order : List Token} (h : w.IsRunOrder order)
    {name : String} {handler : η} {a b : Token} (hab : (w.withStore name handler).Reaches a b)
    (ha : a < w.size) : b < w.size := by
  induction hab with
  | refl => exact ha
  | tail _ hd _ =>
    rw [waitsFor_withStore] at hd
    exact h.lt_of_mem_waitsFor hd

/-- **A store that was just registered may wait for any of the others.** -/
theorem exists_waitFor_withStore {w : Wiring η} (h : w.Settled) (name : String) (handler : η)
    {ds : List Token} (hds : ∀ d ∈ ds, d < w.size) :
    ∃ w', Change.waitFor w.size ds (w.withStore name handler) = .ok () w' := by
  have hrun := (runOrder?_eq_some_iff.mp h).toIsRunOrder
  have hrun' := (runOrder?_eq_some_iff.mp (settled_withStore h name handler)).toIsRunOrder
  have hlt : ∀ a ∈ w.size :: ds, a < (w.withStore name handler).size := by
    intro a ha
    rw [size_withStore]
    rcases List.mem_cons.mp ha with rfl | ha
    · exact Nat.lt_succ_self _
    · exact Nat.lt_succ_of_lt (hds a ha)
  refine waitFor_of_not_reaches hrun' hlt ?_
  rintro ⟨d, hd, hreach⟩
  exact Nat.lt_irrefl _ (lt_of_reaches_withStore hrun hreach (hds d hd))

/-- Registering a store that waits for others is refused before the store is there, or not at all. -/
theorem left_registerAfter_of_refused {w : Wiring η} (hw : w.Settled) {name : String}
    {handler : η} {ds : List Token} {e : WiringError}
    (h : (Change.registerAfter name handler ds).refusal? w = some e) :
    (Change.registerAfter name handler ds).left w = w := by
  rw [Change.refusal?, Change.registerAfter_run] at h
  rw [Change.left, Change.registerAfter_run]
  cases hcheck : w.checkTokens ds with
  | error e => rfl
  | ok u =>
    rw [hcheck] at h
    rw [Change.register_run] at h ⊢
    by_cases hname : w.registrations.any fun r => r.name = name
    · rw [if_pos hname]
    · obtain ⟨w', hwait⟩ :=
        exists_waitFor_withStore hw name handler (checkTokens_eq_ok_iff.mp hcheck)
      rw [if_neg hname] at h
      dsimp only at h
      rw [hwait] at h
      simp at h

/-- A call that is refused leaves the wiring as it was. -/
theorem perform_of_refused {w : Wiring η} (hw : w.Settled) {c : Call η} {e : WiringError}
    (h : c.refusal? w = some e) : c.perform w = w := by
  cases c with
  | register name handler => exact left_register_of_refused h
  | registerAfter name handler ds => exact left_registerAfter_of_refused hw h
  | waitFor t ds => exact left_waitFor_of_refused h

/--
**A refused call changes nothing, whatever calls were made before it.**

The stores with their names, handlers and waits, their order and their tokens are
as they were. In particular no store is left behind half registered: when a store
is to wait for others that are known, and its name is not taken, it may.
-/
theorem refused_afterCalls (calls : List (Call η)) :
    let w := afterCalls calls
    (∀ (c : Call η) (e : WiringError), c.refusal? w = some e →
      c.perform w = w ∧ ∀ name, (c.perform w).token? name = w.token? name) ∧
    ∀ name handler ds t w₁, Change.check ds w = .ok () w →
      Change.register name handler w = .ok t w₁ →
        ∃ w₂, Change.waitFor t ds w₁ = .ok () w₂ := by
  intro w
  have hw : w.Settled := settled_afterCalls calls
  constructor
  · intro c e h
    have hleft : c.perform w = w := perform_of_refused hw h
    exact ⟨hleft, fun name => by rw [hleft]⟩
  · intro name handler ds t w₁ hcheck hregister
    rw [Change.register_run] at hregister
    split at hregister
    · cases hregister
    · cases hregister
      refine exists_waitFor_withStore hw name handler (checkTokens_eq_ok_iff.mp ?_)
      rw [Change.check_run] at hcheck
      cases hds : w.checkTokens ds with
      | ok u => rfl
      | error e => simp [hds] at hcheck

/-- The first store may not wait for the third, and another one may wait for both. -/
theorem refused_queuedUp :
    (∃ store on, (Call.waitFor 0 [2]).refusal? (afterCalls queuedUp) = some (.cycle store on) ∧
      (Call.waitFor 0 [2]).perform (afterCalls queuedUp) = afterCalls queuedUp) ∧
    ∃ w₂, Change.waitFor 4 [0, 2] ((afterCalls queuedUp).withStore "user" ()) = .ok () w₂ := by
  obtain ⟨store, on, hrefused⟩ : ∃ store on, (Call.waitFor 0 [2]).refusal? (afterCalls queuedUp) =
      some (.cycle store on) := ⟨_, _, rfl⟩
  have h := refused_afterCalls queuedUp
  exact ⟨⟨store, on, hrefused, (h.1 _ _ hrefused).1⟩, h.2 "user" () [0, 2] 4 _ rfl rfl⟩

/-! ## What a grant adds -/

/-- The stores with their handlers, in order of registration. -/
def stores (w : Wiring η) : List (String × η) := w.registrations.map fun r => (r.name, r.handler)

theorem stores_withStore (w : Wiring η) (name : String) (handler : η) :
    (w.withStore name handler).stores = w.stores ++ [(name, handler)] := by
  simp [stores, withStore]

theorem stores_withWaits (w : Wiring η) (t : Token) (ds : List Token) :
    (w.withWaits t ds).stores = w.stores := by
  refine List.ext_getElem? fun i => ?_
  simp only [stores, withWaits, setWaits, List.getElem?_map, List.getElem?_modify]
  by_cases hi : t = i <;> cases w.registrations[i]? <;> simp [hi]

/-- A store that is registered comes last, and waits for nobody. -/
theorem granted_register {w w' : Wiring η} {name : String} {handler : η} {t : Token}
    (h : Change.register name handler w = .ok t w') :
    t = w.size ∧ w'.stores = w.stores ++ [(name, handler)] ∧
      ∀ a, w'.waitsFor a = w.waitsFor a := by
  rw [Change.register_run] at h
  split at h
  · cases h
  · cases h
    exact ⟨rfl, stores_withStore w name handler, waitsFor_withStore w name handler⟩

/-- **A wait that is granted adds just the stores to wait for.** -/
theorem granted_waitFor {w w' : Wiring η} {t : Token} {ds : List Token}
    (h : Change.waitFor t ds w = .ok () w') :
    w'.stores = w.stores ∧ ∀ a d, d ∈ w'.waitsFor a ↔ d ∈ w.waitsFor a ∨ a = t ∧ d ∈ ds := by
  rw [Change.waitFor_run] at h
  cases hcheck : w.checkTokens (t :: ds) with
  | error e => simp [hcheck] at h
  | ok u =>
      have ht : t < w.size := checkTokens_eq_ok_iff.mp hcheck t List.mem_cons_self
      rw [hcheck] at h
      dsimp only at h
      cases horder : (w.withWaits t ds).runOrder? with
      | none => simp [horder] at h
      | some order =>
          rw [horder] at h
          cases h
          exact ⟨stores_withWaits w t ds, fun _ _ => mem_waitsFor_withWaits ht⟩

/-- A store that is registered and waits for others comes last, and waits just for them. -/
theorem granted_registerAfter {w w' : Wiring η} {name : String} {handler : η} {ds : List Token}
    {t : Token} (h : Change.registerAfter name handler ds w = .ok t w') :
    t = w.size ∧ w'.stores = w.stores ++ [(name, handler)] ∧
      ∀ a d, d ∈ w'.waitsFor a ↔ d ∈ w.waitsFor a ∨ a = w.size ∧ d ∈ ds := by
  rw [Change.registerAfter_run] at h
  cases hcheck : w.checkTokens ds with
  | error e => simp [hcheck] at h
  | ok u =>
      rw [hcheck] at h
      dsimp only at h
      cases hregister : Change.register name handler w with
      | error e w₁ => simp [hregister] at h
      | ok t₁ w₁ =>
          obtain ⟨rfl, hstores, hwaits⟩ := granted_register hregister
          rw [hregister] at h
          dsimp only at h
          cases hwait : Change.waitFor w.size ds w₁ with
          | error e w₂ => simp [hwait] at h
          | ok u w₂ =>
              obtain ⟨hstores', hwaits'⟩ := granted_waitFor hwait
              rw [hwait] at h
              cases h
              exact ⟨rfl, hstores'.trans hstores, fun a d => by rw [hwaits', hwaits]⟩

/-- The store that a call is to register. -/
def Call.store? : Call η → Option (String × η)
  | register name handler => some (name, handler)
  | registerAfter name handler _ => some (name, handler)
  | waitFor _ _ => none

/-- A call is to make the store `a` wait for `d`. -/
def Call.Declares (w : Wiring η) : Call η → (a d : Token) → Prop
  | register _ _, _, _ => False
  | registerAfter _ _ ds, a, d => a = w.size ∧ d ∈ ds
  | waitFor t ds, a, d => a = t ∧ d ∈ ds

/-- **A call that is granted does what it is to do, and nothing else.** -/
theorem perform_of_granted {w : Wiring η} {c : Call η} (h : c.refusal? w = none) :
    (c.perform w).stores = w.stores ++ c.store?.toList ∧
      ∀ a d, d ∈ (c.perform w).waitsFor a ↔ d ∈ w.waitsFor a ∨ c.Declares w a d := by
  cases c with
  | register name handler =>
      rw [Call.refusal?, Change.refusal?] at h
      rw [Call.perform, Change.left]
      cases hrun : Change.register name handler w with
      | error e w' => simp [hrun] at h
      | ok t w' =>
          obtain ⟨_, hstores, hwaits⟩ := granted_register hrun
          exact ⟨hstores, fun a d => by simp [hwaits, Call.Declares]⟩
  | registerAfter name handler ds =>
      rw [Call.refusal?, Change.refusal?] at h
      rw [Call.perform, Change.left]
      cases hrun : Change.registerAfter name handler ds w with
      | error e w' => simp [hrun] at h
      | ok t w' => exact (granted_registerAfter hrun).2
  | waitFor t ds =>
      rw [Call.refusal?, Change.refusal?] at h
      rw [Call.perform, Change.left]
      cases hrun : Change.waitFor t ds w with
      | error e w' => simp [hrun] at h
      | ok u w' =>
          obtain ⟨hstores, hwaits⟩ := granted_waitFor hrun
          exact ⟨by simp [hstores, Call.store?], hwaits⟩

/-- Those of some calls that are granted, each with the wiring that it finds. -/
def grants (w : Wiring η) : List (Call η) → List (Wiring η × Call η)
  | [] => []
  | c :: calls =>
    if (c.refusal? w).isNone then (w, c) :: grants (c.perform w) calls
    else grants (c.perform w) calls

theorem foldl_perform {w : Wiring η} (hw : w.Settled) (calls : List (Call η)) :
    (calls.foldl Call.perform w).stores = w.stores ++ (w.grants calls).filterMap (·.2.store?) ∧
      ∀ a d, d ∈ (calls.foldl Call.perform w).waitsFor a ↔
        d ∈ w.waitsFor a ∨ ∃ g ∈ w.grants calls, g.2.Declares g.1 a d := by
  induction calls generalizing w with
  | nil => simp [grants]
  | cons c calls ih =>
      obtain ⟨hstores, hwaits⟩ := ih (settled_perform hw c)
      rw [List.foldl_cons, grants, hstores]
      cases hrefusal : c.refusal? w with
      | some e =>
          rw [perform_of_refused hw hrefusal] at hwaits ⊢
          exact ⟨rfl, hwaits⟩
      | none =>
          obtain ⟨hstores', hwaits'⟩ := perform_of_granted hrefusal
          constructor
          · cases hstore : c.store? <;> simp [hstores', hstore]
          · intro a d
            rw [hwaits, hwaits']
            simp [or_assoc]

/--
**The stores and their waits are those that were granted.**

After any calls, the stores are those of the calls that were granted, in order, and
one waits for another just if a call was granted that makes it wait.
-/
theorem granted_afterCalls (calls : List (Call η)) :
    (afterCalls calls).stores = (grants {} calls).filterMap (·.2.store?) ∧
      ∀ a d, d ∈ (afterCalls calls).waitsFor a ↔
        ∃ g ∈ grants {} calls, g.2.Declares g.1 a d := by
  obtain ⟨hstores, hwaits⟩ := foldl_perform settled_init calls
  exact ⟨hstores, fun a d => (hwaits a d).trans (or_iff_right List.not_mem_nil)⟩

end OpenBadges.Wiring
