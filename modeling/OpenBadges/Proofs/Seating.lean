import OpenBadges.Flow.EventBus

/-!
# Who hears what

The bus keeps its subscriptions spread over the lists of the event names they are
for, a second list for those to all events, and a mailbox for each. A reader that
leaves is only noticed when an event comes by, list by list. None of that shows:
a reader hears the events that were emitted since it subscribed and that it has
asked for, in this order and as often as it has asked for them.

What is to be heard is said without any of these lists. Each subscription takes a
*seat*, which says what it is for, and which its reader leaves empty in the end.
The invariant is `Seated`: a subscription whose seat is taken stands in every list
as often as its seat says. Of the others nothing is said but that they have been
made, so that those forgotten and those that are still there need not be told
apart. For the one list as for the other, this is `IsRoll`.
-/

namespace OpenBadges

/-- What a subscription is for. -/
inductive Interest where
  /-- Some events; one that is listed twice is to come twice. -/
  | named (events : List EventName)
  /-- All events. -/
  | everything
deriving DecidableEq, Repr

namespace Interest

/-- What a reader with this interest hears when an event is emitted. -/
def copies (e : EventName) : Interest → List EventName
  | named events => List.replicate (events.count e) e
  | everything => [e]

/-- How often it lists an event. -/
def listings (e : EventName) : Interest → Nat
  | named events => events.count e
  | everything => 0

/-- How often it takes part in all events. -/
def wildcards : Interest → Nat
  | named _ => 0
  | everything => 1

theorem copies_eq (e : EventName) (i : Interest) :
    i.copies e = List.replicate (i.listings e + i.wildcards) e := by
  cases i <;> simp [copies, listings, wildcards]

end Interest

namespace Mailbox

variable {α : Type}

theorem deliverAll_of_live {m : Mailbox α} (h : m.live = true) (as : List α) :
    m.deliverAll as = { m with waiting := m.waiting ++ as } := by
  induction as generalizing m with
  | nil => simp [deliverAll]
  | cons a as ih =>
    have ha : (m.deliver a).live = true := by rw [deliver, if_pos h]; exact h
    rw [deliverAll, List.foldl_cons, ← deliverAll, ih ha, deliver, if_pos h]
    simp

theorem live_deliverAll (m : Mailbox α) (as : List α) : (m.deliverAll as).live = m.live := by
  induction as generalizing m with
  | nil => rfl
  | cons a as ih =>
    rw [deliverAll, List.foldl_cons, ← deliverAll, ih, deliver]
    split <;> rfl

end Mailbox

namespace EventBus

/-! ## What each operation does -/

@[simp] theorem subscribers_enrol (b : EventBus) (s : Subscription) (e e' : EventName) :
    (b.enrol s e').subscribers e = b.subscribers e ++ if e = e' then [s] else [] := by
  simp only [enrol, subscribers, Dict.get?_insert]
  split
  · next h => subst h; rfl
  · simp

/-- A subscription to several events joins the list of each as often as it lists it. -/
theorem enrolAll_eq (s : Subscription) (events : List EventName) (b : EventBus) :
    let b' := events.foldl (·.enrol s ·) b
    (∀ e, b'.subscribers e = b.subscribers e ++ List.replicate (events.count e) s) ∧
      b'.wildcards = b.wildcards ∧ b'.mailboxes = b.mailboxes := by
  induction events generalizing b with
  | nil => simp
  | cons e' events ih =>
    obtain ⟨hnames, hwild, hboxes⟩ := ih (b.enrol s e')
    refine ⟨fun e => ?_, hwild, hboxes⟩
    rw [List.foldl_cons, hnames, subscribers_enrol, List.append_assoc]
    by_cases he : e = e'
    · subst he
      rw [if_pos rfl, List.count_cons_self, List.replicate_succ]
      rfl
    · rw [if_neg he, List.count_cons_of_ne (Ne.symm he)]
      rfl

theorem mailboxes_subscribeMany (b : EventBus) (events : List EventName) :
    (b.subscribeMany events).2.mailboxes = b.mailboxes ++ [({} : Mailbox EventName)] :=
  (enrolAll_eq _ events b.openMailbox.2).2.2

theorem mailboxes_subscribeAll (b : EventBus) :
    b.subscribeAll.2.mailboxes = b.mailboxes ++ [({} : Mailbox EventName)] := rfl

theorem wildcards_subscribeMany (b : EventBus) (events : List EventName) :
    (b.subscribeMany events).2.wildcards = b.wildcards :=
  (enrolAll_eq _ events b.openMailbox.2).2.1

theorem subscribers_subscribeMany (b : EventBus) (events : List EventName) (e : EventName) :
    (b.subscribeMany events).2.subscribers e =
      b.subscribers e ++ List.replicate (events.count e) b.mailboxes.length :=
  (enrolAll_eq _ events b.openMailbox.2).1 e

/-- Only the list of the event itself, and the one of those to all events, lose those who left. -/
theorem subscribers_prune (b : EventBus) (e e' : EventName) :
    (b.prune e').subscribers e =
      if e = e' then (b.subscribers e).filter b.isLive else b.subscribers e := by
  rw [prune, subscribers]
  dsimp only
  by_cases hempty : ((b.subscribers e').filter b.isLive).isEmpty
  · rw [if_pos hempty, Dict.get?_erase]
    split
    · next h => subst h; simpa using hempty
    · rfl
  · rw [if_neg hempty, Dict.get?_insert]
    split
    · next h => subst h; rfl
    · rfl

theorem deliverAll_eq (e : EventName) (readers : List Subscription) (b : EventBus) :
    let b' := readers.foldl (·.deliver e ·) b
    b'.byName = b.byName ∧ b'.wildcards = b.wildcards ∧
      b'.mailboxes.length = b.mailboxes.length ∧
      ∀ s : Subscription, b'.mailboxes[s]? = b.mailboxes[s]?.map
        fun m => m.deliverAll (List.replicate (readers.count s) e) := by
  induction readers generalizing b with
  | nil => simp [Mailbox.deliverAll]
  | cons s' readers ih =>
    obtain ⟨hnames, hwild, hlength, hboxes⟩ := ih (b.deliver e s')
    refine ⟨hnames, hwild, hlength.trans (by simp [deliver]), fun s => ?_⟩
    rw [List.foldl_cons, hboxes, deliver, List.getElem?_modify, List.count_cons]
    by_cases hs : s' = s
    · subst hs
      simp [Function.comp_def, Mailbox.deliverAll, List.replicate_succ]
    · simp [hs]

/-- The subscriptions that an event goes to, each as often as it does. -/
def readers (b : EventBus) (e : EventName) : List Subscription :=
  (b.subscribers e ++ b.wildcards).filter b.isLive

theorem readers_prune (b : EventBus) (e : EventName) :
    (b.prune e).subscribers e ++ (b.prune e).wildcards = b.readers e := by
  rw [subscribers_prune, if_pos rfl, readers, List.filter_append]
  rfl

/-- As many deliveries are reported as there are readers. -/
theorem emit_fst (b : EventBus) (e : EventName) : (b.emit e).1 = (b.readers e).length := by
  rw [← readers_prune]
  rfl

theorem subscribers_emit (b : EventBus) (e e' : EventName) :
    (b.emit e').2.subscribers e = (b.prune e').subscribers e := by
  rw [subscribers, subscribers]
  exact congrArg (fun names => (Dict.get? names e).getD []) (deliverAll_eq e' _ (b.prune e')).1

theorem wildcards_emit (b : EventBus) (e : EventName) :
    (b.emit e).2.wildcards = b.wildcards.filter b.isLive :=
  (deliverAll_eq e _ (b.prune e)).2.1

theorem getElem?_mailboxes_emit (b : EventBus) (e : EventName) (s : Subscription) :
    (b.emit e).2.mailboxes[s]? =
      b.mailboxes[s]?.map fun m => m.deliverAll (List.replicate ((b.readers e).count s) e) := by
  rw [← readers_prune]
  exact (deliverAll_eq e _ (b.prune e)).2.2.2 s

theorem length_mailboxes_emit (b : EventBus) (e : EventName) :
    (b.emit e).2.mailboxes.length = b.mailboxes.length :=
  (deliverAll_eq e _ (b.prune e)).2.2.1

/-! ## Seats -/

/--
The seats of the subscriptions, in the order they were made, say what each is for
until its reader has left.
-/
abbrev Seats := List (Option Interest)

/-- What the subscription `s` is for, if it has a reader. -/
def Seats.interest? (seats : Seats) (s : Subscription) : Option Interest := seats[s]?.join

theorem Seats.lt_of_interest? {seats : Seats} {s : Subscription} {i : Interest}
    (h : seats.interest? s = some i) : s < seats.length := by
  refine Nat.lt_of_not_le fun hge => ?_
  rw [Seats.interest?, List.getElem?_eq_none hge] at h
  simp at h

/-- What is put behind a list is found at its end. -/
theorem getElem?_snoc {α : Type} (l : List α) (a : α) (i : Nat) :
    (l ++ [a])[i]? = if i = l.length then some a else l[i]? := by
  rw [List.getElem?_append]
  rcases Nat.lt_trichotomy i l.length with hlt | rfl | hgt
  · rw [if_pos hlt, if_neg (Nat.ne_of_lt hlt)]
  · simp
  · rw [if_neg (Nat.lt_asymm hgt), if_neg (Nat.ne_of_gt hgt),
      List.getElem?_eq_none (Nat.le_of_lt hgt), List.getElem?_eq_none (by simp; omega)]

theorem Seats.interest?_snoc (seats : Seats) (o : Option Interest) (s : Subscription) :
    Seats.interest? (seats ++ [o]) s =
      if s = seats.length then o else seats.interest? s := by
  rw [Seats.interest?, Seats.interest?, getElem?_snoc]
  split <;> rfl

theorem Seats.interest?_set (seats : Seats) (s s' : Subscription) :
    Seats.interest? (seats.set s none) s' = if s' = s then none else seats.interest? s' := by
  rw [Seats.interest?, Seats.interest?, List.getElem?_set]
  by_cases hs : s = s'
  · subst hs
    by_cases hlt : s < seats.length <;> simp [hlt]
  · simp [hs, Ne.symm hs]

/-! ## Rolls -/

/-- In the list `l`, every reader stands as often as its interest is to be found there. -/
structure IsRoll (times : Interest → Nat) (seats : Seats) (l : List Subscription) : Prop where
  count : ∀ {s i}, seats.interest? s = some i → l.count s = times i
  /-- Only subscriptions that were made stand in it. -/
  lt : ∀ {s}, s ∈ l → s < seats.length

namespace IsRoll

variable {times : Interest → Nat} {seats : Seats} {l : List Subscription}

/-- A new reader is put behind the others. -/
theorem snoc (h : IsRoll times seats l) (i : Interest) :
    IsRoll times (seats ++ [some i]) (l ++ List.replicate (times i) seats.length) where
  count := by
    intro s i' hs
    rw [Seats.interest?_snoc] at hs
    rw [List.count_append]
    split at hs
    · next heq =>
        -- it is new, so it does not stand in the list yet
        cases hs
        subst heq
        have hnew : seats.length ∉ l := fun hmem => Nat.lt_irrefl _ (h.lt hmem)
        simp [List.count_eq_zero_of_not_mem hnew]
    · next hne => simp [h.count hs, List.count_replicate, Ne.symm hne]
  lt := by
    intro s hs
    rw [List.length_append, List.length_singleton]
    rcases List.mem_append.mp hs with hs | hs
    · exact Nat.lt_succ_of_lt (h.lt hs)
    · rw [List.eq_of_mem_replicate hs]
      exact Nat.lt_succ_self _

/-- Striking out subscriptions without a reader does not concern those with one. -/
theorem filter (h : IsRoll times seats l) {p : Subscription → Bool}
    (hp : ∀ {s i}, seats.interest? s = some i → p s = true) : IsRoll times seats (l.filter p) where
  count := fun hs => (List.count_filter (hp hs)).trans (h.count hs)
  lt := fun hs => h.lt (List.mem_filter.mp hs).1

/-- A reader that leaves may stay in the list. -/
theorem vacate (h : IsRoll times seats l) (s : Subscription) :
    IsRoll times (seats.set s none) l where
  count := by
    intro s' i hs'
    rw [Seats.interest?_set] at hs'
    split at hs'
    · simp at hs'
    · exact h.count hs'
  lt := fun hs' => by simpa using h.lt hs'

end IsRoll

/-! ## The invariant -/

/-- The bus serves the readers in these seats. -/
structure Seated (b : EventBus) (seats : Seats) : Prop where
  /-- Every subscription has a seat. -/
  length : b.mailboxes.length = seats.length
  /-- The seat is taken as long as there is a reader. -/
  live : ∀ s, b.isLive s = (seats.interest? s).isSome
  /-- A reader stands in the list of each event as often as it has listed it. -/
  listed : ∀ e, IsRoll (·.listings e) seats (b.subscribers e)
  /-- A reader of all events stands in the list of those once. -/
  everywhere : IsRoll (·.wildcards) seats b.wildcards

theorem seated_init : Seated {} [] where
  length := rfl
  live := fun _ => rfl
  listed := fun _ => ⟨fun h => by simp [Seats.interest?] at h, fun h => by simp [subscribers] at h⟩
  everywhere := ⟨fun h => by simp [Seats.interest?] at h, fun h => by simp at h⟩

theorem isLive_snoc {b b' : EventBus} (h : b'.mailboxes = b.mailboxes ++ [({} : Mailbox EventName)])
    (s : Subscription) :
    b'.isLive s = if s = b.mailboxes.length then true else b.isLive s := by
  rw [isLive, isLive, h, getElem?_snoc]
  split <;> rfl

namespace Seated

variable {b : EventBus} {seats : Seats}

theorem isLive_of_interest? (h : Seated b seats) {s : Subscription} {i : Interest}
    (hs : seats.interest? s = some i) : b.isLive s = true := by
  rw [h.live, hs]
  rfl

/--
A new subscription takes a seat: its mailbox is empty, and it is put behind the
others into the lists of what it is for.
-/
theorem snoc (h : Seated b seats) {b' : EventBus} {i : Interest}
    (hboxes : b'.mailboxes = b.mailboxes ++ [({} : Mailbox EventName)])
    (hnames : ∀ e, b'.subscribers e =
      b.subscribers e ++ List.replicate (i.listings e) seats.length)
    (hwild : b'.wildcards = b.wildcards ++ List.replicate i.wildcards seats.length) :
    Seated b' (seats ++ [some i]) where
  length := by simp [hboxes, h.length]
  live := by
    intro s
    rw [isLive_snoc hboxes, Seats.interest?_snoc, h.length, h.live]
    split <;> rfl
  listed := fun e => hnames e ▸ (h.listed e).snoc i
  everywhere := hwild ▸ h.everywhere.snoc i

theorem subscribeMany (h : Seated b seats) (events : List EventName) :
    Seated (b.subscribeMany events).2 (seats ++ [some (.named events)]) :=
  h.snoc (mailboxes_subscribeMany b events)
    (fun e => by rw [subscribers_subscribeMany, h.length]; rfl)
    (by rw [wildcards_subscribeMany]; exact (List.append_nil _).symm)

theorem subscribeAll (h : Seated b seats) :
    Seated b.subscribeAll.2 (seats ++ [some .everything]) :=
  h.snoc (mailboxes_subscribeAll b) (fun _ => (List.append_nil _).symm)
    (by rw [← h.length]; rfl)

/-- Only subscriptions without a reader are forgotten. -/
theorem emit (h : Seated b seats) (e' : EventName) : Seated (b.emit e').2 seats where
  length := (length_mailboxes_emit b e').trans h.length
  live := by
    intro s
    rw [← h.live s, isLive, isLive, getElem?_mailboxes_emit]
    cases b.mailboxes[s]? <;> simp [Mailbox.live_deliverAll]
  listed := by
    intro e
    rw [subscribers_emit, subscribers_prune]
    split
    · exact (h.listed e).filter h.isLive_of_interest?
    · exact h.listed e
  everywhere := by
    rw [wildcards_emit]
    exact h.everywhere.filter h.isLive_of_interest?

/-- Reading what has come changes nothing for the bus. -/
theorem drain (h : Seated b seats) (s : Subscription) : Seated (b.drain s).2 seats where
  length := by simp [EventBus.drain, h.length]
  live := by
    intro s'
    rw [← h.live s', isLive, isLive, EventBus.drain, List.getElem?_modify]
    cases b.mailboxes[s']? <;> by_cases hs : s = s' <;> simp [hs, Mailbox.emptied]
  listed := h.listed
  everywhere := h.everywhere

/-- A reader that leaves gives up its seat, and stays in the lists for now. -/
theorem close (h : Seated b seats) (s : Subscription) :
    Seated (b.close s) (seats.set s none) where
  length := by simp [EventBus.close, h.length]
  live := by
    intro s'
    rw [Seats.interest?_set, isLive, EventBus.close, List.getElem?_modify]
    by_cases hs : s = s'
    · subst hs
      cases b.mailboxes[s]? <;> simp [Mailbox.closed]
    · have hlive := h.live s'
      rw [isLive] at hlive
      simp [hs, Ne.symm hs, hlive]
  listed := fun e => (h.listed e).vacate s
  everywhere := h.everywhere.vacate s

end Seated

end EventBus

end OpenBadges
