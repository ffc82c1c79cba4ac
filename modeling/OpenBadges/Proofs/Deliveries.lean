import Mathlib.Data.List.Induction
import OpenBadges.Proofs.Seating

/-!
# Deliveries over a run

What a reader has been delivered, in the course of all that is done with a bus, is
what it took out of its mailbox and what still waits there. As long as it stays,
that is exactly what it has asked for of the events emitted since it subscribed;
other readers may come, read and leave as they like.
-/

namespace OpenBadges

namespace EventBus

/-! ## Runs -/

/-- What is done with a bus. -/
inductive Use where
  | subscribe (e : EventName)
  | subscribeMany (events : List EventName)
  | subscribeAll
  | emit (e : EventName)
  /-- A reader takes out what has come. -/
  | read (s : Subscription)
  /-- A reader leaves. -/
  | leave (s : Subscription)
deriving DecidableEq

namespace Use

/-- What it subscribes to, if it does. -/
def interest? : Use → Option Interest
  | subscribe e => some (.named [e])
  | subscribeMany events => some (.named events)
  | subscribeAll => some .everything
  | _ => none

/-- The event it emits, if it does. -/
def emitted? : Use → Option EventName
  | emit e => some e
  | _ => none

/-- The subscription that is handed out, if there is one, and what it is for. -/
def subscription? (b : EventBus) : Use → Option (Subscription × Interest)
  | subscribe e => some ((b.subscribe e).1, .named [e])
  | subscribeMany events => some ((b.subscribeMany events).1, .named events)
  | subscribeAll => some (b.subscribeAll.1, .everything)
  | _ => none

/-- A subscription takes the next seat; a reader that leaves gives its seat up. -/
def seat (seats : Seats) (u : Use) : Seats :=
  match u with
  | leave s => seats.set s none
  | u => seats ++ u.interest?.toList.map some

/-- The bus afterwards. -/
def perform (b : EventBus) : Use → EventBus
  | subscribe e => (b.subscribe e).2
  | subscribeMany events => (b.subscribeMany events).2
  | subscribeAll => b.subscribeAll.2
  | emit e => (b.emit e).2
  | read s => (b.drain s).2
  | leave s => b.close s

/-- What the reader of a subscription takes out. -/
def taken (b : EventBus) (s : Subscription) : Use → List EventName
  | read s' => if s' = s then (b.drain s).1 else []
  | _ => []

end Use

/-- The bus after some uses, the first of them of an empty one. -/
def afterUses (uses : List Use) : EventBus := uses.foldl Use.perform {}

/-- The seats after some uses. -/
def seats (uses : List Use) : Seats := uses.foldl Use.seat []

/-- The events that are emitted, in order. -/
def emissions (uses : List Use) : List EventName := uses.filterMap Use.emitted?

/-- What the reader of a subscription takes out in the course of some uses of a bus. -/
def takenBy (s : Subscription) : EventBus → List Use → List EventName
  | _, [] => []
  | b, u :: uses => u.taken b s ++ takenBy s (u.perform b) uses

/--
What is delivered to a subscription in the course of some uses: what its reader
takes out, and what waits for it in the end.
-/
def delivered (uses : List Use) (s : Subscription) : List EventName :=
  takenBy s {} uses ++ ((afterUses uses).drain s).1

theorem afterUses_snoc (uses : List Use) (u : Use) :
    afterUses (uses ++ [u]) = u.perform (afterUses uses) := by
  rw [afterUses, List.foldl_append]
  rfl

theorem seats_snoc (uses : List Use) (u : Use) : seats (uses ++ [u]) = u.seat (seats uses) := by
  rw [seats, List.foldl_append]
  rfl

theorem takenBy_append (s : Subscription) (uses more : List Use) (b : EventBus) :
    takenBy s b (uses ++ more) =
      takenBy s b uses ++ takenBy s (uses.foldl Use.perform b) more := by
  induction uses generalizing b with
  | nil => rfl
  | cons u uses ih => rw [List.cons_append, takenBy, ih, takenBy, List.append_assoc, List.foldl_cons]

theorem takenBy_snoc (s : Subscription) (uses : List Use) (u : Use) :
    takenBy s {} (uses ++ [u]) = takenBy s {} uses ++ u.taken (afterUses uses) s := by
  rw [takenBy_append, takenBy, takenBy, List.append_nil, afterUses]

/-- **Kept up by whatever is done with the bus.** -/
theorem Seated.perform {b : EventBus} {seats : Seats} (h : Seated b seats) (u : Use) :
    Seated (u.perform b) (u.seat seats) := by
  cases u with
  | subscribe e => exact h.subscribeMany [e]
  | subscribeMany events => exact h.subscribeMany events
  | subscribeAll => exact h.subscribeAll
  | emit e => simpa [Use.seat, Use.interest?, Use.perform] using h.emit e
  | read s => simpa [Use.seat, Use.interest?, Use.perform] using h.drain s
  | leave s => exact h.close s

theorem seated_afterUses (uses : List Use) : Seated (afterUses uses) (seats uses) := by
  induction uses using List.reverseRecOn with
  | nil => exact seated_init
  | append_singleton uses u ih =>
    rw [afterUses_snoc, seats_snoc]
    exact ih.perform u

/-! ## What a reader hears -/

theorem drain_fst (b : EventBus) (s : Subscription) :
    (b.drain s).1 = (b.mailboxes[s]?.map (·.waiting)).getD [] := rfl

/-- An event goes to a reader as often as it has asked for it. -/
theorem Seated.count_readers {b : EventBus} {seats : Seats} (h : Seated b seats) (e : EventName)
    (s : Subscription) : (b.readers e).count s =
      ((seats.interest? s).map fun i => (i.copies e).length).getD 0 := by
  cases hs : seats.interest? s with
  | none =>
    have hdead : ¬b.isLive s = true := by rw [h.live, hs]; simp
    exact List.count_eq_zero_of_not_mem fun hmem => hdead (List.mem_filter.mp hmem).2
  | some i =>
    rw [readers, List.count_filter (h.isLive_of_interest? hs), List.count_append,
      (h.listed e).count hs, h.everywhere.count hs, Option.map_some, Option.getD_some,
      Interest.copies_eq, List.length_replicate]

/-- A reader that stays hears what is emitted, and loses nothing of what it has heard. -/
theorem Seated.heard {b : EventBus} {seats : Seats} (h : Seated b seats) {s : Subscription}
    {i : Interest} (hs : seats.interest? s = some i) {u : Use} (hu : u ≠ .leave s) :
    u.taken b s ++ ((u.perform b).drain s).1 =
      (b.drain s).1 ++ u.emitted?.toList.flatMap i.copies := by
  have hlt : s < b.mailboxes.length := by
    rw [h.length]
    exact Seats.lt_of_interest? hs
  have hnew : ∀ {b' : EventBus}, b'.mailboxes = b.mailboxes ++ [({} : Mailbox EventName)] →
      (b'.drain s).1 = (b.drain s).1 := by
    intro b' hboxes
    rw [drain_fst, drain_fst, hboxes, List.getElem?_append_left hlt]
  cases u with
  | subscribe e =>
    simpa [Use.taken, Use.perform, Use.emitted?, subscribe] using
      hnew (mailboxes_subscribeMany b [e])
  | subscribeMany events =>
    simpa [Use.taken, Use.perform, Use.emitted?] using hnew (mailboxes_subscribeMany b events)
  | subscribeAll =>
    simpa [Use.taken, Use.perform, Use.emitted?] using hnew (mailboxes_subscribeAll b)
  | emit e =>
    obtain ⟨m, hm⟩ : ∃ m, b.mailboxes[s]? = some m := ⟨_, List.getElem?_eq_getElem hlt⟩
    have hlive : m.live = true := by
      have := h.live s
      rw [isLive, hm, hs] at this
      simpa using this
    have hcount := h.count_readers e s
    rw [hs, Option.map_some, Option.getD_some, Interest.copies_eq, List.length_replicate] at hcount
    simp only [Use.taken, Use.perform, Use.emitted?, Option.toList_some, List.flatMap_singleton,
      List.nil_append]
    rw [drain_fst, drain_fst, getElem?_mailboxes_emit, hm, hcount, Interest.copies_eq]
    simp [Mailbox.deliverAll_of_live hlive]
  | read s' =>
    simp only [Use.taken, Use.perform, Use.emitted?, Option.toList_none, List.flatMap_nil,
      List.append_nil]
    by_cases hs' : s' = s
    · subst hs'
      rw [if_pos rfl, drain_fst, drain_fst, EventBus.drain, List.getElem?_modify]
      cases b.mailboxes[s']? <;> simp [Mailbox.emptied]
    · rw [if_neg hs', drain_fst, drain_fst, EventBus.drain, List.getElem?_modify]
      simp [hs']
  | leave s' =>
    have hs' : s' ≠ s := fun heq => hu (by rw [heq])
    simp only [Use.taken, Use.perform, Use.emitted?, Option.toList_none, List.flatMap_nil,
      List.append_nil, List.nil_append]
    rw [drain_fst, drain_fst, EventBus.close, List.getElem?_modify]
    simp [hs']

/-- A subscription that is handed out is the next one, and nothing has come for it yet. -/
theorem subscription?_eq_some {b : EventBus} {u : Use} {s : Subscription} {i : Interest}
    (h : u.subscription? b = some (s, i)) :
    s = b.mailboxes.length ∧ (∀ seats, u.seat seats = seats ++ [some i]) ∧
      u.taken b s = [] ∧ ((u.perform b).drain s).1 = [] := by
  have hnew : ∀ {b' : EventBus}, b'.mailboxes = b.mailboxes ++ [({} : Mailbox EventName)] →
      (b'.drain b.mailboxes.length).1 = [] := by
    intro b' hboxes
    rw [drain_fst, hboxes]
    simp
  cases u with
  | subscribe e =>
    cases h
    exact ⟨rfl, fun _ => rfl, rfl, hnew (mailboxes_subscribeMany b [e])⟩
  | subscribeMany events =>
    cases h
    exact ⟨rfl, fun _ => rfl, rfl, hnew (mailboxes_subscribeMany b events)⟩
  | subscribeAll =>
    cases h
    exact ⟨rfl, fun _ => rfl, rfl, hnew (mailboxes_subscribeAll b)⟩
  | emit e => simp [Use.subscription?] at h
  | read s' => simp [Use.subscription?] at h
  | leave s' => simp [Use.subscription?] at h

/-- Seats are not taken away. -/
theorem length_le_seat (seats : Seats) (u : Use) : seats.length ≤ (u.seat seats).length := by
  cases u <;> simp [Use.seat, Use.interest?]

/-- Nobody takes anything out for a subscription that has not been made. -/
theorem takenBy_of_le {uses : List Use} {s : Subscription} (h : (seats uses).length ≤ s) :
    takenBy s {} uses = [] := by
  induction uses using List.reverseRecOn with
  | nil => rfl
  | append_singleton uses u ih =>
    rw [seats_snoc] at h
    have hle := Nat.le_trans (length_le_seat (seats uses) u) h
    have hempty : ((afterUses uses).drain s).1 = [] := by
      rw [← (seated_afterUses uses).length] at hle
      rw [drain_fst, List.getElem?_eq_none hle]
      rfl
    have htaken : u.taken (afterUses uses) s = [] := by
      cases u with
      | read s' => simpa [Use.taken] using fun heq : s' = s => heq ▸ hempty
      | _ => rfl
    rw [takenBy_snoc, ih hle, htaken, List.append_nil]

theorem delivered_snoc {uses : List Use} {s : Subscription} {i : Interest}
    (hs : (seats uses).interest? s = some i) {u : Use} (hu : u ≠ .leave s) :
    delivered (uses ++ [u]) s = delivered uses s ++ u.emitted?.toList.flatMap i.copies := by
  rw [delivered, delivered, takenBy_snoc, afterUses_snoc, List.append_assoc, List.append_assoc,
    (seated_afterUses uses).heard hs hu]

section Made

variable {before : List Use} {u : Use} {s : Subscription} {i : Interest}

/-- A subscription keeps its seat until its reader leaves. -/
theorem interest?_of_made (h : u.subscription? (afterUses before) = some (s, i))
    (later : List Use) :
    s < (seats (before ++ u :: later)).length ∧
      (seats (before ++ u :: later)).interest? s =
        if .leave s ∈ later then none else some i := by
  induction later using List.reverseRecOn with
  | nil =>
    obtain ⟨hnext, hseat, -⟩ := subscription?_eq_some h
    rw [(seated_afterUses before).length] at hnext
    rw [seats_snoc, hseat, Seats.interest?_snoc, hnext]
    simp
  | append_singleton later v ih =>
    obtain ⟨hlt, hinterest⟩ := ih
    rw [← List.cons_append, ← List.append_assoc, seats_snoc]
    refine ⟨Nat.lt_of_lt_of_le hlt (length_le_seat _ v), ?_⟩
    by_cases hv : v = .leave s
    · subst hv
      rw [Use.seat, Seats.interest?_set, if_pos rfl, if_pos (by simp)]
    · have hmem : .leave s ∈ later ++ [v] ↔ .leave s ∈ later := by simp [Ne.symm hv]
      simp only [hmem]
      rw [← hinterest]
      cases v with
      | leave s' =>
        have hs' : s ≠ s' := fun heq => hv (by rw [heq])
        rw [Use.seat, Seats.interest?_set, if_neg hs']
      | emit e => simp [Use.seat, Use.interest?]
      | read s' => simp [Use.seat, Use.interest?]
      | subscribe e => exact (Seats.interest?_snoc _ _ s).trans (if_neg (Nat.ne_of_lt hlt))
      | subscribeMany events =>
        exact (Seats.interest?_snoc _ _ s).trans (if_neg (Nat.ne_of_lt hlt))
      | subscribeAll => exact (Seats.interest?_snoc _ _ s).trans (if_neg (Nat.ne_of_lt hlt))

theorem isLive_of_made (h : u.subscription? (afterUses before) = some (s, i))
    (later : List Use) :
    (afterUses (before ++ u :: later)).isLive s = true ↔ .leave s ∉ later := by
  rw [(seated_afterUses _).live, (interest?_of_made h later).2]
  split <;> simp [*]

/-- **A reader that stays has heard what it has asked for since it came.** -/
theorem delivered_of_made (h : u.subscription? (afterUses before) = some (s, i))
    {later : List Use} (hstays : .leave s ∉ later) :
    delivered (before ++ u :: later) s = (emissions later).flatMap i.copies := by
  induction later using List.reverseRecOn with
  | nil =>
    obtain ⟨hnext, -, htaken, hempty⟩ := subscription?_eq_some h
    have hle : (seats before).length ≤ s :=
      Nat.le_of_eq (hnext.trans (seated_afterUses before).length).symm
    have htook : takenBy s {} (before ++ [u]) = [] := by
      rw [takenBy_snoc, takenBy_of_le hle, htaken, List.append_nil]
    have hwaits : ((afterUses (before ++ [u])).drain s).1 = [] := by rw [afterUses_snoc, hempty]
    simp [delivered, htook, hwaits, emissions]
  | append_singleton later v ih =>
    have hlater : .leave s ∉ later := fun hmem => hstays (List.mem_append_left _ hmem)
    have hv : v ≠ .leave s := fun heq => hstays (by simp [heq])
    have hseat : (seats (before ++ u :: later)).interest? s = some i := by
      rw [(interest?_of_made h later).2, if_neg hlater]
    rw [← List.cons_append, ← List.append_assoc, delivered_snoc hseat hv, ih hlater,
      emissions, emissions, List.filterMap_append, List.flatMap_append]
    cases hv : v.emitted? <;> simp [hv]

end Made

/-! ## All deliveries together -/

/-- Lists that grow by the places of their own number grow by all places together. -/
theorem length_flatMap_of_count {α : Type} {live : List Subscription} (hlive : live.Nodup)
    {f g : Subscription → List α} {l : List Subscription} (hl : ∀ s ∈ l, s ∈ live)
    (hfg : ∀ s ∈ live, (g s).length = (f s).length + l.count s) :
    (live.flatMap g).length = (live.flatMap f).length + l.length := by
  induction live generalizing l with
  | nil =>
    have hnil : l = [] := List.eq_nil_iff_forall_not_mem.mpr fun s hs => by simpa using hl s hs
    rw [hnil]
    rfl
  | cons a live ih =>
    obtain ⟨ha, hlive⟩ := List.nodup_cons.mp hlive
    -- the places of the first list, and those of the others
    have hsplit : l.length = l.count a + (l.filter (· ≠ a)).length := by
      rw [← List.countP_eq_length_filter, List.count, List.length_eq_countP_add_countP (· == a)]
      simp
    have hothers := ih hlive (l := l.filter (· ≠ a))
      (fun s hs => by
        obtain ⟨hs, hne⟩ := List.mem_filter.mp hs
        exact (List.mem_cons.mp (hl s hs)).resolve_left (by simpa using hne))
      (fun s hs => by
        have hne : s ≠ a := fun heq => ha (heq ▸ hs)
        rw [hfg s (List.mem_cons_of_mem _ hs), List.count_filter (by simpa using hne)])
    rw [List.flatMap_cons, List.flatMap_cons, List.length_append, List.length_append,
      hfg a List.mem_cons_self, hothers, hsplit]
    omega

/-- The subscriptions whose readers have not left. -/
def liveSubscriptions (b : EventBus) : List Subscription :=
  (List.range b.mailboxes.length).filter b.isLive

theorem mem_liveSubscriptions {b : EventBus} {s : Subscription} :
    s ∈ b.liveSubscriptions ↔ b.isLive s = true := by
  rw [liveSubscriptions, List.mem_filter, List.mem_range, and_iff_right_iff_imp]
  intro h
  refine Nat.lt_of_not_le fun hge => ?_
  rw [isLive, List.getElem?_eq_none hge] at h
  simp at h

/-- **An event is counted as often as it reaches a reader.** -/
theorem length_delivered_emit (uses : List Use) (e : EventName) :
    let live := (afterUses uses).liveSubscriptions
    (live.flatMap (delivered (uses ++ [.emit e]))).length =
      (live.flatMap (delivered uses)).length + ((afterUses uses).emit e).1 := by
  have hseated := seated_afterUses uses
  have hnodup : (afterUses uses).liveSubscriptions.Nodup := List.nodup_range.filter _
  rw [emit_fst]
  refine length_flatMap_of_count hnodup (fun s hs => ?_) fun s hs => ?_
  · exact mem_liveSubscriptions.mpr (List.mem_filter.mp hs).2
  · rw [mem_liveSubscriptions, hseated.live, Option.isSome_iff_exists] at hs
    obtain ⟨i, hi⟩ := hs
    rw [delivered_snoc hi (by simp), hseated.count_readers, hi]
    simp [Use.emitted?]

/--
**A reader hears exactly what it has asked for, and every delivery is counted.**

Take any uses of a bus, and a subscription made in their course. Its mailbox is
open until its reader leaves. As long as it is, the events delivered to it are
those emitted since it was made, in this order, each as often as it was listed, and
once if the subscription is to all events. Whether other readers leave, and when
they are forgotten, does not come into it. When an event is emitted, the number
reported is that of its deliveries to all readers that have not left.
-/
theorem delivered_exactly (uses : List Use) :
    (∀ before u later s i, uses = before ++ u :: later →
      u.subscription? (afterUses before) = some (s, i) →
        ((afterUses uses).isLive s = true ↔ .leave s ∉ later) ∧
        ((afterUses uses).isLive s = true →
          delivered uses s = (emissions later).flatMap i.copies)) ∧
    ∀ e,
      let live := (afterUses uses).liveSubscriptions
      (live.flatMap (delivered (uses ++ [.emit e]))).length =
        (live.flatMap (delivered uses)).length + ((afterUses uses).emit e).1 := by
  refine ⟨?_, length_delivered_emit uses⟩
  rintro before u later s i rfl hmade
  have hlive := isLive_of_made hmade later
  exact ⟨hlive, fun h => delivered_of_made hmade (hlive.mp h)⟩

/-- Three readers; the second leaves, and the first has listed an event twice. -/
def threeReaders : List Use :=
  [.subscribeMany ["saved", "closed", "saved"], .subscribe "saved", .emit "saved", .leave 1,
    .subscribeAll, .read 0, .emit "closed", .emit "saved"]

/-- What the first reader hears, and the one that listens to everything. -/
theorem delivered_threeReaders :
    (afterUses threeReaders).isLive 0 = true ∧
      delivered threeReaders 0 = ["saved", "saved", "closed", "saved", "saved"] ∧
      (afterUses threeReaders).isLive 1 = false ∧
      delivered threeReaders 2 = ["closed", "saved"] := by
  have h := (delivered_exactly threeReaders).1
  have first := h [] _ _ 0 (.named ["saved", "closed", "saved"]) rfl rfl
  have second := h (threeReaders.take 1) _ _ 1 (.named ["saved"]) rfl rfl
  have third := h (threeReaders.take 4) _ _ 2 .everything rfl rfl
  refine ⟨first.1.mpr (by decide), first.2 (first.1.mpr (by decide)), ?_,
    third.2 (third.1.mpr (by decide))⟩
  rw [← Bool.not_eq_true, second.1]
  decide

end EventBus

end OpenBadges
