import Mathlib.Data.List.Induction
import OpenBadges.Transport.Rehearsed

/-!
# What a rehearsal answers

A rehearsal keeps for each route, a method and a path, the replies that it has still to
give, and always at least the last one. It does not keep whether that one has been given
already. So what it answers is told here by an account of the route, which forgets
nothing: all replies that were ever put there, and the places of those that were given
(`Account`). The replies that are kept are those of the account from some place on, the
one to give next (`Keeps`).

The place moves on only when a reply is given that is not the last one at that time.
So the replies are given in order and none is left out, and one is given again just if
it was the last one when it was given before. It need not be the last one any more:
when another reply has been put behind it since, the old one is given once again before
the new one gets its turn (`given_again_iff`, `given_again_before_next`).
-/

namespace OpenBadges

/-- What a reply comes to. -/
def Reply.answer : Reply → Except TransportError Response
  | respond response => .ok response
  | fail reason => .error (.unavailable reason)

namespace Rehearsal

/-! ## Accounts -/

/-- What is done with a rehearsal. -/
inductive Use where
  | put (method : Method) (path : String) (reply : Reply)
  | send (request : Request)

namespace Use

/-- The rehearsal afterwards. -/
def perform (r : Rehearsal) : Use → Rehearsal
  | put method path reply => r.put method path reply
  | send request => (r.send request).2

/-- The request that is made, if one is. -/
def request? : Use → Option Request
  | put _ _ _ => none
  | send request => some request

end Use

/-- The rehearsal after some uses, the first of them of an empty one. -/
def afterUses (uses : List Use) : Rehearsal := uses.foldl Use.perform {}

theorem afterUses_snoc (uses : List Use) (u : Use) :
    afterUses (uses ++ [u]) = u.perform (afterUses uses) := by
  simp [afterUses]

/-- A reply being given. -/
structure Giving where
  /-- Its place among the replies that were put there. -/
  place : Nat
  /-- How many replies had been put there by then. -/
  among : Nat

/-- It was the last of the replies that had been put there. -/
def Giving.IsLast (g : Giving) : Prop := g.place + 1 = g.among

instance (g : Giving) : Decidable g.IsLast := inferInstanceAs (Decidable (_ = _))

/-- What has been done on one route. -/
structure Account where
  /-- All replies that were put there, first the oldest. -/
  replies : List Reply := []
  /-- The replies that were given, first the oldest. -/
  given : List Giving := []

namespace Account

/-- The place to give from next: after the last one the same again, or else the one behind. -/
def next (a : Account) : Nat :=
  match a.given.getLast? with
  | none => 0
  | some g => if g.IsLast then g.place else g.place + 1

/-- The places of the replies that were given. -/
def places (a : Account) : List Nat := a.given.map (·.place)

/-- One more reply is put there. -/
def put (a : Account) (reply : Reply) : Account := { a with replies := a.replies ++ [reply] }

/-- The next reply is given, if there is any. -/
def give (a : Account) : Account :=
  if a.replies = [] then a
  else { a with given := a.given ++ [⟨a.next, a.replies.length⟩] }

/-- The account of a route after another use, which may be of another route. -/
def note (method : Method) (path : String) (a : Account) : Use → Account
  | .put m p reply => if m = method ∧ p = path then a.put reply else a
  | .send q => if q.method = method ∧ q.path = path then a.give else a

theorem next_put (a : Account) (reply : Reply) : (a.put reply).next = a.next := rfl

theorem give_of_ne_nil {a : Account} (h : a.replies ≠ []) :
    a.give = { a with given := a.given ++ [⟨a.next, a.replies.length⟩] } := if_neg h

/-- The place moves on unless the last reply is given. -/
theorem next_give {a : Account} (h : a.replies ≠ []) :
    a.give.next = if a.next + 1 = a.replies.length then a.next else a.next + 1 := by
  rw [give_of_ne_nil h, next, List.getLast?_concat]
  rfl

end Account

/-- The account of a route after some uses. -/
def account (method : Method) (path : String) (uses : List Use) : Account :=
  uses.foldl (Account.note method path) {}

theorem account_snoc (method : Method) (path : String) (uses : List Use) (u : Use) :
    account method path (uses ++ [u]) = (account method path uses).note method path u := by
  simp [account]

/-! ## What is kept for a route -/

/-- The replies that are kept are those of the account from the next one on. -/
structure Keeps (kept : List Reply) (a : Account) : Prop where
  eq_drop : kept = a.replies.drop a.next
  /-- There is a reply to give if one was put there. -/
  next_lt : a.replies ≠ [] → a.next < a.replies.length
  /-- And if none was, none was given. -/
  none_given : a.replies = [] → a.given = []

namespace Keeps

variable {kept : List Reply} {a : Account}

theorem init : Keeps [] {} where
  eq_drop := rfl
  next_lt := fun h => absurd rfl h
  none_given := fun _ => rfl

theorem next_le (h : Keeps kept a) : a.next ≤ a.replies.length := by
  by_cases hnone : a.replies = []
  · rw [Account.next, h.none_given hnone]
    exact Nat.zero_le _
  · exact Nat.le_of_lt (h.next_lt hnone)

theorem put (h : Keeps kept a) (reply : Reply) : Keeps (kept ++ [reply]) (a.put reply) where
  eq_drop := by
    rw [Account.next_put, Account.put, List.drop_append_of_le_length h.next_le, ← h.eq_drop]
  next_lt := fun _ => by
    rw [Account.next_put, Account.put, List.length_append]
    exact Nat.lt_succ_of_le h.next_le
  none_given := fun hnone => absurd hnone (by simp [Account.put])

/-- **The next reply is given, and it is kept just if it is the last one.** -/
theorem nextReply_eq (h : Keeps kept a) (hsome : a.replies ≠ []) :
    ∃ reply, a.replies[a.next]? = some reply ∧
      nextReply kept = (reply, a.replies.drop a.give.next) := by
  have hlt := h.next_lt hsome
  refine ⟨a.replies[a.next], List.getElem?_eq_getElem hlt, ?_⟩
  rw [h.eq_drop, Account.next_give hsome, List.drop_eq_getElem_cons hlt]
  by_cases hlast : a.next + 1 = a.replies.length
  · -- nothing is left behind it, so it stays where it is
    rw [if_pos hlast, List.drop_eq_getElem_cons hlt, hlast, List.drop_length]
    rfl
  · rw [if_neg hlast, List.drop_eq_getElem_cons (by omega : a.next + 1 < a.replies.length)]
    rfl

theorem give (h : Keeps kept a) : Keeps (nextReply kept).2 a.give := by
  by_cases hnone : a.replies = []
  · have hsame : (nextReply kept).2 = kept := by
      rw [h.eq_drop, hnone, List.drop_nil]
      rfl
    rw [Account.give, if_pos hnone, hsame]
    exact h
  · obtain ⟨reply, -, hnext⟩ := h.nextReply_eq hnone
    have hlt := h.next_lt hnone
    have hreplies : a.give.replies = a.replies := by rw [Account.give_of_ne_nil hnone]
    refine ⟨by rw [hnext, hreplies], fun _ => ?_, fun h' => absurd (hreplies ▸ h') hnone⟩
    rw [hreplies, Account.next_give hnone]
    split <;> omega

end Keeps

theorem send_eq (r : Rehearsal) (q : Request) :
    r.send q = ((nextReply (r.replies q.method q.path)).1.answer,
      { r.setReplies q.method q.path (nextReply (r.replies q.method q.path)).2 with
        requests := r.requests ++ [q] }) := by
  rw [send]
  cases nextReply (r.replies q.method q.path) with
  | mk reply rest => cases reply <;> rfl

/-- **Every use of a rehearsal goes into the accounts.** -/
theorem keeps_perform {r : Rehearsal} {a : Account} {method : Method} {path : String}
    (h : Keeps (r.replies method path) a) (u : Use) :
    Keeps ((u.perform r).replies method path) (a.note method path u) := by
  cases u with
  | put m p reply =>
    simp only [Use.perform, Rehearsal.put, setReplies, Account.note]
    by_cases hroute : m = method ∧ p = path
    · obtain ⟨rfl, rfl⟩ := hroute
      simpa using h.put reply
    · rw [if_neg hroute, if_neg fun heq => hroute ⟨heq.1.symm, heq.2.symm⟩]
      exact h
  | send q =>
    simp only [Use.perform, send_eq, setReplies, Account.note]
    by_cases hroute : q.method = method ∧ q.path = path
    · obtain ⟨rfl, rfl⟩ := hroute
      simpa using h.give
    · rw [if_neg hroute, if_neg fun heq => hroute ⟨heq.1.symm, heq.2.symm⟩]
      exact h

theorem keeps_afterUses (uses : List Use) (method : Method) (path : String) :
    Keeps ((afterUses uses).replies method path) (account method path uses) := by
  induction uses using List.reverseRecOn with
  | nil => exact Keeps.init
  | append_singleton uses u ih =>
    rw [afterUses_snoc, account_snoc]
    exact keeps_perform ih u

/-! ## The order of what is given -/

namespace Account

/-- How many different replies were given. -/
def reached (a : Account) : Nat := (a.given.getLast?.map (·.place + 1)).getD 0

/-- For the first time, the replies were given in order, with none left out. -/
def InOrder (a : Account) : Prop := a.places.eraseDups = List.range a.reached

theorem InOrder.mem_places_iff {a : Account} (h : a.InOrder) {place : Nat} :
    place ∈ a.places ↔ place < a.reached := by
  rw [← List.mem_eraseDups, h, List.mem_range]

/-- The next reply is the one given before if that was the last one, or else the first not given. -/
theorem next_cases (a : Account) :
    (a.next + 1 = a.reached ∧ ∃ g, a.given.getLast? = some g ∧ g.IsLast) ∨
      (a.next = a.reached ∧ ¬∃ g, a.given.getLast? = some g ∧ g.IsLast) := by
  rw [next, reached]
  cases a.given.getLast? with
  | none => exact .inr ⟨rfl, by simp⟩
  | some g =>
    by_cases hlast : g.IsLast
    · exact .inl ⟨by simp [hlast], g, rfl, hlast⟩
    · exact .inr ⟨by simp [hlast], by simpa using hlast⟩

/-- A reply is given again just if it was the last one when it was given before. -/
theorem InOrder.next_mem_places_iff {a : Account} (h : a.InOrder) :
    a.next ∈ a.places ↔ ∃ g, a.given.getLast? = some g ∧ g.IsLast := by
  rw [h.mem_places_iff]
  rcases a.next_cases with ⟨hnext, hlast⟩ | ⟨hnext, hlast⟩
  · exact iff_of_true (Nat.lt_of_succ_le (Nat.le_of_eq hnext)) hlast
  · exact iff_of_false (Nat.not_lt_of_le (Nat.le_of_eq hnext.symm)) hlast

theorem InOrder.give {a : Account} (h : a.InOrder) : a.give.InOrder := by
  by_cases hnone : a.replies = []
  · rw [Account.give, if_pos hnone]
    exact h
  · have hplaces : a.give.places = a.places ++ [a.next] := by
      rw [give_of_ne_nil hnone, places, List.map_append]
      rfl
    have hreached : a.give.reached = a.next + 1 := by
      rw [give_of_ne_nil hnone, reached, List.getLast?_concat]
      rfl
    rw [InOrder, hplaces, hreached, List.eraseDups_append, h]
    rcases a.next_cases with ⟨hnext, hlast⟩ | ⟨hnext, hlast⟩
    · -- given again, so nothing new has appeared
      have hgiven := h.next_mem_places_iff.mpr hlast
      rw [hnext]
      simp [List.removeAll, hgiven]
    · have hnew : a.next ∉ a.places := fun hmem => hlast (h.next_mem_places_iff.mp hmem)
      rw [hnext] at hnew
      rw [hnext, List.range_succ]
      simp [List.removeAll, List.eraseDups_cons, hnew]

end Account

theorem inOrder_account (method : Method) (path : String) (uses : List Use) :
    (account method path uses).InOrder := by
  induction uses using List.reverseRecOn with
  | nil => rfl
  | append_singleton uses u ih =>
    rw [account_snoc]
    cases u with
    | put m p reply =>
      rw [Account.note]
      split
      · exact ih
      · exact ih
    | send q =>
      rw [Account.note]
      split
      · exact ih.give
      · exact ih

/-- Every request is noted, once and in order, whatever was answered. -/
theorem requests_afterUses (uses : List Use) :
    (afterUses uses).requests = uses.filterMap Use.request? := by
  induction uses using List.reverseRecOn with
  | nil => rfl
  | append_singleton uses u ih =>
    rw [afterUses_snoc, List.filterMap_append, ← ih]
    cases u with
    | put m p reply => exact (List.append_nil _).symm
    | send q =>
      rw [Use.perform, send_eq]
      rfl

/-- No more replies were given than were put there. -/
theorem Keeps.reached_le {kept : List Reply} {a : Account} (h : Keeps kept a) :
    a.reached ≤ a.replies.length := by
  by_cases hnone : a.replies = []
  · rw [Account.reached, h.none_given hnone]
    exact Nat.zero_le _
  · have hlt := h.next_lt hnone
    rcases a.next_cases with ⟨hnext, -⟩ | ⟨hnext, -⟩ <;> omega

/-- After the last reply was given, the next is the one that was last then. -/
theorem Account.next_succ_of_isLast {a : Account} {g : Giving} (hg : a.given.getLast? = some g)
    (hlast : g.IsLast) : a.next + 1 = g.among := by
  rw [next, hg]
  exact (congrArg (· + 1) (if_pos hlast)).trans hlast

/--
**Which reply is given, and when one is given again although another one waits.**

Whatever replies were put on any routes and whatever requests were made in between: a request on a
route without replies finds nothing, and any other gets the next reply of the account. For the first
time, the replies of a route are given in order and none is left out. One is given again just if it
was the last one when it was given before, and another one waits behind it then just if that has
been put there since. All requests are noted, once and in order.
-/
theorem given_again_iff (uses : List Use) (q : Request) :
    let a := account q.method q.path uses
    let answer := ((afterUses uses).send q).1
    (a.replies = [] → answer = .ok notFound) ∧
      (a.replies ≠ [] → ∃ reply, a.replies[a.next]? = some reply ∧ answer = reply.answer) ∧
      (∃ n ≤ a.replies.length, a.places.eraseDups = List.range n) ∧
      (a.next ∈ a.places ↔ ∃ g, a.given.getLast? = some g ∧ g.IsLast) ∧
      (a.next ∈ a.places ∧ a.next + 1 < a.replies.length ↔
        ∃ g, a.given.getLast? = some g ∧ g.IsLast ∧ g.among < a.replies.length) ∧
      (afterUses uses).requests = uses.filterMap Use.request? := by
  intro a answer
  have hkeeps : Keeps _ a := keeps_afterUses uses q.method q.path
  have horder : a.InOrder := inOrder_account q.method q.path uses
  have hanswer : answer = (nextReply ((afterUses uses).replies q.method q.path)).1.answer :=
    congrArg Prod.fst (send_eq (afterUses uses) q)
  refine ⟨fun hnone => ?_, fun hsome => ?_, ⟨a.reached, hkeeps.reached_le, horder⟩,
    horder.next_mem_places_iff, ?_, requests_afterUses uses⟩
  · rw [hanswer, hkeeps.eq_drop, hnone, List.drop_nil]
    rfl
  · obtain ⟨reply, hreply, hnext⟩ := hkeeps.nextReply_eq hsome
    exact ⟨reply, hreply, by rw [hanswer, hnext]⟩
  · rw [horder.next_mem_places_iff]
    constructor
    · rintro ⟨⟨g, hg, hlast⟩, hlt⟩
      exact ⟨g, hg, hlast, Account.next_succ_of_isLast hg hlast ▸ hlt⟩
    · rintro ⟨g, hg, hlast, hlt⟩
      exact ⟨⟨g, hg, hlast⟩, (Account.next_succ_of_isLast hg hlast).symm ▸ hlt⟩

/-- A reply that has been given is given again before the one that was put behind it. -/
theorem given_again_before_next :
    let q : Request := { method := .get, path := "/v1/earner/badges" }
    let first : Reply := .respond ⟨200, "[]"⟩
    let second : Reply := .respond ⟨500, "boom"⟩
    let before := [Use.put .get "/v1/earner/badges" first]
    let uses := before ++ [.send q, .put .get "/v1/earner/badges" second]
    ((afterUses before).send q).1 = first.answer ∧
      ((afterUses uses).send q).1 = first.answer ∧
      ((afterUses (uses ++ [.send q])).send q).1 = second.answer ∧
      ¬∀ (uses : List Use) (q : Request), let a := account q.method q.path uses
        a.next ∈ a.places → a.next + 1 = a.replies.length := by
  intro q first second before uses
  refine ⟨rfl, rfl, rfl, fun h => ?_⟩
  exact absurd (h uses q (by decide)) (by decide)

end Rehearsal

end OpenBadges
