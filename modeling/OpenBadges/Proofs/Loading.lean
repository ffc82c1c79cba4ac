import OpenBadges.Proofs.Announcements
import OpenBadges.Proofs.Fetching
import OpenBadges.Proofs.RequestLog

/-!
# Loading whole collections

Whole collections are asked for when nothing has happened yet, and a server answers. The
server is given by what it answers to a GET of each path, which may be anything. Collections
are asked for once each, however often they are wanted (`effects_apiFetchCollections`), and
what one answer brings goes to one collection. So the answers may arrive in any order: each
collection ends up with what its own answer brings (`get?_data_loading`), and only the
failure that shows is that of the last answer that was one (`lastFailure_loading`).
-/

namespace OpenBadges

/-! ## The calls -/

/-- The call that fetches a collection of the application, if there is one. -/
def fetchCall? (key : String) : Option RequestContext :=
  (CollectionSpec.builtin.get? key).bind (·.fetch)

/-- The calls that fetch some collections, one for each that can be fetched. -/
def fetchCalls (keys : List String) : List RequestContext :=
  ((keys.filter fun key => (fetchCall? key).isSome).eraseDups).filterMap fetchCall?

/-- A collection is fetched by a GET that replaces it and counts only OK as success. -/
theorem fetchCall?_eq_some {key : String} {call : RequestContext} (h : fetchCall? key = some call) :
    call.collection = key ∧ call.replacesCollection = true ∧ call.successfulStatuses = [200] := by
  have hall : ∀ e ∈ CollectionSpec.builtin.toList, ∀ call ∈ e.2.fetch, call.collection = e.1 ∧
      call.replacesCollection = true ∧ call.successfulStatuses = [200] := by decide
  obtain ⟨spec, hspec, hcall⟩ := Option.bind_eq_some_iff.mp h
  exact hall (key, spec) (Entries.mem_of_find?_eq_some hspec) call hcall

theorem isSuccess_iff {key : String} {call : RequestContext} (hcall : fetchCall? key = some call)
    (status : Status) : call.isSuccess status = true ↔ status = 200 := by
  rw [RequestContext.isSuccess, (fetchCall?_eq_some hcall).2.2]
  simp

theorem mem_fetchCalls {keys : List String} {call : RequestContext} :
    call ∈ fetchCalls keys ↔ call.collection ∈ keys ∧ fetchCall? call.collection = some call := by
  rw [fetchCalls, List.mem_filterMap]
  constructor
  · rintro ⟨key, hkey, hcall⟩
    obtain rfl := (fetchCall?_eq_some hcall).1
    exact ⟨(List.mem_filter.mp (List.mem_eraseDups.mp hkey)).1, hcall⟩
  · rintro ⟨hkey, hcall⟩
    exact ⟨call.collection, List.mem_eraseDups.mpr (List.mem_filter.mpr ⟨hkey, by rw [hcall]; rfl⟩),
      hcall⟩

theorem fetchCall?_of_perm {keys : List String} {order : List RequestContext}
    (horder : order.Perm (fetchCalls keys)) :
    ∀ call ∈ order, fetchCall? call.collection = some call :=
  fun _ hcall => (mem_fetchCalls.mp (horder.subset hcall)).2

theorem mem_collections_fetchCalls {keys : List String} {key : String} :
    key ∈ (fetchCalls keys).map (·.collection) ↔ key ∈ keys ∧ (fetchCall? key).isSome := by
  rw [List.mem_map]
  constructor
  · rintro ⟨call, hcall, rfl⟩
    obtain ⟨hkey, hsome⟩ := mem_fetchCalls.mp hcall
    exact ⟨hkey, by rw [hsome]; rfl⟩
  · rintro ⟨hkey, hsome⟩
    obtain ⟨call, hcall⟩ := Option.isSome_iff_exists.mp hsome
    obtain rfl := (fetchCall?_eq_some hcall).1
    exact ⟨call, mem_fetchCalls.mpr ⟨hkey, hcall⟩, rfl⟩

namespace CollectionStore

/-- **Whole collections are asked for once each, as far as they can be and are not yet.** -/
theorem fetchCollections_eq_calls (keys : List String) : ∀ {s : CollectionStore},
    s.specs = CollectionSpec.builtin →
    (s.fetchCollections keys).1 =
      (((keys.filter fun key => (fetchCall? key).isSome && !s.isFetching key).eraseDups).filterMap
        fetchCall?).map .getData := by
  induction keys with
  | nil => intro s _; rfl
  | cons key keys ih =>
    intro s hspecs
    have hcall : (s.specs.get? key).bind (·.fetch) = fetchCall? key := by rw [hspecs, fetchCall?]
    rw [fetchCollections, hcall]
    cases hsome : fetchCall? key with
    | none =>
        rw [List.filter_cons_of_neg (by simp [hsome])]
        exact ih hspecs
    | some context =>
        dsimp only
        by_cases hold : s.isFetching key = true
        · rw [if_pos hold, List.filter_cons_of_neg (by simp [hold])]
          exact ih hspecs
        · -- the note made of the collection keeps it from being asked for again
          have hrest : (keys.filter fun k =>
                (fetchCall? k).isSome && !(s.getData context).2.isFetching k) =
              (keys.filter fun k => (fetchCall? k).isSome && !s.isFetching k).filter
                fun k => !k == key := by
            rw [List.filter_filter]
            refine List.filter_congr fun k _ => ?_
            rw [isFetching_getData, (fetchCall?_eq_some hsome).1]
            by_cases hk : k = key <;> simp [hk]
          rw [if_neg hold, List.filter_cons_of_pos (by simp [hsome, hold]), List.eraseDups_cons,
            ← hrest, List.filterMap_cons, hsome]
          have hspecs' : (s.getData context).2.specs = CollectionSpec.builtin := hspecs
          exact congrArg (Effect.getData context :: ·) (ih hspecs')

/-- At first, all that can be fetched is asked for. -/
theorem fetchCollections_empty (keys : List String) :
    (({} : CollectionStore).fetchCollections keys).1 = (fetchCalls keys).map .getData := by
  have hnone : (keys.filter fun key =>
      (fetchCall? key).isSome && !({} : CollectionStore).isFetching key) =
      keys.filter fun key => (fetchCall? key).isSome :=
    List.filter_congr fun _ _ => Bool.and_true _
  rw [fetchCollections_eq_calls keys rfl, hnone, fetchCalls]

end CollectionStore

/-- **There is one call for each collection.** -/
theorem nodup_fetchCalls (keys : List String) :
    ((fetchCalls keys).map (·.collection)).Nodup := by
  have hnodup := (CollectionStore.fetches_fetchCollections (s := {}) keys
    (CollectionStore.fetchesOwn_builtin rfl)).1
  rw [CollectionStore.fetchCollections_empty, List.filterMap_map] at hnodup
  rw [← List.filterMap_eq_map]
  exact hnodup

/-! ## The server -/

/-- What a server answers to a GET of each path. -/
abbrev Server := String → Except TransportError Response

namespace Server

/-- A response that brings data: its status is OK, and its body is blank or a JSON value. -/
def Brings : Except TransportError Response → Prop
  | .ok r => r.status = 200 ∧
      ((Text.trimmed r.body.toList).isEmpty = true ∨ ∃ value, Json.parse r.body = .ok value)
  | .error _ => False

/-- The transport to a server, which notes the requests. -/
def transport (server : Server) : Transport (List Request) :=
  fun seen r => (server r.path, seen ++ [r])

/-- What a call of the server comes to. -/
def result (server : Server) (call : RequestContext) : Except RequestFailure Json :=
  call.judge (server call.actionUrl)

/-- The action that a GET comes to. -/
def answer (server : Server) (call : RequestContext) : Action :=
  (Effect.getData call).answer (server.result call)

/-- The failure that a GET comes to, as it is shown. -/
def failure? (server : Server) (call : RequestContext) : Option Message :=
  CollectionStore.failure? (server.answer call)

/-- The items that a collection of the application is loaded with. -/
def items? (server : Server) (key : String) : Option (List Item) :=
  (fetchCall? key).bind fun call =>
    (server.result call).toOption.map fun body =>
      Items.addAll (({} : CollectionStore).identifyingField key) [] (CollectionStore.bodyItems body)

/-- The items of a collection of the application when all that was asked for has been answered. -/
def items (server : Server) (key : String) : List Item := (server.items? key).getD []

variable {server : Server}

/-- A call is answered with data just if the response brings it. -/
theorem brings_iff {key : String} {call : RequestContext} (hcall : fetchCall? key = some call) :
    Brings (server call.actionUrl) ↔ ∃ body, server.result call = .ok body := by
  rw [result]
  cases server call.actionUrl with
  | error e => simp [Brings, RequestContext.judge]
  | ok r =>
      have hbody : ((Text.trimmed r.body.toList).isEmpty = true ∨
          ∃ value, Json.parse r.body = .ok value) ↔ ∃ value, r.json = .ok value := by
        rw [Response.json]
        by_cases hblank : (Text.trimmed r.body.toList).isEmpty = true <;> simp [hblank]
      rw [Brings, hbody, ← isSuccess_iff hcall, RequestContext.judge]
      by_cases hsuccess : call.isSuccess r.status = true
      · rw [if_pos hsuccess]
        cases r.json <;> simp [hsuccess]
      · simp [hsuccess]

theorem failure?_eq_none_iff {call : RequestContext} :
    server.failure? call = none ↔ ∃ body, server.result call = .ok body := by
  rw [failure?, answer]
  cases server.result call with
  | ok body => exact iff_of_true rfl ⟨body, rfl⟩
  | error failure => simp [Effect.answer, CollectionStore.failure?]

/-- What the answer to a call makes of a collection does not hang on what was there. -/
theorem rewritten?_answer {call : RequestContext} (hcall : fetchCall? call.collection = some call)
    (key : String) (items : List Item) :
    CollectionStore.rewritten? (({} : CollectionStore).identifyingField key) key items
        (server.answer call) =
      if key = call.collection then server.items? key else none := by
  have hreplaces := (fetchCall?_eq_some hcall).2.1
  rw [answer, items?]
  by_cases hkey : key = call.collection
  · subst hkey
    rw [if_pos rfl, hcall, Option.bind_some]
    cases server.result call with
    | ok body => simp [Effect.answer, CollectionStore.rewritten?, hreplaces, Except.toOption]
    | error failure => rfl
  · rw [if_neg hkey]
    cases server.result call with
    | ok body => simp [Effect.answer, CollectionStore.rewritten?, hkey]
    | error failure => rfl

end Server

/-! ## One answer after another -/

namespace Stores

variable {server : Server}

/-- A fresh application when whole collections have been asked for and these calls have been
answered. -/
def loading (server : Server) (keys : List String) (order : List RequestContext) : Stores :=
  ({} : Stores).after (.apiFetchCollections keys :: order.map server.answer)

theorem loading_nil (keys : List String) :
    loading server keys [] = ({} : Stores).next (.apiFetchCollections keys) :=
  after_snoc {} [] _

theorem loading_snoc (keys : List String) (order : List RequestContext) (call : RequestContext) :
    loading server keys (order ++ [call]) =
      (loading server keys order).next (server.answer call) := by
  rw [loading, List.map_append, ← List.cons_append]
  exact after_snoc ..

theorem specs_after (s : Stores) (as : List Action) :
    (s.after as).collections.specs = s.collections.specs := by
  induction as using List.reverseRecOn with
  | nil => rfl
  | append_singleton as a ih =>
      rw [after_snoc]
      exact (CollectionStore.specs_handle ..).trans ih

theorem identifyingField_loading (keys : List String) (order : List RequestContext) (key : String) :
    (loading server keys order).collections.identifyingField key =
      ({} : CollectionStore).identifyingField key := by
  rw [CollectionStore.identifyingField, loading, specs_after]
  rfl

/-- **A collection has what its answer brought, whenever that was.** -/
theorem get?_data_loading (keys : List String) {order : List RequestContext}
    (horder : ∀ call ∈ order, fetchCall? call.collection = some call) (key : String) :
    (loading server keys order).collections.data.get? key =
      if key ∈ order.map (·.collection) then server.items? key else none := by
  induction order using List.reverseRecOn with
  | nil =>
      rw [loading_nil]
      exact get?_data_next {} (.apiFetchCollections keys) key
  | append_singleton order call ih =>
      have hcall := horder call (List.mem_append_right _ List.mem_cons_self)
      have hbefore := ih fun c hc => horder c (List.mem_append_left _ hc)
      rw [loading_snoc, get?_data_next, identifyingField_loading,
        Server.rewritten?_answer hcall, hbefore, List.map_append, List.map_singleton]
      by_cases hkey : key = call.collection
      · -- an earlier answer to the same call would have brought the same
        cases server.items? key <;> simp [hkey]
      · simp [hkey]

/-- **The failure that shows is the last.** -/
theorem lastFailure_loading (keys : List String) (order : List RequestContext) :
    (loading server keys order).collections.lastFailure =
      (order.filterMap server.failure?).getLast? := by
  induction order using List.reverseRecOn with
  | nil =>
      rw [loading_nil]
      exact CollectionStore.lastFailure_handle ..
  | append_singleton order call ih =>
      have hlast : (loading server keys (order ++ [call])).collections.lastFailure =
          (server.failure? call).or (loading server keys order).collections.lastFailure := by
        rw [loading_snoc]
        exact CollectionStore.lastFailure_handle ..
      rw [hlast, ih, List.filterMap_append]
      cases hfailure : server.failure? call <;> simp [hfailure]

/-- **Each collection that can be fetched is asked for once, and nothing else.** -/
theorem effects_apiFetchCollections (keys : List String) :
    ((Dispatcher.mk ({} : Stores) StoreWiring.application).dispatch
      (.apiFetchCollections keys)).2.effects = (fetchCalls keys).map .getData := by
  rw [effects_dispatch]
  exact CollectionStore.fetchCollections_empty keys

/-- To ask for whole collections makes no noise. -/
theorem events_apiFetchCollections (s : Stores) (keys : List String) :
    ((Dispatcher.mk s StoreWiring.application).dispatch (.apiFetchCollections keys)).2.events =
      [] := by
  rw [events_dispatch]
  rfl

/-- **The answer to a call is announced as a failure just if it is one.** -/
theorem apiStoreFailure_mem_events (s : Stores) (call : RequestContext) :
    Event.apiStoreFailure ∈
        ((Dispatcher.mk s StoreWiring.application).dispatch (server.answer call)).2.events ↔
      (server.failure? call).isSome := by
  rw [events_dispatch, Server.failure?, Server.answer]
  cases server.result call with
  | error failure => exact iff_of_true List.mem_cons_self rfl
  | ok body =>
      have hevents : Event.apiStoreFailure ∉
          [Event.dataUpdated, Event.dataUpdatedFor call.collection] := by
        rw [List.mem_pair, not_or]
        refine ⟨by decide, fun h => ?_⟩
        have hfirst := congrArg (·.toList.head?) h
        simp [Event.apiStoreFailure, Event.head?_dataUpdatedFor] at hfirst
      exact iff_of_false hevents Bool.false_ne_true

/-- A failure is announced on the way just if an answer is one. -/
theorem apiStoreFailure_mem_events_loading (keys : List String) (order : List RequestContext) :
    Event.apiStoreFailure ∈ ((Dispatcher.mk ({} : Stores) StoreWiring.application).dispatchAll
        (.apiFetchCollections keys :: order.map server.answer)).2.events ↔
      ∃ call ∈ order, (server.failure? call).isSome := by
  induction order using List.reverseRecOn with
  | nil =>
      rw [List.map_nil, Dispatcher.dispatchAll_singleton, events_apiFetchCollections]
      simp
  | append_singleton order call ih =>
      rw [List.map_append, ← List.cons_append, List.map_singleton, Dispatcher.dispatchAll_snoc,
        Outcome.events_append, List.mem_append, ih, fst_dispatchAll, apiStoreFailure_mem_events]
      simp [or_and_right, exists_or]

end Stores

end OpenBadges
