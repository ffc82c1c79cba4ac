import OpenBadges.CommandLine.Program
import OpenBadges.Proofs.Completion
import OpenBadges.Proofs.Loading

/-!
# Fetching from the command line

A command that fetches collections asks for each of them that can be fetched, waits until
nothing is left to do, and then prints all collections or tells of a failure. There is
nothing between the two. If a single answer is a failure its collection does not exist, so
that the command has failed whatever else has arrived, and the branch that prints
collections with a warning is never taken.

The answers arrive in any order, among steps of the loop. What is printed does not hang on
the order, and of several failures the last is told, word for word (`Server.Ends`).
`fetch_all_or_nothing` puts together what the loop does in general, what the answers make
of the collections, and what the reader of failures has heard (`Server.Concludes`).
-/

namespace OpenBadges

/-! ## One reader -/

namespace Audience

variable {reader : String} {event : EventName}

/-- A reader of one event, with what waits for it. -/
def single (reader : String) (event : EventName) (waiting : List EventName) : Audience where
  bus := {
    byName := (∅ : Dict (List Subscription)).insert event [0]
    mailboxes := [{ waiting := waiting }] }
  readers := (∅ : Dict Subscription).insert reader 0

theorem emitAll_single_self (waiting : List EventName) :
    (single reader event waiting).emitAll [event] = single reader event (waiting ++ [event]) := by
  simp [emitAll, EventBus.emitAll, EventBus.emit, EventBus.prune, EventBus.subscribers, single,
    EventBus.isLive, Dict.insert_insert, EventBus.deliver, Mailbox.deliver]

/-- The bus forgets that nobody wants an event, which it did not know. -/
theorem emitAll_single_of_ne {e : EventName} (he : e ≠ event) (waiting : List EventName) :
    (single reader event waiting).emitAll [e] = single reader event waiting := by
  have hnone : ((∅ : Dict (List Subscription)).insert event [0]).get? e = none :=
    Dict.get?_insert_of_ne ∅ he [0]
  simp [emitAll, EventBus.emitAll, EventBus.emit, EventBus.prune, EventBus.subscribers, single,
    hnone, Dict.erase_of_get?_eq_none hnone]

/-- **The reader hears of its event and of no other.** -/
theorem emitAll_single (events : List EventName) : ∀ waiting : List EventName,
    (single reader event waiting).emitAll events =
      single reader event (waiting ++ events.filter (· = event)) := by
  induction events with
  | nil => intro waiting; simp [emitAll, EventBus.emitAll]
  | cons e events ih =>
    intro waiting
    rw [← List.singleton_append, emitAll_append]
    by_cases he : e = event
    · rw [he, emitAll_single_self, ih]
      simp
    · rw [emitAll_single_of_ne he, ih]
      simp [he]

theorem drain?_single (waiting : List EventName) :
    ((single reader event waiting).drain? reader).map (·.1) = some waiting := by
  rw [drain?, single, Dict.get?_insert_self]
  rfl

end Audience

/-! ## Conclusions -/

namespace CommandLine

/-- What a reader of failures comes to conclude. -/
theorem conclusion_single (c : Command) (s : Stores) (events : List EventName) :
    c.conclusion s
        ((Audience.single Command.failureReader Event.apiStoreFailure []).emitAll events) =
      conclude s.collections (events.filter (· = Event.apiStoreFailure)) c.keys := by
  rw [Command.conclusion, Audience.emitAll_single, Audience.drain?_single]
  rfl

/-- A command that has heard of nothing prints its collections. -/
theorem conclude_of_silent {s : CollectionStore} {events : List EventName} {keys : List String}
    (h : Event.apiStoreFailure ∉ events) :
    conclude s (events.filter (· = Event.apiStoreFailure)) keys =
      .complete (collectionsJson s keys) := by
  have hnone : events.filter (· = Event.apiStoreFailure) = [] :=
    List.filter_eq_nil_iff.mpr fun e he heq => h (of_decide_eq_true heq ▸ he)
  rw [hnone]
  rfl

/-- A command that has heard of a failure and misses a collection tells of the failure. -/
theorem conclude_of_heard {s : CollectionStore} {events : List EventName} {keys : List String}
    {m : Message} (h : Event.apiStoreFailure ∈ events) (hmissing : s.hasAll keys = false)
    (hshown : s.lastFailure = some m) :
    conclude s (events.filter (· = Event.apiStoreFailure)) keys = .failed m.content := by
  have hsome : (events.filter (· = Event.apiStoreFailure)).isEmpty = false :=
    List.isEmpty_eq_false_iff_exists_mem.mpr ⟨_, List.mem_filter.mpr ⟨h, decide_eq_true rfl⟩⟩
  rw [conclude, hsome, if_neg Bool.false_ne_true, hmissing, hshown]
  rfl

end CommandLine

/-! ## What the server makes of a command -/

namespace Server

open CommandLine

/-- The collections that are printed. -/
def collections (server : Server) (keys : List String) : Dict Json :=
  .ofList (keys.map fun key => (key, .arr (server.items key)))

/-- What fetching collections comes to when the answers have arrived in some order. -/
inductive Concludes (server : Server) (keys : List String) (order : List RequestContext) :
    Conclusion → Prop where
  /-- All answers bring data, and all collections are printed. -/
  | complete : (∀ call ∈ order, Brings (server call.actionUrl)) →
      Concludes server keys order (.complete (.obj (server.collections keys).entries))
  /-- Some answers are failures, and the last of them is told. -/
  | failed {before after : List RequestContext} {call : RequestContext} {failure : RequestFailure} :
      order = before ++ call :: after → server.result call = .error failure →
      (∀ later ∈ after, Brings (server later.actionUrl)) →
      Concludes server keys order (.failed (failure.message "getting data").content)

variable {server : Server}

/-- **A collection is loaded with the value of the body that its answer brings.** -/
theorem items_of_answer {key : String} {call : RequestContext} {r : Response} {body : Json}
    (hcall : fetchCall? key = some call) (hanswer : server call.actionUrl = .ok r)
    (hstatus : r.status = 200)
    (hbody : if (Text.trimmed r.body.toList).isEmpty then body = .null
      else Json.parse r.body = .ok body) :
    server.items key = Items.addAll (({} : CollectionStore).identifyingField key) []
      (CollectionStore.bodyItems body) := by
  have hjson : r.json = .ok body := by
    rw [Response.json]
    split at hbody
    · rename_i hblank
      rw [if_pos hblank, hbody]
    · rename_i hblank
      rw [if_neg hblank, hbody]
  have hresult : server.result call = .ok body := by
    rw [result, hanswer, RequestContext.judge, if_pos ((isSuccess_iff hcall _).mpr hstatus), hjson]
  rw [items, items?, hcall, Option.bind_some, hresult]
  rfl

/-- A collection that cannot be fetched has no items. -/
theorem items_of_fetchCall?_eq_none {key : String} (h : fetchCall? key = none) :
    server.items key = [] := by
  rw [items, items?, h]
  rfl

theorem Concludes.not_warned {keys : List String} {order : List RequestContext}
    {conclusion : Conclusion} (h : Concludes server keys order conclusion) (reason : String)
    (printed : Json) : conclusion ≠ .warned reason printed := by
  rintro rfl
  cases h

/-- Either no answer is a failure, or there is a last one that is. -/
theorem failure?_cases (server : Server) (order : List RequestContext) :
    (∀ call ∈ order, server.failure? call = none) ∨
      ∃ before call after m, order = before ++ call :: after ∧ server.failure? call = some m ∧
        ∀ later ∈ after, server.failure? later = none := by
  induction order using List.reverseRecOn with
  | nil => exact .inl fun call h => absurd h List.not_mem_nil
  | append_singleton order call ih =>
      cases hlast : server.failure? call with
      | some m => exact .inr ⟨order, call, [], m, rfl, hlast, fun _ h => absurd h List.not_mem_nil⟩
      | none =>
          rcases ih with hnone | ⟨before, failing, after, m, rfl, hm, hafter⟩
          · refine .inl fun c hc => ?_
            rcases List.mem_append.mp hc with hold | hnew
            · exact hnone c hold
            · rw [List.mem_singleton.mp hnew, hlast]
          · refine .inr ⟨before, failing, after ++ [call], m, by simp, hm, fun c hc => ?_⟩
            rcases List.mem_append.mp hc with hold | hnew
            · exact hafter c hold
            · rw [List.mem_singleton.mp hnew, hlast]

theorem result_of_failure? {call : RequestContext} {m : Message}
    (h : server.failure? call = some m) :
    ∃ failure, server.result call = .error failure ∧ m = failure.message "getting data" := by
  rw [failure?, answer] at h
  cases hresult : server.result call with
  | ok body => rw [hresult] at h; exact absurd h (by simp [Effect.answer, CollectionStore.failure?])
  | error failure =>
      rw [hresult] at h
      exact ⟨failure, rfl, (Option.some.inj h).symm⟩

/-- A call that was made is answered with data just if it is no failure. -/
theorem brings_of_failure?_eq_none {keys : List String} {call : RequestContext}
    (hcall : call ∈ fetchCalls keys) (h : server.failure? call = none) :
    Brings (server call.actionUrl) :=
  (brings_iff (mem_fetchCalls.mp hcall).2).mpr (failure?_eq_none_iff.mp h)

/-- A collection whose answer is a failure has nothing to be loaded with. -/
theorem items?_of_failure? {keys : List String} {call : RequestContext}
    (hcall : call ∈ fetchCalls keys) {m : Message} (h : server.failure? call = some m) :
    server.items? call.collection = none := by
  obtain ⟨failure, hresult, _⟩ := result_of_failure? h
  rw [items?, (mem_fetchCalls.mp hcall).2, Option.bind_some, hresult]
  rfl

/-! ## How the program ends -/

/-- What is told of an answer that brings no data. -/
inductive Complains : Except TransportError Response → String → Prop where
  /-- The path makes no address. -/
  | nowhere (path reason : String) : Complains (.error (.invalidUrl path reason))
      ("Error getting data: " ++ ("invalid request url `" ++ path ++ "`: " ++ reason))
  /-- The request failed on its way. -/
  | lost (reason : String) :
      Complains (.error (.failed reason)) ("Error getting data: " ++ ("request failed: " ++ reason))
  | unavailable (reason : String) :
      Complains (.error (.unavailable reason)) ("Error getting data: " ++ ("no response: " ++ reason))
  /-- The status is not OK. -/
  | refused {r : Response} : r.status ≠ 200 →
      Complains (.ok r) (toString r.status.toNat ++ (" Error getting data: " ++ r.body))
  /-- The body is neither blank nor a JSON value. -/
  | garbled {r : Response} {e : Json.ReadError} : r.status = 200 →
      (Text.trimmed r.body.toList).isEmpty = false → Json.parse r.body = .error e →
      Complains (.ok r) ("Error getting data: " ++ ("invalid response body: " ++ e.message))

/-- How the program ends when the answers to its calls have arrived in some order. -/
structure Ends (server : Server) (keys : List String) (order : List RequestContext)
    (ending : Ending) : Prop where
  /-- It succeeds just if every answer brings data. -/
  succeeds : ending.code = 0 ↔ ∀ call ∈ order, Brings (server call.actionUrl)
  /-- Then it prints the collections and complains of nothing. -/
  prints : ending.code = 0 →
    ending.output = (Json.obj (server.collections keys).entries).pretty ++ "\n" ∧
      ending.complaint = none
  /-- Otherwise it prints nothing and complains of the last answer that brings no data. -/
  complains : ending.code ≠ 0 → ending.code = 1 ∧ ending.output = "" ∧
    ∃ before call after complaint, order = before ++ call :: after ∧
      Complains (server call.actionUrl) complaint ∧
      (∀ later ∈ after, Brings (server later.actionUrl)) ∧ ending.complaint = some complaint

theorem Complains.not_brings {answer : Except TransportError Response} {complaint : String}
    (h : Complains answer complaint) : ¬Brings answer := by
  intro hbrings
  cases h with
  | nowhere | lost | unavailable => exact hbrings
  | refused hstatus => exact hstatus hbrings.1
  | garbled _ hblank hparse =>
      rcases hbrings.2 with hblank' | ⟨value, hvalue⟩
      · exact absurd (hblank.symm.trans hblank') (by decide)
      · exact absurd (hparse.symm.trans hvalue) (by simp)

/-- There is one thing to tell of an answer. -/
theorem Complains.unique {answer : Except TransportError Response} {complaint complaint' : String}
    (h : Complains answer complaint) (h' : Complains answer complaint') :
    complaint = complaint' := by
  cases h with
  | nowhere | lost | unavailable => cases h'; rfl
  | refused hstatus =>
      cases h' with
      | refused => rfl
      | garbled hok => exact absurd hok hstatus
  | garbled hok _ hparse =>
      cases h' with
      | refused hstatus => exact absurd hok hstatus
      | garbled _ _ hparse' => rw [Except.error.inj (hparse.symm.trans hparse')]

/-- When every answer brings data, this is all that happens. -/
theorem Ends.eq_of_brings {keys : List String} {order : List RequestContext} {ending : Ending}
    (h : server.Ends keys order ending)
    (hbrings : ∀ call ∈ order, Brings (server call.actionUrl)) :
    ending = {
      code := 0
      output := (Json.obj (server.collections keys).entries).pretty ++ "\n"
      complaint := none } := by
  have hcode := h.succeeds.mpr hbrings
  obtain ⟨houtput, hcomplaint⟩ := h.prints hcode
  obtain ⟨code, output, complaint⟩ := ending
  obtain rfl : code = 0 := hcode
  obtain rfl : complaint = none := hcomplaint
  exact congrArg (Ending.mk 0 · none) houtput

/-- When the last answer brings no data, this is. -/
theorem Ends.eq_of_complains {keys : List String} {order : List RequestContext}
    {call : RequestContext} {ending : Ending} {complaint : String}
    (h : server.Ends keys order ending) (hlast : order.getLast? = some call)
    (htold : Complains (server call.actionUrl) complaint) :
    ending = { code := 1, output := "", complaint := some complaint } := by
  obtain ⟨earlier, rfl⟩ := List.getLast?_eq_some_iff.mp hlast
  have hcode : ending.code ≠ 0 := fun hzero =>
    htold.not_brings (h.succeeds.mp hzero call (List.mem_append_right _ List.mem_cons_self))
  obtain ⟨hone, houtput, before, failing, after, _, hsplit, htold', hlater, hcomplaint⟩ :=
    h.complains hcode
  have hafter : after = [] := by
    rcases List.eq_nil_or_concat after with hnil | ⟨rest, last, rfl⟩
    · exact hnil
    · -- the last answer would be one that brings data
      have hsplit' : earlier ++ [call] = (before ++ failing :: rest) ++ [last] := by
        simpa using hsplit
      obtain rfl := List.singleton_inj.mp (List.append_inj' hsplit' rfl).2
      exact absurd (hlater call (by simp)) htold.not_brings
  subst hafter
  obtain rfl := List.singleton_inj.mp (List.append_inj' hsplit rfl).2
  obtain ⟨code, output, told⟩ := ending
  obtain rfl : code = 1 := hone
  obtain rfl : output = "" := houtput
  rw [htold.unique htold']
  exact congrArg (Ending.mk 1 "") hcomplaint

/-- **What is shown of a failure is what there is to tell of the answer.** -/
theorem complains_of_result {key : String} {call : RequestContext}
    (hcall : fetchCall? key = some call) {failure : RequestFailure}
    (h : server.result call = .error failure) :
    Complains (server call.actionUrl) (failure.message "getting data").content := by
  rw [result] at h
  cases hanswer : server call.actionUrl with
  | error e =>
      rw [hanswer] at h
      cases h
      cases e with
      | invalidUrl path reason => exact .nowhere path reason
      | failed reason => exact .lost reason
      | unavailable reason => exact .unavailable reason
  | ok r =>
      have hstatus := isSuccess_iff hcall r.status
      rw [hanswer, RequestContext.judge] at h
      by_cases hsuccess : call.isSuccess r.status = true
      · rw [if_pos hsuccess, Response.json] at h
        by_cases hblank : (Text.trimmed r.body.toList).isEmpty = true
        · rw [if_pos hblank] at h
          cases h
        · rw [if_neg hblank] at h
          cases hparse : Json.parse r.body with
          | ok value => simp [hparse] at h
          | error e =>
              rw [hparse] at h
              cases h
              exact .garbled (hstatus.mp hsuccess) (by simpa using hblank) hparse
      · rw [if_neg hsuccess] at h
        cases h
        have hcontent : (RequestFailure.message "getting data" (.status r.status r.body)).content =
            toString r.status.toNat ++ " Error " ++ "getting data" ++ ": " ++ r.body := rfl
        rw [hcontent, String.append_assoc, String.append_assoc, String.append_assoc]
        exact .refused fun hok => hsuccess (hstatus.mpr hok)

/-- **The program ends as its conclusion says.** -/
theorem Concludes.ends {keys : List String} {order : List RequestContext} {conclusion : Conclusion}
    (h : Concludes server keys order conclusion)
    (hcalls : ∀ call ∈ order, fetchCall? call.collection = some call) :
    server.Ends keys order (.ofConclusion conclusion) := by
  cases h with
  | complete hbrings =>
      exact ⟨iff_of_true rfl hbrings, fun _ => ⟨rfl, rfl⟩, fun hcode => absurd rfl hcode⟩
  | @failed before after call failure hsplit hresult hlater =>
      have hcall : call ∈ order := hsplit ▸ List.mem_append_right _ List.mem_cons_self
      have hcomplains := complains_of_result (hcalls call hcall) hresult
      have hcode : (Ending.ofConclusion
          (.failed (failure.message "getting data").content)).code ≠ 0 := Nat.one_ne_zero
      refine ⟨iff_of_false hcode fun hall => ?_, fun hzero => absurd hzero hcode, fun _ => ?_⟩
      · exact hcomplains.not_brings (hall call hcall)
      · exact ⟨rfl, rfl, before, call, after, _, hsplit, hcomplains, hlater, rfl⟩

end Server

/-! ## What the collections come to -/

namespace Stores

open CommandLine

variable {server : Server} {keys : List String} {order : List RequestContext}

theorem get?_data_of_perm (horder : order.Perm (fetchCalls keys)) {key : String}
    (hkey : key ∈ keys) :
    (loading server keys order).collections.data.get? key = server.items? key := by
  rw [get?_data_loading keys (fetchCall?_of_perm horder)]
  split
  · rfl
  · -- what is not asked for cannot be fetched
    rename_i hnot
    rw [(horder.map (·.collection)).mem_iff, mem_collections_fetchCalls] at hnot
    have hnone : fetchCall? key = none :=
      Option.not_isSome_iff_eq_none.mp fun hsome => hnot ⟨hkey, hsome⟩
    rw [Server.items?, hnone]
    rfl

/-- **The collections that are printed.** -/
theorem collectionsJson_loading (horder : order.Perm (fetchCalls keys)) :
    collectionsJson (loading server keys order).collections keys =
      .obj (server.collections keys).entries := by
  have hitems : ∀ key ∈ keys, (key, Json.arr ((loading server keys order).collections.items key)) =
      (key, Json.arr (server.items key)) := by
    intro key hkey
    rw [CollectionStore.items, get?_data_of_perm horder hkey]
    rfl
  rw [collectionsJson, List.map_congr_left hitems, Json.ofFields_eq]
  rfl

/-- A failure leaves a collection that does not exist. -/
theorem hasAll_of_failure (horder : order.Perm (fetchCalls keys)) {call : RequestContext}
    (hcall : call ∈ order) {m : Message} (hfailure : server.failure? call = some m) :
    (loading server keys order).collections.hasAll keys = false := by
  have hcalls := horder.subset hcall
  have hkey := (mem_fetchCalls.mp hcalls).1
  refine List.all_eq_false.mpr ⟨call.collection, hkey, ?_⟩
  rw [CollectionStore.hasCollection, Dict.contains, get?_data_of_perm horder hkey,
    Server.items?_of_failure? hcalls hfailure]
  exact Bool.false_ne_true

/-- **In whatever order the answers arrive, it is all or nothing.** -/
theorem concludes_loading (horder : order.Perm (fetchCalls keys)) :
    let r := (Dispatcher.mk ({} : Stores) StoreWiring.application).dispatchAll
      (.apiFetchCollections keys :: order.map server.answer)
    server.Concludes keys order ((Command.fetch keys).conclusion r.1.state
      ((Audience.single Command.failureReader Event.apiStoreFailure []).emitAll r.2.events)) := by
  intro r
  have hheard : Event.apiStoreFailure ∈ r.2.events ↔
      ∃ call ∈ order, (server.failure? call).isSome := apiStoreFailure_mem_events_loading ..
  have hstate : r.1.state = loading server keys order := rfl
  rw [conclusion_single, hstate, show (Command.fetch keys).keys = keys from rfl]
  rcases server.failure?_cases order with
    hnone | ⟨before, call, after, m, rfl, hlast, hafter⟩
  · -- nothing is heard, so whether the collections exist is not even asked
    have hsilent : Event.apiStoreFailure ∉ r.2.events := by
      rw [hheard]
      rintro ⟨call, hcall, hsome⟩
      rw [hnone call hcall] at hsome
      exact Bool.false_ne_true hsome
    rw [conclude_of_silent hsilent]
    refine (collectionsJson_loading horder) ▸ .complete fun call hcall => ?_
    exact Server.brings_of_failure?_eq_none (horder.subset hcall) (hnone call hcall)
  · -- the last failure is the one that shows, and its collection does not exist
    have hcall : call ∈ before ++ call :: after := List.mem_append_right _ List.mem_cons_self
    have hnoise := hheard.mpr ⟨call, hcall, by rw [hlast]; rfl⟩
    have hshown : (loading server keys (before ++ call :: after)).collections.lastFailure =
        some m := by
      rw [lastFailure_loading, List.filterMap_append, List.filterMap_cons, hlast,
        List.filterMap_eq_nil_iff.mpr hafter]
      simp
    rw [conclude_of_heard hnoise (hasAll_of_failure horder hcall hlast) hshown]
    obtain ⟨failure, hresult, rfl⟩ := Server.result_of_failure? hlast
    refine .failed rfl hresult fun later hlater => ?_
    have hlater' : later ∈ before ++ call :: after :=
      List.mem_append_right _ (List.mem_cons_of_mem _ hlater)
    exact Server.brings_of_failure?_eq_none (horder.subset hlater') (hafter later hlater)

end Stores

/-! ## The command -/

/-- What comes of an effect of the application asks for nothing more. -/
theorem settles_perform {ω : Type} (send : Transport ω) :
    (Effect.perform send).Settles StoreWiring.application := by
  intro s world e
  rw [Stores.effects_dispatch]
  exact CollectionStore.effects_of_isAnswer (Effect.isAnswer_answer ..)

/-- What has arrived adds nothing to what was asked for. -/
theorem effects_fetching {ω : Type} {send : Transport ω} {arrived : List Action}
    (harrived : ∀ a ∈ arrived, ∃ world e, a = (Effect.perform send world e).1)
    (keys : List String) :
    ((Dispatcher.mk ({} : Stores) StoreWiring.application).dispatchAll
      (.apiFetchCollections keys :: arrived)).2.effects = (fetchCalls keys).map .getData := by
  rw [← List.singleton_append, Dispatcher.dispatchAll_append, Dispatcher.dispatchAll_singleton,
    Outcome.effects_append, Stores.effects_apiFetchCollections,
    (settles_perform send).effects_dispatchAll harrived rfl, List.append_nil]

/-- In a good world, and whatever has been asked for there, the calls for some collections are
answered as a server does, and the world stays good. -/
def Server.Serves {ω : Type} (server : Server) (send : Transport ω) (keys : List String)
    (good : ω → Prop) : Prop :=
  ∀ world, good world → ∀ call ∈ fetchCalls keys,
    (send world { method := .get, path := call.actionUrl }).1 = server call.actionUrl ∧
      good (send world { method := .get, path := call.actionUrl }).2

theorem Server.serves_transport (server : Server) (keys : List String) :
    server.Serves server.transport keys fun _ => True :=
  fun _ _ _ _ => ⟨rfl, trivial⟩

/-- The server that a client meets behind a network without memory. -/
def Server.behind (client : Http.Client) (answer : Http.WireRequest → Option Http.WireResponse) :
    Server :=
  fun path => (Http.Client.send (fun world r => (answer r, world)) (client, ())
    { method := .get, path := path }).1

/-- A client that gets no cookies stays as it is, and so do the answers. -/
theorem Server.serves_behind (client : Http.Client)
    {answer : Http.WireRequest → Option Http.WireResponse}
    (hcookies : ∀ r, ∀ response ∈ answer r, response.cookies = []) (keys : List String) :
    (behind client answer).Serves (Http.Client.send fun world r => (answer r, world)) keys
      fun world => world = (client, ()) := by
  rintro _ rfl call _
  refine ⟨rfl, ?_⟩
  rw [Http.Client.send]
  split
  · rfl
  · rename_i w _
    cases hanswer : answer w with
    | none => rfl
    | some response => simp [hcookies w response hanswer, Http.Client.setCookies]

/-- **A world in which a server is asked gives its answers.** -/
theorem Server.Serves.performAll {ω : Type} {server : Server} {send : Transport ω}
    {keys : List String} {good : ω → Prop} (h : server.Serves send keys good)
    {calls : List RequestContext} :
    ∀ {world : ω}, calls ⊆ fetchCalls keys → good world →
      ((Effect.perform send).performAll world (calls.map .getData)).1 =
        calls.map server.answer := by
  induction calls with
  | nil => intro world _ _; rfl
  | cons call calls ih =>
    intro world hcalls hworld
    obtain ⟨hcall, hcalls⟩ := List.cons_subset.mp hcalls
    obtain ⟨hanswer, hnext⟩ := h world hworld call hcall
    rw [List.map_cons, Performer.performAll, List.map_cons, ← ih hcalls hnext]
    simp [Effect.perform, Effect.request, Effect.context, Server.answer, Server.result, hanswer]

/-- The server is asked with one GET after another. -/
theorem Server.snd_performAll_transport (server : Server) (calls : List RequestContext) :
    ∀ seen : List Request,
      ((Effect.perform server.transport).performAll seen (calls.map .getData)).2 =
        seen ++ calls.map fun call => { method := .get, path := call.actionUrl } := by
  induction calls with
  | nil => intro seen; simp [Performer.performAll]
  | cons call calls ih =>
    intro seen
    rw [List.map_cons, Performer.performAll]
    simp [Effect.perform, Server.transport, Effect.request, ih]

/-- What a task comes to does not hang on what has been asked for before. -/
theorem Server.eq_map_of_answers (server : Server) {es : List Effect} {results : List Action}
    (h : List.Forall₂ (Interleaving.conductOf (Effect.perform server.transport)).answers es
      results) :
    results = es.map fun e => (Effect.perform server.transport [] e).1 := by
  have hsame : List.Forall₂ (fun e a => (Effect.perform server.transport [] e).1 = a) es results :=
    h.imp fun e a ⟨_, ha⟩ => ha
  rw [← List.forall₂_map_left_iff (R := Eq), List.forall₂_eq_eq_eq] at hsame
  exact hsame.symm

namespace CommandLine

open Interleaving

/-- The application at the moment when it starts to fetch collections. -/
def fetching (keys : List String) : App (List Request) where
  loop := {
    dispatcher := ⟨{}, StoreWiring.application⟩
    audience := .single Command.failureReader Event.apiStoreFailure []
    queue := [.apiFetchCollections keys] }
  world := []

/-- How the fetching of collections goes, with a server that answers. -/
def FetchSteps (server : Server) (keys : List String) (c : Config Stores Action Effect) : Prop :=
  Steps (conductOf (Effect.perform server.transport)) (.ofLoop (fetching keys).loop) c

/-- What the fetching of collections has come to. -/
structure Fetched (server : Server) (keys : List String) (c : Config Stores Action Effect) :
    Prop where
  /-- There was one task for each call, and it got the answer to the call. -/
  tasks : c.tasks = (fetchCalls keys).map fun call => .gone (server.answer call)
  /-- What the tasks asked of the server was a GET of the path of each call. -/
  requests : ((fetching keys).loop.dispatcher.dispatchAll c.dispatched).2.effects.map
      Effect.request =
    (fetchCalls keys).map fun call => { method := .get, path := call.actionUrl, body := .empty }
  /-- The answers have been dispatched in some order. -/
  arrived : ∃ order : List RequestContext, order.Perm (fetchCalls keys) ∧
    c.dispatched = .apiFetchCollections keys :: order.map server.answer
  /-- Whichever it was, the program ends as it has to after that order. -/
  ends : ∀ order : List RequestContext, order.Perm (fetchCalls keys) →
    c.dispatched = .apiFetchCollections keys :: order.map server.answer →
    server.Ends keys order (.ofConclusion
      ((Command.fetch keys).conclusion c.dispatcher.state c.audience))
  /-- And it never only warns. -/
  unwarned : ∀ reason printed,
    (Command.fetch keys).conclusion c.dispatcher.state c.audience ≠ .warned reason printed

variable {server : Server} {keys : List String} {c : Config Stores Action Effect}

/-- **At rest, every call has been answered.** -/
theorem fetched_of_idle (h : FetchSteps server keys c) (hidle : c.phase = .idle)
    (hwhole : TaskPhase.broken ∉ c.tasks) : Fetched server keys c := by
  obtain ⟨results, arrived, hanswers, htasks, hperm, hdispatched, haudience⟩ :=
    origins_of_idle (oneTaskEach_conductOf _) h hidle hwhole
  have hresults := server.eq_map_of_answers hanswers
  have harrived : ∀ a ∈ arrived, ∃ world e, a = (Effect.perform server.transport world e).1 := by
    intro a ha
    rw [hresults] at hperm
    obtain ⟨e, _, rfl⟩ := List.mem_map.mp (hperm.subset ha)
    exact ⟨[], e, rfl⟩
  have hasked : ((fetching keys).loop.dispatcher.dispatchAll c.dispatched).2.effects =
      (fetchCalls keys).map .getData := by
    rw [hdispatched]
    exact effects_fetching harrived keys
  -- so the tasks are those of the calls, and what has arrived is a permutation of their answers
  have hworks : (fetching keys).loop.works = [] := rfl
  rw [hasked, hworks, List.nil_append, List.map_map] at hresults
  subst hresults
  obtain ⟨order, harrivals, horder⟩ : ∃ order : List RequestContext,
      arrived = order.map server.answer ∧ order.Perm (fetchCalls keys) :=
    (congrFun₂ (List.eq_map_comp_perm server.answer) arrived (fetchCalls keys)).mpr hperm
  subst harrivals
  -- and what the command concludes is that of the stores after any order that fits
  have hconcludes : ∀ order' : List RequestContext, order'.Perm (fetchCalls keys) →
      c.dispatched = .apiFetchCollections keys :: order'.map server.answer →
      server.Concludes keys order'
        ((Command.fetch keys).conclusion c.dispatcher.state c.audience) := by
    intro order' horder' hdispatched'
    rw [haudience, (orderly_steps h).state, hdispatched']
    exact Stores.concludes_loading horder'
  exact {
    tasks := by rw [htasks, List.map_map]; rfl
    requests := by rw [hasked, List.map_map]; rfl
    arrived := ⟨order, horder, hdispatched⟩
    ends := fun order' horder' hdispatched' =>
      (hconcludes order' horder' hdispatched').ends (fetchCall?_of_perm horder')
    unwarned := (hconcludes order horder hdispatched).not_warned }

theorem asked_fetching (keys : List String) :
    ((fetching keys).loop.dispatcher.dispatchAll (fetching keys).loop.queue).2.effects =
      (fetchCalls keys).map .getData := by
  rw [show (fetching keys).loop.queue = [.apiFetchCollections keys] from rfl,
    Dispatcher.dispatchAll_singleton]
  exact Stores.effects_apiFetchCollections keys

/-- **The answers may arrive in any order.** -/
theorem exists_fetched_inOrder {order : List RequestContext}
    (horder : order.Perm (fetchCalls keys)) :
    ∃ c, FetchSteps server keys c ∧ c.phase = .idle ∧ TaskPhase.broken ∉ c.tasks ∧
      c.dispatched = .apiFetchCollections keys :: order.map server.answer := by
  have heffects : (order.map Effect.getData).Perm
      ((fetching keys).loop.dispatcher.dispatchAll (fetching keys).loop.queue).2.effects := by
    rw [asked_fetching]
    exact horder.map _
  obtain ⟨c, hc, hidle, hwhole, hdispatched⟩ :=
    exists_idle_inOrder (settles_perform server.transport) [] rfl heffects
  rw [List.map_map] at hdispatched
  exact ⟨c, hc, hidle, hwhole, hdispatched⟩

/-- Carrying the command out is to run the loop for two rounds. -/
theorem run_fetch {ω : Type} (send : Transport ω) (keys : List String) (world : ω) :
    (Command.fetch keys).run send world =
      let rounds := ActionLoop.run (Effect.perform send) 2 world (fetching keys).loop
      ((Command.fetch keys).conclusion rounds.loop.dispatcher.state rounds.loop.audience,
        rounds.world) := rfl

/-- **That is one way for the fetching to go.** -/
theorem concludes_run {ω : Type} {send : Transport ω} {good : ω → Prop}
    (h : server.Serves send keys good) {world : ω} (hworld : good world) :
    server.Concludes keys (fetchCalls keys) ((Command.fetch keys).run send world).1 := by
  have htasks : (fetching keys).loop.tasks = .ungated [] := rfl
  obtain ⟨_, _, hloop⟩ := ActionLoop.run_two htasks (settles_perform send) world
  rw [asked_fetching, List.nil_append, h.performAll (List.Subset.refl _) hworld] at hloop
  rw [run_fetch]
  dsimp only
  rw [hloop]
  exact Stores.concludes_loading (.refl _)

/-- Meanwhile the server is asked with a GET for each call. -/
theorem snd_run (server : Server) (keys : List String) :
    ((Command.fetch keys).run server.transport []).2 =
      (fetchCalls keys).map fun call => { method := .get, path := call.actionUrl } := by
  have htasks : (fetching keys).loop.tasks = .ungated [] := rfl
  obtain ⟨_, hworld, _⟩ := ActionLoop.run_two htasks (settles_perform server.transport) []
  rw [asked_fetching, List.nil_append, Server.snd_performAll_transport] at hworld
  rw [run_fetch]
  dsimp only
  rw [hworld, List.nil_append]

/-- The program ends as its command concludes. -/
theorem program_eq_ofConclusion {ν : Type} (network : Http.Network ν) (world : ν)
    {env : String → Option String} {fileText : String → Option String} {words : List String}
    {options : Options} {c : Command} {file : ClientConfig} {client : Http.Client}
    (hread : read env words = .run options c) (hload : options.load fileText = .ok file)
    (hclient : Http.Client.new (options.configure file) = .ok client) :
    (program network world env fileText words).1 =
      .ofConclusion (c.run (Http.Client.send network) (client, world)).1 := by
  rw [program, hread]
  dsimp only
  rw [hload]
  dsimp only
  rw [hclient]

/-- What there is to say about fetching collections from a server. -/
structure AllOrNothing (server : Server) (keys : List String) : Prop where
  /-- Each collection that is wanted and can be fetched has one call, and no other has. -/
  calls : ((fetchCalls keys).map (·.collection)).Nodup ∧
    ∀ key, key ∈ (fetchCalls keys).map (·.collection) ↔ key ∈ keys ∧ (fetchCall? key).isSome
  /-- What is printed has one entry for each collection that is wanted. -/
  printed : ∀ key, (server.collections keys).get? key =
    if key ∈ keys then some (.arr (server.items key)) else none
  /-- A collection is loaded with what its answer brings: the value of the body, or nothing. -/
  loaded : ∀ key call r body, fetchCall? key = some call → server call.actionUrl = .ok r →
    r.status = 200 →
    (if (Text.trimmed r.body.toList).isEmpty then body = .null else Json.parse r.body = .ok body) →
    server.items key = Items.addAll (({} : CollectionStore).identifyingField key) []
      (CollectionStore.bodyItems body)
  /-- A collection that cannot be fetched is printed without items. -/
  unloaded : ∀ key, fetchCall? key = none → server.items key = []
  /-- This is the application that carries the command out. -/
  begins : (App.new {} []).map (Command.fetch keys).begin = .ok (fetching keys)
  /-- From wherever it has got to without a task breaking down, it can come to rest. -/
  rests : ∀ c, FetchSteps server keys c → TaskPhase.broken ∉ c.tasks →
    CanRest (Effect.perform server.transport) c
  /-- There it has fetched the collections. -/
  fetched : ∀ c, FetchSteps server keys c → c.phase = .idle → TaskPhase.broken ∉ c.tasks →
    Fetched server keys c
  /-- The answers may have arrived in any order. -/
  inAnyOrder : ∀ order : List RequestContext, order.Perm (fetchCalls keys) →
    ∃ c, FetchSteps server keys c ∧ c.phase = .idle ∧ TaskPhase.broken ∉ c.tasks ∧
      c.dispatched = .apiFetchCollections keys :: order.map server.answer
  /-- It is so too when the command is carried out in rounds. -/
  run :
    let r := (Command.fetch keys).run server.transport []
    (r.2 = (fetchCalls keys).map fun call =>
        { method := .get, path := call.actionUrl, body := .empty }) ∧
      server.Ends keys (fetchCalls keys) (.ofConclusion r.1) ∧
      ∀ reason printed, r.1 ≠ .warned reason printed
  /-- That is what the program does, in whichever world the server is asked. -/
  program : ∀ {ν : Type} (network : Http.Network ν) (world : ν) env fileText words options file
      client, read env words = .run options (.fetch keys) → options.load fileText = .ok file →
    Http.Client.new (options.configure file) = .ok client →
    ∀ good : Http.Client × ν → Prop, good (client, world) →
      server.Serves (Http.Client.send network) keys good →
      server.Ends keys (fetchCalls keys) (program network world env fileText words).1

/--
**Fetching is all or nothing.**

Any collections may be wanted, some of them more than once, and the server may answer as it
likes. Each collection that can be fetched is asked for once. If all answers bring data, all
that was wanted is printed, the same in whatever order the answers have arrived. Otherwise
nothing is printed, and the failure that arrived last is told.
-/
theorem fetch_all_or_nothing (server : Server) (keys : List String) : AllOrNothing server keys where
  calls := ⟨nodup_fetchCalls keys, fun _ => mem_collections_fetchCalls⟩
  printed := Dict.get?_ofList_map (fun key => Json.arr (server.items key)) keys
  loaded := fun _ _ _ _ => Server.items_of_answer
  unloaded := fun _ => Server.items_of_fetchCall?_eq_none
  begins := rfl
  rests := fun _ h => canRest_of_steps (settles_perform server.transport) [] h
  fetched := fun _ h => fetched_of_idle h
  inAnyOrder := fun _ h => exists_fetched_inOrder h
  run := by
    have hconcludes : server.Concludes keys (fetchCalls keys)
        ((Command.fetch keys).run server.transport []).1 :=
      concludes_run (server.serves_transport keys) trivial
    exact ⟨snd_run server keys, hconcludes.ends (fetchCall?_of_perm (.refl _)),
      hconcludes.not_warned⟩
  program := by
    intro ν network world env fileText words options file client hread hload hclient good hgood
      hserves
    rw [program_eq_ofConclusion network world hread hload hclient]
    exact (concludes_run hserves hgood).ends (fetchCall?_of_perm (.refl _))

/-- A server with one badge, which lets nobody see the issuers and answers nothing else. -/
def oneBadge : Server := fun path =>
  if path = "/v1/earner/badges" then .ok ⟨200, "[\"gold\"]"⟩
  else if path = "/v1/issuer/issuers" then .ok ⟨403, "forbidden"⟩
  else .error (.unavailable "too late")

/-- The badge is printed if nothing else can be fetched. Of two failures the one that arrives last
is told, which was asked for first. -/
theorem fetch_oneBadge :
    (∃ c, FetchSteps oneBadge ["earner_badges", "drafts", "earner_badges"] c ∧ c.phase = .idle ∧
      Ending.ofConclusion ((Command.fetch ["earner_badges", "drafts", "earner_badges"]).conclusion
        c.dispatcher.state c.audience) = {
          code := 0
          output := "\x7b\n  \"drafts\": [],\n  \"earner_badges\": [\n    \"gold\"\n  ]\n\x7d\n"
          complaint := none }) ∧
    ∃ c, FetchSteps oneBadge ["issuer_issuers", "earner_badges", "earner_collections"] c ∧
      c.phase = .idle ∧
      c.dispatched.getLast? = some (.apiGetDataDidFail
        (RequestContext.get "/v1/issuer/issuers" "issuer_issuers").replacing
        (.status 403 "forbidden")) ∧
      Ending.ofConclusion ((Command.fetch ["issuer_issuers", "earner_badges",
          "earner_collections"]).conclusion c.dispatcher.state c.audience) =
        { code := 1, output := "", complaint := some "403 Error getting data: forbidden" } := by
  constructor
  · have h := fetch_all_or_nothing oneBadge ["earner_badges", "drafts", "earner_badges"]
    obtain ⟨c, hc, hidle, hwhole, hdispatched⟩ := h.inAnyOrder _ (.refl _)
    have hends := (h.fetched c hc hidle hwhole).ends _ (.refl _) hdispatched
    have hjson : Json.parse "[\"gold\"]" = .ok (.arr [.str "gold"]) := rfl
    have hbadges : oneBadge.items "earner_badges" = [.str "gold"] := by
      rw [h.loaded "earner_badges" _ _ _ rfl rfl rfl (by rw [if_neg (by decide)]; exact hjson)]
      rfl
    have hdrafts : oneBadge.items "drafts" = [] := h.unloaded "drafts" rfl
    have hentries : (oneBadge.collections ["earner_badges", "drafts", "earner_badges"]).entries =
        [("drafts", .arr []), ("earner_badges", .arr [.str "gold"])] := by
      simp only [Server.collections, List.map_cons, List.map_nil, hbadges, hdrafts]
      rfl
    have hprinted : (Json.obj [("drafts", .arr []),
        ("earner_badges", .arr [.str "gold"])]).pretty ++ "\n" =
        "\x7b\n  \"drafts\": [],\n  \"earner_badges\": [\n    \"gold\"\n  ]\n\x7d\n" := rfl
    refine ⟨c, hc, hidle, ?_⟩
    rw [hends.eq_of_brings ?_, hentries, hprinted]
    intro call hcall
    obtain rfl : call = (RequestContext.get "/v1/earner/badges" "earner_badges").replacing :=
      List.mem_singleton.mp hcall
    exact ⟨rfl, .inr ⟨_, hjson⟩⟩
  · have h := fetch_all_or_nothing oneBadge
      ["issuer_issuers", "earner_badges", "earner_collections"]
    obtain ⟨c, hc, hidle, hwhole, hdispatched⟩ := h.inAnyOrder _ (List.reverse_perm _)
    have hends := (h.fetched c hc hidle hwhole).ends _ (List.reverse_perm _) hdispatched
    have htold : Server.Complains (oneBadge "/v1/issuer/issuers")
        "403 Error getting data: forbidden" := .refused (by decide)
    exact ⟨c, hc, hidle, by rw [hdispatched]; rfl, hends.eq_of_complains rfl htold⟩

end CommandLine

end OpenBadges
