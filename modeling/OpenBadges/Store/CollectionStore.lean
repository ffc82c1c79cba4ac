import OpenBadges.Dict
import OpenBadges.Request.Context
import OpenBadges.Store.FormStore

/-!
# The store of collections

The collections that the server keeps, as far as they are known here. The store
also asks for them: it knows which are being fetched and which paths have been
requested before, so that nothing is fetched twice without need.
-/

namespace OpenBadges

/-!
## What is known about collections

Which field identifies the items of a collection, and how the whole collection
is fetched.
-/

/-- What is known about a collection. -/
structure CollectionSpec where
  /-- The field that identifies its items. -/
  identifyingField : String
  /-- The call that fetches it, if there is one. -/
  fetch : Option RequestContext := none

namespace CollectionSpec

/-- The field that identifies items of collections nothing is known about. -/
def defaultIdentifyingField : String := "id"

/-- A collection that is fetched as a whole by a GET of the path. -/
def fetchedFrom (key identifyingField url : String) : CollectionSpec where
  identifyingField := identifyingField
  fetch := some (RequestContext.get url key).replacing

/-- The collections of the application. Badge instances are listed by badge class, so there is
no one path for all of them. -/
def builtin : Dict CollectionSpec := .ofList [
  ("earner_badges", fetchedFrom "earner_badges" "id" "/v1/earner/badges"),
  ("earner_collections", fetchedFrom "earner_collections" "slug" "/v1/earner/collections"),
  ("issuer_issuers", fetchedFrom "issuer_issuers" "id" "/v1/issuer/issuers"),
  ("issuer_badgeclasses", fetchedFrom "issuer_badgeclasses" "id" "/v1/issuer/all-badges"),
  ("issuer_badgeinstances", { identifyingField := "id" })]

end CollectionSpec

/-! ## The store -/

/-- A set of names. -/
abbrev NameSet := Dict Unit

/-- The collections, and the requests for them. -/
structure CollectionStore where
  /-- What is known about the collections. -/
  specs : Dict CollectionSpec := CollectionSpec.builtin
  /-- The items of each collection that exists. -/
  data : Dict (List Item) := ∅
  /-- The collections that are being fetched. -/
  fetching : NameSet := ∅
  /-- The paths that have been requested, first the oldest. -/
  requestLog : List String := []
  /-- What to show for the last failure. -/
  lastFailure : Option Message := none

namespace CollectionStore

/-! ### Looking -/

/-- The field that identifies the items of a collection. -/
def identifyingField (s : CollectionStore) (key : String) : String :=
  ((s.specs.get? key).map (·.identifyingField)).getD CollectionSpec.defaultIdentifyingField

/-- The items of a collection; one that does not exist has none. -/
def items (s : CollectionStore) (key : String) : List Item := (s.data.get? key).getD []

/-- Whether a collection exists. -/
def hasCollection (s : CollectionStore) (key : String) : Bool := s.data.contains key

/-- Whether all of some collections exist. -/
def hasAll (s : CollectionStore) (keys : List String) : Bool := keys.all s.hasCollection

/-- The first item of a collection that holds a value in a field. -/
def first? (s : CollectionStore) (key field : String) (value : Json) : Option Item :=
  Items.first? field value (s.items key)

/-- Whether a collection is being fetched. -/
def isFetching (s : CollectionStore) (key : String) : Bool := s.fetching.contains key

/-- Whether a path has been requested. -/
def hasRequested (s : CollectionStore) (path : String) : Bool := s.requestLog.contains path

/-! ### Changing collections -/

/-- Sets the items of a collection, which exists from now on. -/
def setItems (s : CollectionStore) (key : String) (items : List Item) : CollectionStore :=
  { s with data := s.data.insert key items }

/-- The items of a collection that pass a filter. Asking makes the collection exist. -/
def filter (s : CollectionStore) (key field : String) (f : FilterValue) :
    List Item × CollectionStore :=
  (f.select field (s.items key), s.setItems key (s.items key))

def addItem (s : CollectionStore) (key : String) (item : Item) (isNew : Bool) : CollectionStore :=
  s.setItems key (Items.add (s.identifyingField key) isNew (s.items key) item)

/-- Stores an item in the place of the one with its identity, or else as the last. -/
def replaceItem (s : CollectionStore) (key : String) (item : Item) : CollectionStore :=
  s.setItems key (Items.replace (s.identifyingField key) (s.items key) item)

/-- Takes out the item with the identity of a given one. -/
def removeItem? (s : CollectionStore) (key : String) (item : Item) :
    Option (Item × CollectionStore) :=
  (Items.remove? (s.identifyingField key) (s.items key) item).map fun (removed, rest) =>
    (removed, s.setItems key rest)

/-- Sets one field of the first item that holds a value in another field. -/
def setField? (s : CollectionStore) (key searchKey : String) (searchValue : Json)
    (updateKey : String) (updateValue : Json) : Option (Item × CollectionStore) :=
  (Items.setField? searchKey searchValue updateKey updateValue (s.items key)).map
    fun (changed, items) => (changed, s.setItems key items)

/-- The items that the body of a response brings. -/
def bodyItems : Json → List Item
  | .arr items => items
  | .null => []
  | item => [item]

/-- Takes in the body of a response. -/
def load (s : CollectionStore) (context : RequestContext) (body : Json) : CollectionStore :=
  let key := context.collection
  let old := if context.replacesCollection then [] else s.items key
  s.setItems key (Items.addAll (s.identifyingField key) old (bodyItems body))

/-- Takes in the first content of some collections. -/
def loadAll (s : CollectionStore) (initial : List (String × List Item)) : CollectionStore :=
  initial.foldl (fun s (key, items) =>
    s.setItems key (Items.addAll (s.identifyingField key) [] items)) s

/-! ### Requests -/

def getData (s : CollectionStore) (context : RequestContext) : Effect × CollectionStore :=
  (.getData context, { s with
    fetching := s.fetching.insert context.collection ()
    requestLog := s.requestLog ++ [context.actionUrl] })

/-- Asks for whole collections, except those being fetched and those without a call for it. -/
def fetchCollections (s : CollectionStore) : List String → List Effect × CollectionStore
  | [] => ([], s)
  | key :: keys =>
    match (s.specs.get? key).bind (·.fetch) with
    | none => s.fetchCollections keys
    | some context =>
      if s.isFetching key then s.fetchCollections keys
      else
        let (e, s) := s.getData context
        let (es, s) := s.fetchCollections keys
        (e :: es, s)

/-- Notes that a collection is not being fetched any more. -/
def fetched (s : CollectionStore) (key : String) : CollectionStore :=
  { s with fetching := s.fetching.erase key }

/-- Notes a failure, and its outcome. -/
def fail (s : CollectionStore) (m : Message) : CollectionStore × Outcome Effect :=
  ({ s with lastFailure := some m }, Outcome.change.emit Event.apiStoreFailure)

/-! ### Actions -/

/-- The outcome of an action that changed a collection. -/
def updated (key : String) : Outcome Effect :=
  Outcome.change.emit Event.dataUpdated |>.emit (Event.dataUpdatedFor key)

/-- The submission of a form, if the last action was to submit just this form and that was accepted. -/
def submission? (registry : FormRegistry) (forms : FormStore) (form : FormId)
    (formType : FormType) (params : UrlParams) : Option Submission := do
  guard (forms.acceptedSubmit = some form)
  let r ← forms.get? form
  let config ← registry formType
  let context ← (registry.requestContext formType params form).toOption
  return ⟨form, r.fields, r.state.values, context, config.successMessage⟩

/-- Takes in what the submission of a form came to. -/
def onFormResult (s : CollectionStore) (context : RequestContext) (result : Json) :
    CollectionStore × Outcome Effect :=
  let key := context.collection
  match context.method with
  | .delete =>
    -- the answer to a DELETE, if there is any, names the item that is gone
    match s.removeItem? key result with
    | some (_, s) => (s, updated key)
    | none => (s, .unchanged)
  | .put =>
    if result.isNull then (s, .unchanged) else (s.replaceItem key result, updated key)
  | _ =>
    if result.isNull then (s, .unchanged) else (s.addItem key result false, updated key)

/-- The outcome of data that was sent. -/
def sent (context : RequestContext) : Outcome Effect :=
  match context.formId with
  | some form => (updated context.collection).emit (Event.formDataUpdated form)
  | none => updated context.collection

/-- Takes in the answer to data that was sent. -/
def onDataSent (s : CollectionStore) (context : RequestContext) (body : Json) :
    CollectionStore × Outcome Effect :=
  match context.partialUpdate with
  | none => (s, sent context)
  | some u =>
    match s.setField? context.collection u.searchKey u.searchValue u.updateKey
        (u.updateValue.getD body) with
    | some (_, s) => (s, sent context)
    | none => (s, Outcome.unchanged.emit Event.apiStoreFailure)

/-- What an action does to the collections, given the forms. -/
def handle (registry : FormRegistry) (forms : FormStore) (s : CollectionStore) :
    Action → CollectionStore × Outcome Effect
  | .appWillMount bootstrap =>
    (s.loadAll bootstrap.initialData.toList,
      Outcome.change.emit Event.dataUpdated |>.emit Event.initialDataLoaded)
  | .formSubmit form formType params =>
    match submission? registry forms form formType params with
    | some submission => (s, .ofEffects [.postForm submission])
    | none => (s, .unchanged)
  | .apiSubmitData data context => (s, .ofEffects [.requestData data context])
  | .apiGetData context =>
    if s.hasRequested context.actionUrl && !context.replacesCollection then (s, .unchanged)
    else
      let (e, s) := s.getData context
      (s, .ofEffects [e])
  | .apiFetchCollections keys =>
    let (es, s) := s.fetchCollections keys
    (s, .ofEffects es)
  | .apiGetDataDidLoad context body =>
    ((s.fetched context.collection).load context body, updated context.collection)
  | .apiGetDataDidFail context failure =>
    (s.fetched context.collection).fail (failure.message "getting data")
  | .apiFormResultSuccess _ context result _ => s.onFormResult context result
  | .apiSubmitDataDidSucceed context body => s.onDataSent context body
  | .apiSubmitDataDidFail _ failure => s.fail (failure.message "submitting data")
  | _ => (s, .unchanged)

end CollectionStore

end OpenBadges
