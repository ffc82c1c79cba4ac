import OpenBadges.Forms.Registry
import OpenBadges.Forms.Schema
import OpenBadges.Text.Case
import OpenBadges.Text.Segments
import OpenBadges.View.Bootstrap
import OpenBadges.View.Message
import OpenBadges.View.Panel

/-!
# Actions and effects

Everything that can happen to the application, what it is called, and what the
stores ask to have done about it.
-/

namespace OpenBadges.ActionName

/-!
## Names of actions

An action is called by words written together, each but perhaps the first with a
capital. Logs and contracts call it by the same words in capitals with underscores
between them. The words before the first verb are its category: what the action
is about, as opposed to what happens to it.
-/

open Text

/-- The words of a name: a capital that is not the first character starts a new one. -/
def words : List Char → List (List Char)
  | [] => []
  | c :: cs =>
    match words cs, cs with
    | w :: ws, d :: _ => if isUpper d then [c] :: w :: ws else (c :: w) :: ws
    | _, _ => [[c]]

/-- The words in lower case with underscores between them. -/
def snake (name : List Char) : List Char := joined '_' ((words name).map lowercase)

/-- The words in capitals with underscores between them. -/
def screaming (name : List Char) : List Char := uppercase (snake name)

/-- The words that end the subject of a name. -/
def verbs : List (List Char) :=
  ["Get", "Fetch", "Submit", "Reset", "Patched", "Updated", "Cleared", "Changed", "Will",
    "Open", "Close", "Click", "Result", "Did"].map String.toList

/-- Whether a word is a verb. -/
def isVerb (word : List Char) : Bool := verbs.contains word

/-- The words before the first verb, if there is a verb and it is not the first word. -/
def category? (name : List Char) : Option (List Char) :=
  match words name with
  | first :: rest =>
    if isVerb first || !rest.any isVerb then none
    else some (snake (first :: rest.takeWhile fun w => !isVerb w).flatten)
  | [] => none

end OpenBadges.ActionName

namespace OpenBadges

/-!
## Actions

What the user does, and what comes of the requests that this leads to.
-/

/-- Something that happens to the application. -/
inductive Action where
  /-- The user edited some fields of a form. -/
  | formDataPatched (form : FormId) (formType : FormType) (update : FormValues)
  /-- The user submitted a form. -/
  | formSubmit (form : FormId) (formType : FormType) (params : UrlParams)
  /-- The user wants to start over with a form. -/
  | formReset (form : FormId) (formType : FormType)
  /-- Send data to the server. -/
  | apiSubmitData (data : Option Json) (context : RequestContext)
  /-- Get data from the server. -/
  | apiGetData (context : RequestContext)
  /-- Get whole collections from the server. -/
  | apiFetchCollections (keys : List String)
  | apiFormResultSuccess (form : FormId) (context : RequestContext) (result : Json)
      (message : Message)
  /-- A form could not be submitted. -/
  | apiFormResultFailure (form : FormId) (message : Message)
  | apiGetDataDidLoad (context : RequestContext) (body : Json)
  | apiGetDataDidFail (context : RequestContext) (failure : RequestFailure)
  | apiSubmitDataDidSucceed (context : RequestContext) (body : Json)
  /-- Data could not be sent. -/
  | apiSubmitDataDidFail (context : RequestContext) (failure : RequestFailure)
  /-- A region of the screen shows a panel. -/
  | activeActionUpdated (view : String) (panel : Panel)
  /-- A region of the screen shows no panel. -/
  | activeActionCleared (view : String)
  /-- The application is at another place. -/
  | routeChanged (href : String)
  | appWillMount (bootstrap : Bootstrap)
  /-- The user clicked beside an open menu. -/
  | clickCloseMenu
  /-- The open dialog closes. -/
  | closeModal
  | openDialog (dialog : String)

namespace Action

/-- What kind of action it is, as words written together. -/
def title : Action → String
  | formDataPatched .. => "FormDataPatched"
  | formSubmit .. => "FormSubmit"
  | formReset .. => "FormReset"
  | apiSubmitData .. => "ApiSubmitData"
  | apiGetData .. => "ApiGetData"
  | apiFetchCollections .. => "ApiFetchCollections"
  | apiFormResultSuccess .. => "ApiFormResultSuccess"
  | apiFormResultFailure .. => "ApiFormResultFailure"
  | apiGetDataDidLoad .. => "ApiGetDataDidLoad"
  | apiGetDataDidFail .. => "ApiGetDataDidFail"
  | apiSubmitDataDidSucceed .. => "ApiSubmitDataDidSucceed"
  | apiSubmitDataDidFail .. => "ApiSubmitDataDidFail"
  | activeActionUpdated .. => "ActiveActionUpdated"
  | activeActionCleared .. => "ActiveActionCleared"
  | routeChanged .. => "RouteChanged"
  | appWillMount .. => "AppWillMount"
  | clickCloseMenu => "ClickCloseMenu"
  | closeModal => "CloseModal"
  | openDialog .. => "OpenDialog"

/-- The name of the kind in contracts and logs. -/
def name (a : Action) : String := String.ofList (ActionName.screaming a.title.toList)

/-- What the action is about. Editing a form has its category by decree, since the words before
the verb would say form data. -/
def category (a : Action) : Option String :=
  match a with
  | formDataPatched .. => some "form"
  | _ => (ActionName.category? a.title.toList).map String.ofList

end Action

/-!
## Effects

What a store asks to have done: each effect is one request, and comes back as an
action.
-/

/-- A form on its way to the server. -/
structure Submission where
  form : FormId
  fields : List FieldSpec
  values : FormValues
  /-- The call that submits it. -/
  context : RequestContext
  /-- What to say when it has worked. -/
  successMessage : String

/-- A request to be made. -/
inductive Effect where
  | getData (context : RequestContext)
  | postForm (submission : Submission)
  /-- Send data, if there is any. -/
  | requestData (data : Option Json) (context : RequestContext)

def Effect.encode : Effect → Json
  | getData context => .ofFields [("kind", .str "getData"), ("context", context.encode)]
  | postForm s => .ofFields [
    ("kind", .str "postForm"),
    ("form_id", .str s.form),
    ("fields", .arr (s.fields.map FieldSpec.encode)),
    ("values", s.values.encode),
    ("context", s.context.encode),
    ("success_message", .str s.successMessage)]
  | requestData data context => .ofFields <|
    [("kind", .str "requestData"), ("context", context.encode)] ++
      (data.map fun v => ("data", v)).toList

end OpenBadges
