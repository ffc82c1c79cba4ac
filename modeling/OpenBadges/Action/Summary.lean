import OpenBadges.Action
import OpenBadges.Flow.Report
import OpenBadges.Json.Printer
import OpenBadges.Text.Quoted

/-!
# Actions in logs

A log shows an action by what it carries. Actions that carry a lot are cut down
to what helps to find them again.
-/

namespace OpenBadges

namespace Sketch

def list {α : Type} (item : α → String) (as : List α) : String :=
  "[" ++ ", ".intercalate (as.map item) ++ "]"

/-- Keys and values between braces. -/
def entries (es : List (String × String)) : String :=
  "\x7b" ++ ", ".intercalate (es.map fun (k, v) => Text.quote k ++ ": " ++ v) ++ "\x7d"

def record (name : String) (parts : List (String × String)) : String :=
  name ++ " \x7b " ++ ", ".intercalate (parts.map fun (k, v) => k ++ ": " ++ v) ++ " \x7d"

def wrapped (name part : String) : String := name ++ "(" ++ part ++ ")"

/-- Something that may be missing. -/
def option {α : Type} (some : α → String) : Option α → String
  | none => "None"
  | .some a => wrapped "Some" (some a)

def bool (b : Bool) : String := if b then "true" else "false"

mutual

/-- A JSON value, each part with its kind. -/
def json : Json → String
  | .null => "Null"
  | .bool b => wrapped "Bool" (bool b)
  | .num n => wrapped "Number" (Json.numberText n)
  | .str s => wrapped "String" (Text.quote s)
  | .arr items => "Array [" ++ ", ".intercalate (jsonItems items) ++ "]"
  | .obj fields => "Object \x7b" ++ ", ".intercalate (jsonFields fields) ++ "\x7d"

def jsonItems : List Json → List String
  | [] => []
  | v :: vs => json v :: jsonItems vs

def jsonFields : List (String × Json) → List String
  | [] => []
  | (k, v) :: fs => (Text.quote k ++ ": " ++ json v) :: jsonFields fs

end

def method : Method → String
  | .get => "Get"
  | .post => "Post"
  | .put => "Put"
  | .delete => "Delete"

def partialUpdate (u : PartialUpdate) : String := record "PartialUpdate" [
  ("search_key", Text.quote u.searchKey),
  ("search_value", json u.searchValue),
  ("update_key", Text.quote u.updateKey),
  ("update_value", option json u.updateValue)]

def context (c : RequestContext) : String := record "RequestContext" [
  ("action_url", Text.quote c.actionUrl),
  ("method", method c.method),
  ("successful_http_status", list (fun s => toString s.toNat) c.successfulStatuses),
  ("api_collection_key", Text.quote c.collection),
  ("replace_collection", bool c.replacesCollection),
  ("form_id", option Text.quote c.formId),
  ("partial_update", option partialUpdate c.partialUpdate)]

def message (m : Message) : String :=
  let kind := match m.kind with
    | .success => "Success"
    | .info => "Info"
    | .danger => "Danger"
  record "Message" [("kind", kind), ("content", Text.quote m.content)]

def failure : RequestFailure → String
  | .transport reason => wrapped "Transport" (Text.quote reason)
  | .status code body => record "Status" [
    ("status", toString code.toNat),
    ("body", Text.quote body)]

def panel : Panel → String
  | .detailView item => record "DetailView" [("item", json item)]
  | .createForm formType => record "CreateForm" [("form_type", formType.title)]
  | .editForm formType item => record "EditForm" [
    ("form_type", formType.title),
    ("item", json item)]

end Sketch

namespace Action

/-- How many items the body of a response brings. -/
def bodySize : Json → Nat
  | .arr items => items.length
  | _ => 1

/-- What a log shows of the parts of an action. -/
def parts : Action → List (String × String)
  | formDataPatched form _ update => [
    ("form_id", Text.quote form), ("fields", toString update.size)]
  | formSubmit form formType params => [
    ("form_id", Text.quote form), ("form_type", formType.title),
    ("params", Sketch.entries (params.toList.map fun (k, v) => (k, Text.quote v)))]
  | formReset form formType => [("form_id", Text.quote form), ("form_type", formType.title)]
  | apiSubmitData data context => [
    ("data", Sketch.option Sketch.json data), ("context", Sketch.context context)]
  | apiGetData context => [("url", Text.quote context.actionUrl)]
  | apiFetchCollections keys => [("keys", Sketch.list Text.quote keys)]
  | apiFormResultSuccess form _ _ _ => [("form_id", Text.quote form)]
  | apiFormResultFailure form message => [
    ("form_id", Text.quote form), ("message", Sketch.message message)]
  | apiGetDataDidLoad context body => [
    ("collection", Text.quote context.collection), ("items", toString (bodySize body))]
  | apiGetDataDidFail context failure => [
    ("context", Sketch.context context), ("failure", Sketch.failure failure)]
  | apiSubmitDataDidSucceed context _ => [("collection", Text.quote context.collection)]
  | apiSubmitDataDidFail context failure => [
    ("context", Sketch.context context), ("failure", Sketch.failure failure)]
  | activeActionUpdated view panel => [
    ("view_id", Text.quote view), ("panel", Sketch.panel panel)]
  | activeActionCleared view => [("view_id", Text.quote view)]
  | routeChanged href => [("href", Text.quote href)]
  | appWillMount bootstrap => [("collections", toString bootstrap.initialData.size)]
  | clickCloseMenu => []
  | closeModal => []
  | openDialog dialog => [("dialog_id", Text.quote dialog)]

/-- What a log shows of an action. -/
def summary (a : Action) : String :=
  if a.parts.isEmpty then a.title else Sketch.record a.title a.parts

/-- The label of an action in a log. -/
def label (a : Action) : ActionLabel := ⟨a.name, a.category, a.summary⟩

end Action

end OpenBadges
