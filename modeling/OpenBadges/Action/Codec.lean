import OpenBadges.Action

/-!
# Actions in documents

An action in a document is an object with the name of its kind and the fields
that this kind carries.
-/

namespace OpenBadges.Action

/-- Reads an action. Data that is missing differs from data that is `null`. -/
def decode : Decoder Action
  | .obj fs => do
    let field := fun name => Decoder.lookup name fs
    let string := fun name => Decoder.required Decoder.string (field name)
    let form := string "form_id"
    let formType := Decoder.required FormType.decode (field "form_type")
    let context := Decoder.required RequestContext.decode (field "context")
    let json := fun name => Decoder.required Decoder.json (field name)
    let message := Decoder.required Message.decode (field "message")
    let failure := Decoder.required RequestFailure.decode (field "failure")
    match ← string "type" with
    | "FORM_DATA_PATCHED" =>
      return .formDataPatched (← form) (← formType)
        (← Decoder.required FormValues.decode (field "update"))
    | "FORM_SUBMIT" =>
      return .formSubmit (← form) (← formType)
        (← Decoder.required (Decoder.dict Decoder.string) (field "params"))
    | "FORM_RESET" => return .formReset (← form) (← formType)
    | "API_SUBMIT_DATA" =>
      return .apiSubmitData (← Decoder.orDefault none (fun d => (Decoder.json d).map some)
        (field "data")) (← context)
    | "API_GET_DATA" => return .apiGetData (← context)
    | "API_FETCH_COLLECTIONS" =>
      return .apiFetchCollections (← Decoder.required (Decoder.list Decoder.string) (field "keys"))
    | "API_FORM_RESULT_SUCCESS" =>
      return .apiFormResultSuccess (← form) (← context) (← json "result") (← message)
    | "API_FORM_RESULT_FAILURE" => return .apiFormResultFailure (← form) (← message)
    | "API_GET_DATA_DID_LOAD" => return .apiGetDataDidLoad (← context) (← json "body")
    | "API_GET_DATA_DID_FAIL" => return .apiGetDataDidFail (← context) (← failure)
    | "API_SUBMIT_DATA_DID_SUCCEED" => return .apiSubmitDataDidSucceed (← context) (← json "body")
    | "API_SUBMIT_DATA_DID_FAIL" => return .apiSubmitDataDidFail (← context) (← failure)
    | "ACTIVE_ACTION_UPDATED" =>
      return .activeActionUpdated (← string "view_id")
        (← Decoder.required Panel.decode (field "panel"))
    | "ACTIVE_ACTION_CLEARED" => return .activeActionCleared (← string "view_id")
    | "ROUTE_CHANGED" => return .routeChanged (← string "href")
    | "APP_WILL_MOUNT" =>
      return .appWillMount (← Decoder.required Bootstrap.decode (field "bootstrap"))
    | "CLICK_CLOSE_MENU" => return .clickCloseMenu
    | "CLOSE_MODAL" => return .closeModal
    | "OPEN_DIALOG" => return .openDialog (← string "dialog_id")
    | _ => none
  | _ => none

end OpenBadges.Action
