import OpenBadges.Action
import OpenBadges.Flow.ActionLoop
import OpenBadges.Transport.Request

/-!
# From effects to actions

An effect makes one request, and what comes back makes one action. A response
counts as success if the context of the effect says so about its status and if
its body is a JSON value or blank.
-/

namespace OpenBadges

/-- The part of a form for one field, if the field has something to submit. -/
def FieldSpec.part? (values : FormValues) (f : FieldSpec) : Option FormPart :=
  (values.get? f.name).bind fun value =>
    if f.kind.isFile then
      match value with
      | .file upload => some (.file f.name (f.filename.getD upload.filename) upload.bytes)
      | _ => none
    else value.formText.map (.text f.name)

/-- The parts of a form, in the order of its fields. -/
def formParts (fields : List FieldSpec) (values : FormValues) : List FormPart :=
  fields.filterMap (·.part? values)

/-- What a response comes to. -/
def RequestContext.judge (c : RequestContext) :
    Except TransportError Response → Except RequestFailure Json
  | .error e => .error (.transport e.message)
  | .ok r =>
    if c.isSuccess r.status then
      match r.json with
      | .ok body => .ok body
      | .error e => .error (.transport s!"invalid response body: {e.message}")
    else .error (.status r.status r.body)

namespace Effect

/-- What the effect is about. -/
def context : Effect → RequestContext
  | getData context => context
  | postForm submission => submission.context
  | requestData _ context => context

/-- The request that the effect makes. -/
def request : Effect → Request
  | getData context => { method := .get, path := context.actionUrl }
  | postForm s => {
      method := s.context.method
      path := s.context.actionUrl
      body := .multipart (formParts s.fields s.values) }
  | requestData data context => {
      method := context.method
      path := context.actionUrl
      body := match data with
        | some value => .json value
        | none => .empty }

/-- The action that the effect comes to. -/
def answer : Effect → Except RequestFailure Json → Action
  | getData context, .ok body => .apiGetDataDidLoad context body
  | getData context, .error failure => .apiGetDataDidFail context failure
  | postForm s, .ok result =>
    .apiFormResultSuccess s.form s.context result ⟨.success, s.successMessage⟩
  | postForm s, .error failure => .apiFormResultFailure s.form (failure.message "submitting form")
  | requestData _ context, .ok body => .apiSubmitDataDidSucceed context body
  | requestData _ context, .error failure => .apiSubmitDataDidFail context failure

/-- Makes the request of an effect. -/
def perform {ω : Type} (send : Transport ω) : Performer ω Effect Action := fun world e =>
  let (response, world) := send world e.request
  (e.answer (e.context.judge response), world)

end Effect

end OpenBadges
