import OpenBadges.Action
import OpenBadges.Event
import OpenBadges.Forms.Registry

/-!
# The store of forms

Every form has a record, made from the configuration of its type when the form is
first heard of. A form is ready for edits until it is submitted; then it waits,
and in the end it is complete, or ready again with a message. Resetting a form
makes it ready from any state, with the values that it started from.
-/

namespace OpenBadges

/-- Where a form is in its life. -/
inductive FormPhase where
  /-- It can be edited and submitted. -/
  | ready
  /-- It has been submitted and waits for the answer. -/
  | waiting
  /-- Its submission has worked. -/
  | complete
deriving DecidableEq, Repr

namespace FormPhase

/-- The phase as documents spell it. -/
def text : FormPhase → String
  | ready => "ready"
  | waiting => "waiting"
  | complete => "complete"

/-- The phase of this spelling. -/
def ofText? : String → Option FormPhase
  | "ready" => some ready
  | "waiting" => some waiting
  | "complete" => some complete
  | _ => none

def decode : Decoder FormPhase := Decoder.variant ofText?

def encode (p : FormPhase) : Json := .str p.text

end FormPhase

/-- What a form holds, and where it is in its life. -/
structure FormState where
  /-- The values of its fields. -/
  values : FormValues
  /-- Where it is in its life. -/
  phase : FormPhase := .ready
  message : Option Message := none
  /-- What its submission came to. -/
  result : Option Json := none

/-- Writes what a form holds. -/
def FormState.encode (s : FormState) : Json := .ofFields [
  ("values", s.values.encode),
  ("action_state", s.phase.encode),
  ("message", .ofOption Message.encode s.message),
  ("result", .ofOption id s.result)]

/-- A form. -/
structure FormRecord where
  fields : List FieldSpec
  state : FormState
  /-- The values it started from. -/
  defaults : FormValues

namespace FormRecord

def encode (r : FormRecord) : Json := .ofFields [
  ("fields_meta", .arr (r.fields.map FieldSpec.encode)),
  ("form_state", r.state.encode),
  ("default_values", r.defaults.encode)]

/-- A form that nothing has happened to. -/
def fresh (config : FormConfig) : FormRecord where
  fields := config.fields
  state := { values := config.defaults }
  defaults := config.defaults

/-- The form with other values in some of its fields. -/
def patched (r : FormRecord) (update : FormValues) : FormRecord :=
  { r with state := { r.state with values := r.state.values.overlay update } }

def restarted (r : FormRecord) : FormRecord := { r with state := { values := r.defaults } }

def withMessage (r : FormRecord) (m : Message) : FormRecord :=
  { r with state := { r.state with message := some m } }

/-- The form when it has been submitted. -/
def submitted (r : FormRecord) : FormRecord :=
  { r with state := { r.state with phase := .waiting, message := none } }

/-- The form when its submission has worked. -/
def completed (r : FormRecord) (result : Json) (m : Message) : FormRecord :=
  { r with state := { r.state with phase := .complete, message := some m, result := some result } }

/-- The form when its submission has failed. -/
def refused (r : FormRecord) (m : Message) : FormRecord :=
  { r with state := { r.state with phase := .ready, message := some m } }

@[simp] theorem phase_fresh (config : FormConfig) : (fresh config).state.phase = .ready := rfl

@[simp] theorem phase_patched (r : FormRecord) (update : FormValues) :
    (r.patched update).state.phase = r.state.phase := rfl

@[simp] theorem phase_restarted (r : FormRecord) : r.restarted.state.phase = .ready := rfl

@[simp] theorem phase_withMessage (r : FormRecord) (m : Message) :
    (r.withMessage m).state.phase = r.state.phase := rfl

@[simp] theorem phase_submitted (r : FormRecord) : r.submitted.state.phase = .waiting := rfl

@[simp] theorem phase_completed (r : FormRecord) (result : Json) (m : Message) :
    (r.completed result m).state.phase = .complete := rfl

@[simp] theorem phase_refused (r : FormRecord) (m : Message) :
    (r.refused m).state.phase = .ready := rfl

end FormRecord

/-- All forms. -/
structure FormStore where
  /-- The record of each form. -/
  records : Dict FormRecord := ∅
  /-- The form whose submission was accepted by the last action, if that was what it was about. -/
  acceptedSubmit : Option FormId := none

namespace FormStore

def get? (s : FormStore) (form : FormId) : Option FormRecord := s.records.get? form

/-- What a field of a form holds. -/
def fieldValue? (s : FormStore) (form : FormId) (field : String) : Option FieldValue :=
  (s.get? form).bind fun r => r.state.values.get? field

/-- Puts a record in the place of the one before. -/
def put (s : FormStore) (form : FormId) (r : FormRecord) : FormStore :=
  { s with records := s.records.insert form r }

/-- The record of a form, or the one that it would start with. -/
def getOrFresh (s : FormStore) (form : FormId) (config : FormConfig) : FormRecord :=
  (s.get? form).getD (.fresh config)

/-- Makes sure that a form has a record. -/
def ensure (s : FormStore) (form : FormId) (config : FormConfig) : FormStore :=
  s.put form (s.getOrFresh form config)

/-- Starts over with a form, if it has a record. -/
def reset? (s : FormStore) (form : FormId) : Option FormStore :=
  (s.get? form).map fun r => s.put form r.restarted

/-- Edits a form, if it has a record. -/
def patch? (s : FormStore) (form : FormId) (update : FormValues) : Option FormStore :=
  (s.get? form).map fun r => s.put form (r.patched update)

/-- The outcome of an action that changed a form. -/
def updated (form : FormId) : Outcome Effect := Outcome.change.emit (Event.formDataUpdated form)

/-- A form with a new record, and the outcome of that. -/
def store (s : FormStore) (form : FormId) (r : FormRecord) : FormStore × Outcome Effect :=
  (s.put form r, updated form)

/-- Edits a form that is ready. -/
def onPatch (s : FormStore) (form : FormId) (config : FormConfig) (update : FormValues) :
    FormStore × Outcome Effect :=
  let r := s.getOrFresh form config
  if r.state.phase = .ready then s.store form (r.patched update)
  else (s, .unchanged)

/-- Submits a form that is ready, unless the path of its call cannot be filled in. -/
def onSubmit (s : FormStore) (form : FormId) (config : FormConfig)
    (context : Except FormError RequestContext) : FormStore × Outcome Effect :=
  let r := s.getOrFresh form config
  if r.state.phase = .ready then
    match context with
    | .error e => s.store form (r.withMessage ⟨.danger, e.message⟩)
    | .ok _ => { s with acceptedSubmit := some form }.store form r.submitted
  else (s, .unchanged)

/-- Settles a form that waits for its answer. -/
def settle (s : FormStore) (form : FormId) (answer : FormRecord → FormRecord) :
    FormStore × Outcome Effect :=
  match s.get? form with
  | some r => if r.state.phase = .waiting then s.store form (answer r) else (s, .unchanged)
  | none => (s, .unchanged)

/-- Shows a failure with a form, which no longer waits. -/
def onFailure (s : FormStore) (form : FormId) (m : Message) : FormStore × Outcome Effect :=
  match s.get? form with
  | some r =>
    s.store form (if r.state.phase = .waiting then r.refused m else r.withMessage m)
  | none => (s, .unchanged)

/-- What an action does to the forms, apart from withdrawing the last accepted submission. -/
def react (registry : FormRegistry) (s : FormStore) : Action → FormStore × Outcome Effect
  | .formDataPatched form formType update =>
    match registry formType with
    | none => (s, .unchanged)
    | some config => s.onPatch form config update
  | .formSubmit form formType params =>
    match registry formType with
    | none => (s, .unchanged)
    | some config => s.onSubmit form config (registry.requestContext formType params form)
  | .formReset form formType =>
    match registry formType with
    | none => (s, .unchanged)
    | some config => s.store form (s.getOrFresh form config).restarted
  | .apiFormResultSuccess form _ result message => s.settle form (·.completed result message)
  | .apiFormResultFailure form message => s.settle form (·.refused message)
  | .apiSubmitDataDidFail context failure =>
    match context.formId with
    | none => (s, .unchanged)
    | some form => s.onFailure form (failure.message "submitting data")
  | _ => (s, .unchanged)

/-- What an action does to the forms. -/
def handle (registry : FormRegistry) (s : FormStore) (a : Action) : FormStore × Outcome Effect :=
  { s with acceptedSubmit := none }.react registry a

end FormStore

end OpenBadges
