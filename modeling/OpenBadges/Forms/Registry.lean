import OpenBadges.Dict
import OpenBadges.Forms.Schema
import OpenBadges.Text.Segments

/-!
# The registry of forms

Which form types there are configurations for, and how the call that submits a
form comes out of its configuration and the parameters of its path.
-/

namespace OpenBadges

/-!
## Paths with parameters

A template is a path in which a segment that starts with a colon stands for a
parameter. Filling it puts the value in place of the segment, as it is: a value
may contain slashes or colons of its own, and is not filled again.
-/

/-- Values for the parameters of a path, by name. -/
abbrev UrlParams := Dict String

namespace UrlTemplate

open Text

/-- The parameter that a segment stands for, if it stands for one. -/
def parameter? : List Char → Option String
  | ':' :: name => some (String.ofList name)
  | _ => none

/-- One segment with its parameter filled in, or the name of a parameter that has no value. -/
def fillSegment (params : UrlParams) (segment : List Char) : Except String (List Char) :=
  match parameter? segment with
  | none => .ok segment
  | some name =>
    match params.get? name with
    | some value => .ok value.toList
    | none => .error name

/-- Fills one segment after another; the first parameter without a value is reported. -/
def fillSegments (params : UrlParams) : List (List Char) → Except String (List (List Char))
  | [] => .ok []
  | s :: ss => do return (← fillSegment params s) :: (← fillSegments params ss)

/-- The path of a template, or the first parameter that has no value. -/
def fill (template : String) (params : UrlParams) : Except String String := do
  let segments ← fillSegments params (segments '/' template.toList)
  return String.ofList (joined '/' segments)

end UrlTemplate

/-! ## The registry -/

/-- Why a form cannot be submitted. -/
inductive FormError where
  /-- The path needs a parameter that has no value. -/
  | missingParameter (name template : String)
  /-- There is no configuration for the form type. -/
  | unknownForm (formType : FormType)
deriving DecidableEq, Repr

def FormError.message : FormError → String
  | missingParameter name template => s!"missing url parameter `{name}` for `{template}`"
  | unknownForm formType => s!"no form configuration registered for {formType.title}"

/-- The configuration of each form type that has one. -/
abbrev FormRegistry := FormType → Option FormConfig

namespace FormRegistry

/-- The registry without any form. -/
def empty : FormRegistry := fun _ => none

/-- Registers a configuration for its form type, in place of the one before. -/
def register (r : FormRegistry) (c : FormConfig) : FormRegistry :=
  fun t => if t = c.formType then some c else r t

/-- The path of a template with its parameters filled in. -/
def fillUrl (template : String) (params : UrlParams) : Except FormError String :=
  (UrlTemplate.fill template params).mapError fun name => .missingParameter name template

/-- The call that submits a form of some type. -/
def requestContext (r : FormRegistry) (t : FormType) (params : UrlParams) (form : FormId) :
    Except FormError RequestContext :=
  match r t with
  | none => .error (.unknownForm t)
  | some config => do
    let url ← fillUrl config.api.actionUrl params
    return {
      actionUrl := url
      method := config.api.method
      successfulStatuses := config.api.successfulStatuses
      collection := config.api.collection
      formId := some form }

end FormRegistry

end OpenBadges
