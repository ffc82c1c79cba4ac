import OpenBadges.Flow.Outcome

/-!
# Events of the stores
-/

namespace OpenBadges.Event

/-- Some collection may have changed. -/
def dataUpdated : EventName := "DATA_UPDATED"

/-- This collection may have changed. -/
def dataUpdatedFor (collection : String) : EventName := dataUpdated.about collection

/-- This form may have changed. -/
def formDataUpdated (form : String) : EventName := EventName.about "FORM_DATA_UPDATED" form

def apiStoreFailure : EventName := "API_STORE_FAILURE"

/-- A region of the screen shows another panel. -/
def activeActionUpdated : EventName := "ACTIVE_ACTION_UPDATED"

/-- The application is at another place. -/
def routeChanged : EventName := "ROUTE_CHANGED"

/-- What the page brought along is in place. -/
def initialDataLoaded : EventName := "INITIAL_DATA_LOADED"

/-- The user clicked beside an open menu. -/
def uncaughtDocumentClick : EventName := "UNCAUGHT_DOCUMENT_CLICK"

def openDialog : EventName := "OPEN_DIALOG"

def closeModal : EventName := "CLOSE_MODAL"

/-! ## Names

Views listen for an event under its name, so the names of two collections differ, and so do
those of two forms, and those of a collection and a form.
-/

theorem dataUpdatedFor_eq (collection : String) :
    dataUpdatedFor collection = "DATA_UPDATED_" ++ collection := rfl

theorem formDataUpdated_eq (form : String) :
    formDataUpdated form = "FORM_DATA_UPDATED_" ++ form := rfl

theorem dataUpdatedFor_inj {c c' : String} : dataUpdatedFor c = dataUpdatedFor c' ↔ c = c' :=
  EventName.about_inj

theorem formDataUpdated_inj {f f' : String} : formDataUpdated f = formDataUpdated f' ↔ f = f' :=
  EventName.about_inj

theorem head?_dataUpdatedFor (collection : String) :
    (dataUpdatedFor collection).toList.head? = some 'D' := by
  rw [dataUpdatedFor_eq, String.toList_append]
  rfl

theorem head?_formDataUpdated (form : String) :
    (formDataUpdated form).toList.head? = some 'F' := by
  rw [formDataUpdated_eq, String.toList_append]
  rfl

/-- No event is about a collection and about a form. -/
theorem dataUpdatedFor_ne_formDataUpdated (collection form : String) :
    dataUpdatedFor collection ≠ formDataUpdated form := by
  intro h
  have hheads := congrArg (·.toList.head?) h
  simp [head?_dataUpdatedFor, head?_formDataUpdated] at hheads

end OpenBadges.Event
