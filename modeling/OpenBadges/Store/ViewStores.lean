import OpenBadges.Action
import OpenBadges.Event

/-!
# The stores behind the screen

Panels, the place the application is at, the user, and the menus with the open
dialog. None of them makes requests. The menus depend on the user, who has to be
known when the page has loaded.
-/

namespace OpenBadges

/-! ## Panels -/

/-- The panel of each region of the screen that shows one. -/
abbrev PanelStore := Dict Panel

/-- What an action does to the panels. -/
def PanelStore.handle (s : PanelStore) : Action → PanelStore × Outcome Effect
  | .activeActionUpdated view panel =>
    (s.insert view panel, Outcome.change.emit Event.activeActionUpdated)
  | .activeActionCleared view => (s.erase view, Outcome.change.emit Event.activeActionUpdated)
  | _ => (s, .unchanged)

/-! ## The route -/

/-- The place the application is at, and the one before. -/
structure Route where
  current : Option String := none
  previous : Option String := none
deriving DecidableEq, Repr

/-- The route after moving on to another place. -/
def Route.moveTo (r : Route) (href : String) : Route := ⟨some href, r.current⟩

/-- What an action does to the route. -/
def Route.handle (r : Route) : Action → Route × Outcome Effect
  | .routeChanged href => (r.moveTo href, Outcome.change.emit Event.routeChanged)
  | _ => (r, .unchanged)

/-! ## The user -/

/-- The user, if somebody has signed in. -/
abbrev UserStore := Option UserProfile

namespace UserStore

/-- Whether somebody has signed in. -/
def isAuthenticated (s : UserStore) : Bool := s.isSome

/-- Whether the user belongs to the staff. -/
def isStaff (s : UserStore) : Bool := s.any (·.isStaff)

/-- What an action does to the user. -/
def handle (s : UserStore) : Action → UserStore × Outcome Effect
  | .appWillMount bootstrap => (bootstrap.user, .change)
  | _ => (s, .unchanged)

end UserStore

/-! ## Menus -/

/-- The menus and the open dialog. -/
structure MenuStore where
  menus : Menus := .builtin
  /-- Whether the page has loaded; only the first time counts. -/
  initialized : Bool := false
  openDialog : Option String := none

namespace MenuStore

def secondaryMenu (s : MenuStore) (section' : String) : Menu :=
  (s.menus.secondaryMenus.get? section').getD []

/-- The entry that the staff gets in addition. -/
def adminItem : MenuItem := .plain "Admin" "/staff" "fa-cog"

/-- The menus of a page for a user. -/
def mount (s : MenuStore) (bootstrap : Bootstrap) (staff : Bool) : MenuStore :=
  let menus := bootstrap.menus.getD s.menus
  let admin := if staff then [adminItem] else []
  { s with
    menus := { menus with roleMenu := menus.roleMenu ++ bootstrap.roleMenu ++ admin }
    initialized := true }

/-- What an action does to the menus, given whether the user belongs to the staff. -/
def handle (staff : Bool) (s : MenuStore) : Action → MenuStore × Outcome Effect
  | .appWillMount bootstrap =>
    if s.initialized then (s, .unchanged) else (s.mount bootstrap staff, .change)
  | .clickCloseMenu => (s, Outcome.unchanged.emit Event.uncaughtDocumentClick)
  | .openDialog dialog =>
    ({ s with openDialog := some dialog }, Outcome.change.emit Event.openDialog)
  | .closeModal => ({ s with openDialog := none }, Outcome.change.emit Event.closeModal)
  | _ => (s, .unchanged)

end MenuStore

end OpenBadges
