import OpenBadges.Flow.Dispatcher
import OpenBadges.Forms.Catalogue
import OpenBadges.Store.CollectionStore
import OpenBadges.Store.ViewStores

/-!
# The state of the application

All stores side by side, with a handler for each. A handler changes its own store
only; what else it looks at is in the arguments that it passes on. Submitting a
form takes two stores, the forms first and then the collections, and the menus
come after the user; those are the only two waits of the wiring.
-/

namespace OpenBadges

/-- All stores of the application. -/
structure Stores where
  collections : CollectionStore := {}
  forms : FormStore := {}
  /-- The configurations of forms, which no action changes. -/
  registry : FormRegistry := .builtin
  panels : PanelStore := (∅ : Dict Panel)
  /-- Where the application is. -/
  route : Route := {}
  user : UserStore := none
  menu : MenuStore := {}

/-- A handler for the stores of the application. -/
abbrev StoreHandler := Handler Stores Action Effect

namespace Stores

/-- The handler of the forms. -/
def handleForms : StoreHandler := fun s a =>
  let (forms, o) := s.forms.handle s.registry a
  ({ s with forms := forms }, o)

/-- The handler of the collections. -/
def handleCollections : StoreHandler := fun s a =>
  let (collections, o) := s.collections.handle s.registry s.forms a
  ({ s with collections := collections }, o)

/-- The handler of the panels. -/
def handlePanels : StoreHandler := fun s a =>
  let (panels, o) := PanelStore.handle s.panels a
  ({ s with panels := panels }, o)

/-- The handler of the route. -/
def handleRoute : StoreHandler := fun s a =>
  let (route, o) := s.route.handle a
  ({ s with route := route }, o)

def handleUser : StoreHandler := fun s a =>
  let (user, o) := UserStore.handle s.user a
  ({ s with user := user }, o)

/-- The handler of the menus. -/
def handleMenu : StoreHandler := fun s a =>
  let (menu, o) := s.menu.handle (UserStore.isStaff s.user) a
  ({ s with menu := menu }, o)

end Stores

/-- The stores that take part in dispatches. -/
inductive StoreKind where
  | forms
  | collections
  | panels
  | route
  | user
  | menu
deriving DecidableEq, Repr

namespace StoreKind

/-- The name under which a store is registered. -/
def name : StoreKind → String
  | forms => "forms"
  | collections => "api"
  | panels => "active_action"
  | route => "route"
  | user => "user"
  | menu => "menu"

/-- The store registered under this name. -/
def ofName? : String → Option StoreKind
  | "forms" => some forms
  | "api" => some collections
  | "active_action" => some panels
  | "route" => some route
  | "user" => some user
  | "menu" => some menu
  | _ => none

def handler : StoreKind → StoreHandler
  | forms => Stores.handleForms
  | collections => Stores.handleCollections
  | panels => Stores.handlePanels
  | route => Stores.handleRoute
  | user => Stores.handleUser
  | menu => Stores.handleMenu

end StoreKind

/-- A wiring of the stores of the application. -/
abbrev StoreWiring := Wiring StoreHandler

namespace StoreWiring

/-- A store to register, and the stores it waits for. -/
structure Entry where
  store : StoreKind
  /-- The names of the stores it waits for. -/
  after : List String := []

/-- Registers stores one after another. A wait for a name not yet registered is left out. -/
def extend (w : StoreWiring) : List Entry → Except WiringError StoreWiring
  | [] => .ok w
  | e :: es => do
    let tokens := e.after.filterMap w.token?
    let (_, w) ← if tokens.isEmpty then w.register e.store.name e.store.handler
      else w.registerAfter e.store.name e.store.handler tokens
    extend w es

/-- The stores of the application in the order in which they are registered, with their waits. -/
def standardEntries : List Entry := [
  { store := .forms },
  { store := .collections, after := ["forms"] },
  { store := .panels },
  { store := .route },
  { store := .user },
  { store := .menu, after := ["user"] }]

/-- The same stores without any waits. -/
def looseEntries : List Entry := standardEntries.map fun e => { store := e.store }

/-- What registering the stores of the application comes to. -/
def standard : Except WiringError StoreWiring := extend {} standardEntries

end StoreWiring

end OpenBadges
