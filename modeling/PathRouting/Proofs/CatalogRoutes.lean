import PathRouting.Catalog.Basic
import PathRouting.Proofs.RouterRuns

/-!
# The routes of the catalog

None of the templates of the catalog is refused, neither those in written form nor those that are put
together. So there is a catalog for every configuration, and it is what a router becomes that starts
from the configuration and takes the registrations of the catalog.
-/

namespace PathRouting.Catalog
set_option autoImplicit false

def home : Route .text where
  types := []
  template := ⟨[.literal "home"], by decide, rfl⟩
  handler := homeHandler

def category : Route .text where
  types := [.text, .u32]
  template :=
    ⟨[.literal "product", .placeholder "category" .text, .placeholder "page" .u32], by decide, rfl⟩
  handler := categoryHandler

def details : Route .text where
  types := [.u64]
  template :=
    ⟨[.literal "product", .literal "details", .placeholder "id" .u64], by decide, rfl⟩
  handler := detailsHandler

def notifications : Route .text where
  types := [.truth]
  template :=
    ⟨[.literal "settings", .literal "notifications", .placeholder "enabled" .truth], by decide, rfl⟩
  handler := notificationsHandler

/-- The routes, oldest first. -/
def routes : List (Route .text) := [home, category, details, notifications]

theorem parse_home : Template.parse [] "home" = .ok home.template := rfl

theorem parse_category :
    Template.parse [.text, .u32] "product/:category/:page" = .ok category.template := rfl

theorem build_detailsDraft : detailsDraft.build = .ok details.template := rfl

theorem build_notificationsDraft : notificationsDraft.build = .ok notifications.template := rfl

theorem addRoutes_eq_ok (router : Router .text) :
    addRoutes router = .ok (router.after (routes.map .add)) := by
  simp only [addRoutes, Router.addPath, parse_home, parse_category, build_detailsDraft,
    build_notificationsDraft, bind, Except.bind]
  rfl

/-- What is done to a router that starts from settings, to make it the catalog's. -/
def registrations : List (Action .text) := routes.map .add ++ aliases.map .addAlias

/-- The catalog of a configuration, as the router of a session. -/
def built (config : Config) : Router .text := (Creation.fromConfig config).reached registrations

theorem router_eq_ok (config : Config) : router config = .ok (built config) := by
  rw [router, addRoutes_eq_ok]
  rfl

@[simp] theorem routes_built (config : Config) : (built config).routes = routes :=
  Creation.routes_reached (.fromConfig config) registrations

end PathRouting.Catalog
