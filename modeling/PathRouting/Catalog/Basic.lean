import PathRouting.Router.Resolution
import PathRouting.Template.Draft

/-!
# The demonstration catalog

A router for a small product catalog: a home page, pages of products by category, details of a
product by number, and a settings page. The details are newer than the categories and win for
`product/details/<number>`. Its own aliases are registered after the configured ones and replace
those of the same name.
-/

namespace PathRouting.Catalog
set_option autoImplicit false

def homeHandler : Handler [] .text := ⟨"home", fun _ => "Welcome to the catalog"⟩

def categoryHandler : Handler [.text, .u32] .text :=
  ⟨"category", fun
    | .cons name (.cons page .nil) =>
      "Products in '" ++ Scalar.text.encode name ++ "', page " ++ Scalar.u32.encode page⟩

def detailsDraft : Draft := (Draft.start.literals ["product", "details"]).placeholder "id" .u64

def detailsHandler : Handler [.u64] .text :=
  ⟨"details", fun
    | .cons number .nil => "Product details for #" ++ Scalar.u64.encode number⟩

def notificationsDraft : Draft :=
  (Draft.start.literals ["settings", "notifications"]).placeholder "enabled" .truth

def notificationsHandler : Handler [.truth] .text :=
  ⟨"notifications", fun
    | .cons enabled .nil => "Notifications " ++ if (show Bool from enabled) then "on" else "off"⟩

/-- Registers the routes, unless one of their templates is refused. -/
def addRoutes (router : Router .text) : Except TemplateError (Router .text) := do
  let (withHome, _) ← router.addPath [] "home" homeHandler
  let (withCategory, _) ←
    withHome.addPath [.text, .u32] "product/:category/:page" categoryHandler
  let details ← detailsDraft.build
  let (withDetails, _) := withCategory.add ⟨_, details, detailsHandler⟩
  let notifications ← notificationsDraft.build
  return (withDetails.add ⟨_, notifications, notificationsHandler⟩).1

def homeAlias : AliasEntry where
  handle := ⟨.unit, "home"⟩
  rule _ := some (.ofText "home")

def productAlias : AliasEntry where
  handle := ⟨.scalar .u64, "product"⟩
  rule number := some ((Path.ofText "product/details").join (Scalar.u64.encode number))

/-- The first page of a category by its name, which must not be empty. -/
def categoryAlias : AliasEntry where
  handle := ⟨.text, "category"⟩
  rule name :=
    if (show String from name) = "" then none
    else some (((Path.ofText "product").join name).join "1")

def aliases : List AliasEntry := [homeAlias, productAlias, categoryAlias]

/-- The catalog's router for a configuration. -/
def router (config : Config) : Except TemplateError (Router .text) := do
  let routed ← addRoutes (Router.fromConfig config).1
  return (routed.addAliases aliases).1

/-- Resolves an alias in a context given as a text, or in none. The context is read as a number for
`product`; every other alias gets the text itself, or the unit if there is none. -/
def resolveAlias (router : Router .text) (identifier : String) (context : Option String) :
    Except DecodeError (Except RouteError String) :=
  match context with
  | none => .ok (router.resolveAlias identifier ⟨.unit, ()⟩).result
  | some raw =>
    if identifier = "product" then
      match Scalar.u64.decode raw with
      | .ok number => .ok (router.resolveAlias identifier ⟨.scalar .u64, number⟩).result
      | .error e => .error e
    else .ok (router.resolveAlias identifier ⟨.text, raw⟩).result

end PathRouting.Catalog
