import Mathlib.Logic.Equiv.Basic
import PathRouting.Proofs.Acceptance
import PathRouting.Proofs.AliasTable
import PathRouting.Proofs.CatalogRoutes

/-!
# Overlapping routes

Two templates that differ in length, or in the literals at some place, accept no path in common. So
the order of two such routes does not matter, and a router is settled by the order of its other pairs.
At the other end, a template that takes at each place all that another one takes accepts all its
paths. A route registered before such a one never gets to answer, and might as well be left out.
-/

namespace PathRouting
set_option autoImplicit false

namespace Segment
variable [UserTypes]

/-- Both segments are literals, and different ones. -/
def Excludes : Segment → Segment → Prop
  | literal text, literal other => text ≠ other
  | _, _ => False

instance : (s other : Segment) → Decidable (s.Excludes other)
  | literal text, literal other => inferInstanceAs (Decidable (text ≠ other))
  | literal _, placeholder _ _ => inferInstanceAs (Decidable False)
  | placeholder _ _, _ => inferInstanceAs (Decidable False)

theorem not_excludes_of_accepts {s other : Segment} {piece : String} (hs : s.Accepts piece)
    (hother : other.Accepts piece) : ¬s.Excludes other := by
  cases s with
  | literal text =>
    cases other with
    | literal otherText =>
      have hsame : text = otherText := Eq.trans hs hother.symm
      exact fun hne => hne hsame
    | placeholder name type => exact id
  | placeholder name type => exact id

/-- The segment is the same literal as another one, or takes texts, or has the other one's type. -/
def Covers : Segment → Segment → Prop
  | literal text, other => other = literal text
  | placeholder _ type, other => type = .text ∨ ∃ name, other = placeholder name type

theorem accepts_of_covers {s other : Segment} {piece : String} (hcovers : s.Covers other)
    (h : other.Accepts piece) : s.Accepts piece := by
  cases s with
  | literal text =>
    rw [Covers] at hcovers
    rwa [hcovers] at h
  | placeholder name type =>
    rcases hcovers with rfl | ⟨otherName, rfl⟩
    · exact Scalar.reads_text piece
    · exact h

end Segment

namespace Segments
variable [UserTypes]

/-- The numbers of segments differ, or two segments at the same place are different literals. -/
def Disjoint (segments others : List Segment) : Prop :=
  segments.length ≠ others.length ∨ ∃ pair ∈ segments.zip others, pair.1.Excludes pair.2

instance (segments others : List Segment) : Decidable (Disjoint segments others) :=
  inferInstanceAs (Decidable (_ ∨ _))

theorem exists_accepted_of_mem_zip {segments others : List Segment} {path : List String}
    (h : List.Forall₂ Segment.Accepts segments path)
    (hothers : List.Forall₂ Segment.Accepts others path) {pair : Segment × Segment}
    (hmem : pair ∈ segments.zip others) :
    ∃ piece, pair.1.Accepts piece ∧ pair.2.Accepts piece := by
  induction h generalizing others with
  | nil => simp at hmem
  | @cons s piece rest path hs _ ih =>
    cases hothers with
    | cons hother hrest =>
      rcases List.mem_cons.mp hmem with rfl | hmem
      · exact ⟨piece, hs, hother⟩
      · exact ih hrest hmem

theorem not_disjoint_of_accepts {segments others : List Segment} {path : List String}
    (h : List.Forall₂ Segment.Accepts segments path)
    (hothers : List.Forall₂ Segment.Accepts others path) : ¬Disjoint segments others := by
  rintro (hlength | ⟨pair, hmem, hexcludes⟩)
  · exact hlength (h.length_eq.trans hothers.length_eq.symm)
  · obtain ⟨piece, hfirst, hsecond⟩ := exists_accepted_of_mem_zip h hothers hmem
    exact Segment.not_excludes_of_accepts hfirst hsecond hexcludes

theorem accepts_of_covers {segments others : List Segment} {path : List String}
    (hcovers : List.Forall₂ Segment.Covers segments others)
    (h : List.Forall₂ Segment.Accepts others path) :
    List.Forall₂ Segment.Accepts segments path := by
  induction hcovers generalizing path with
  | nil => exact h
  | cons hs _ ih =>
    cases h with
    | cons hpiece hrest => exact .cons (Segment.accepts_of_covers hs hpiece) (ih hrest)

end Segments

namespace Route
variable [UserTypes] {r : DataType}

def Disjoint (route other : Route r) : Prop :=
  Segments.Disjoint route.template.segments other.template.segments

instance (route other : Route r) : Decidable (route.Disjoint other) :=
  inferInstanceAs (Decidable (Segments.Disjoint _ _))

/-- The template of the route has, at each place, a segment that covers the one of the other. -/
def Covers (route other : Route r) : Prop :=
  List.Forall₂ Segment.Covers route.template.segments other.template.segments

theorem not_disjoint_of_accepts {route other : Route r} {path : Path} (h : route.Accepts path)
    (hother : other.Accepts path) : ¬route.Disjoint other :=
  Segments.not_disjoint_of_accepts (accepts_iff.mp h) (accepts_iff.mp hother)

theorem accepts_of_covers {route other : Route r} {path : Path} (hcovers : route.Covers other)
    (h : other.Accepts path) : route.Accepts path :=
  accepts_iff.mpr (Segments.accepts_of_covers hcovers (accepts_iff.mp h))

theorem last_accepting_or_rejected (routes : List (Route r)) (path : Path) :
    (∃ i : Fin routes.length, routes[i].Accepts path ∧
      ∀ j : Fin routes.length, routes[j].Accepts path → j ≤ i) ∨
    ∀ route ∈ routes, ¬route.Accepts path := by
  rcases newest_accepting_or_rejected routes path with
    ⟨older, route, newer, values, rfl, hnewer, hmatch⟩ | hrejected
  · left
    have hlt : older.length < (older ++ route :: newer).length := by simp
    have hroute : (older ++ route :: newer)[older.length] = route := by simp
    refine ⟨⟨older.length, hlt⟩, ?_, ?_⟩
    · show ((older ++ route :: newer)[older.length]).Accepts path
      rw [hroute]
      exact ⟨values, hmatch⟩
    · intro j hj
      by_contra hafter
      have hlater : older.length < j.val := Nat.lt_of_not_le hafter
      obtain ⟨k, hk⟩ := Nat.exists_eq_add_of_lt hlater
      have hbound : k < newer.length := by
        have hlength := j.isLt
        simp only [List.length_append, List.length_cons] at hlength
        omega
      have hget : (older ++ route :: newer)[j] = newer[k] := by
        simp [hk, List.getElem_append_right, Nat.add_assoc]
      rw [hget] at hj
      exact hnewer newer[k] (List.getElem_mem hbound) hj
  · exact Or.inr hrejected

end Route

namespace Router
variable [UserTypes] {r : DataType} {router other : Router r} {path : Path}

/-- Both routers give a path the same result, and run the same handler with the same arguments. -/
def SameAnswer (router other : Router r) (path : Path) : Prop :=
  (router.resolve path).result = (other.resolve path).result ∧
    (router.resolve path).trace.handlerRuns = (other.resolve path).trace.handlerRuns

theorem SameAnswer.of_answers {result : Except RouteError r.Value}
    {runs : List (String × Arguments)}
    (h : (router.resolve path).result = result ∧ (router.resolve path).trace.handlerRuns = runs)
    (hother : (other.resolve path).result = result ∧
      (other.resolve path).trace.handlerRuns = runs) : router.SameAnswer other path :=
  ⟨h.1.trans hother.1.symm, h.2.trans hother.2.symm⟩

theorem resolve_of_last_accepting {i : Fin router.routes.length} {route : Route r}
    {values : Values route.types} (hroute : router.routes[i] = route)
    (hmatch : route.template.tryMatch path = .ok values)
    (hlast : ∀ j : Fin router.routes.length, router.routes[j].Accepts path → j ≤ i) :
    (router.resolve path).result = .ok (route.handler.run values) ∧
      (router.resolve path).trace.handlerRuns =
        [(route.handler.label, ⟨route.types, values⟩)] := by
  have hsplit : router.routes = router.routes.take i ++ route :: router.routes.drop (i + 1) := by
    rw [← hroute]
    simp
  refine resolve_of_newest_accepting hsplit ?_ hmatch
  intro later hlater haccepts
  obtain ⟨k, hk, rfl⟩ := List.mem_iff_getElem.mp hlater
  rw [List.length_drop] at hk
  rw [List.getElem_drop] at haccepts
  have hle : i.val + 1 + k ≤ i.val := hlast ⟨i + 1 + k, by omega⟩ haccepts
  omega

/-- Routes can be rearranged as long as those that overlap keep their order. -/
theorem sameAnswer_of_order_kept {routes others : List (Route r)} (hroutes : router.routes = routes)
    (hothers : other.routes = others) (σ : Fin routes.length ≃ Fin others.length)
    (hsame : ∀ i, others[σ i] = routes[i])
    (hkept : ∀ i j, i < j → ¬routes[i].Disjoint routes[j] → σ i < σ j) (path : Path) :
    router.SameAnswer other path := by
  subst hroutes hothers
  rcases Route.last_accepting_or_rejected router.routes path with
    ⟨i, ⟨values, hmatch⟩, hlast⟩ | hrejected
  · -- All routes that accept the path overlap, so the last of them stays the last.
    have hstays : ∀ j, other.routes[j].Accepts path → j ≤ σ i := by
      intro j hj
      obtain ⟨k, rfl⟩ := σ.surjective j
      rw [hsame k] at hj
      have hoverlap := Route.not_disjoint_of_accepts hj ⟨values, hmatch⟩
      rcases Nat.lt_or_eq_of_le (hlast k hj) with hlt | heq
      · exact Nat.le_of_lt (hkept k i hlt hoverlap)
      · have hsamePlace : k = i := Fin.ext heq
        subst hsamePlace
        exact Nat.le_refl _
    exact .of_answers (resolve_of_last_accepting rfl hmatch hlast)
      (resolve_of_last_accepting (hsame i) hmatch hstays)
  · have hrejected' : ∀ route ∈ other.routes, ¬route.Accepts path := by
      intro route hmem
      obtain ⟨j, rfl⟩ := List.mem_iff_get.mp hmem
      obtain ⟨k, rfl⟩ := σ.surjective j
      have hroute : ¬router.routes[k].Accepts path := hrejected _ (List.getElem_mem k.isLt)
      rw [← hsame k] at hroute
      exact hroute
    exact .of_answers (resolve_of_rejected hrejected) (resolve_of_rejected hrejected')

/-- Sessions that agree on the order of any two routes that are not disjoint give every path the same
answer. -/
theorem order_matters_only_between_overlapping_routes {routes others : List (Route r)}
    (σ : Fin routes.length ≃ Fin others.length) (hsame : ∀ i, others[σ i] = routes[i])
    (hkept : ∀ i j, i < j → ¬routes[i].Disjoint routes[j] → σ i < σ j)
    (creation creation' : Creation) {actions actions' : List (Action r)}
    (hactions : registered actions = routes) (hactions' : registered actions' = others)
    (path : Path) : (creation.reached actions).SameAnswer (creation'.reached actions') path :=
  sameAnswer_of_order_kept ((creation.routes_reached actions).trans hactions)
    ((creation'.routes_reached actions').trans hactions') σ hsame hkept path

end Router

/-- The home page and the settings of the catalog can change places. The categories and the details
overlap and keep their order. -/
theorem Router.order_matters_only_between_overlapping_routes_catalog :
    ¬Catalog.category.Disjoint Catalog.details ∧
    ∀ path, (Creation.empty.reached (Catalog.routes.map .add)).SameAnswer
      (Creation.empty.reached ([Catalog.notifications, Catalog.category, Catalog.details,
        Catalog.home].map .add)) path := by
  let others := [Catalog.notifications, Catalog.category, Catalog.details, Catalog.home]
  let σ : Fin 4 ≃ Fin 4 := Equiv.swap 0 3
  have hsame : ∀ i : Fin 4, others[σ i] = Catalog.routes[i] :=
    fun
    | 0 => rfl
    | 1 => rfl
    | 2 => rfl
    | 3 => rfl
  have hkept : ∀ i j : Fin 4, i < j → ¬Catalog.routes[i].Disjoint Catalog.routes[j] → σ i < σ j := by
    decide
  have hsessions := @order_matters_only_between_overlapping_routes _ _ Catalog.routes others σ hsame
    hkept .empty .empty
  exact ⟨by decide, hsessions rfl rfl⟩

namespace Router
variable [UserTypes] {r : DataType} {router other : Router r} {path : Path}

/-- A route can be left out if some newer route accepts whatever it accepts. -/
theorem sameAnswer_of_left_out {older newer : List (Route r)} {shadowed : Route r}
    (hroutes : router.routes = older ++ shadowed :: newer) (hothers : other.routes = older ++ newer)
    (hcovered : shadowed.Accepts path → ∃ route ∈ newer, route.Accepts path) :
    router.SameAnswer other path := by
  rcases Route.newest_accepting_or_rejected newer path with
    ⟨before, route, after, values, rfl, hafter, hmatch⟩ | hrejected
  · have hsplit : router.routes = (older ++ shadowed :: before) ++ route :: after := by
      simp [hroutes]
    have hsplit' : other.routes = (older ++ before) ++ route :: after := by simp [hothers]
    exact .of_answers (resolve_of_newest_accepting hsplit hafter hmatch)
      (resolve_of_newest_accepting hsplit' hafter hmatch)
  · have hshadowed : ¬shadowed.Accepts path := by
      intro h
      obtain ⟨route, hmem, haccepts⟩ := hcovered h
      exact hrejected route hmem haccepts
    rcases Route.newest_accepting_or_rejected older path with
      ⟨before, route, after, values, rfl, hafter, hmatch⟩ | hrejected'
    · have hsplit : router.routes = before ++ route :: (after ++ shadowed :: newer) := by
        simp [hroutes]
      have hsplit' : other.routes = before ++ route :: (after ++ newer) := by simp [hothers]
      refine .of_answers (resolve_of_newest_accepting hsplit ?_ hmatch)
        (resolve_of_newest_accepting hsplit' ?_ hmatch)
      · simp only [List.forall_mem_append, List.forall_mem_cons]
        exact ⟨hafter, hshadowed, hrejected⟩
      · simp only [List.forall_mem_append]
        exact ⟨hafter, hrejected⟩
    · refine .of_answers (resolve_of_rejected ?_) (resolve_of_rejected ?_)
      · rw [hroutes]
        simp only [List.forall_mem_append, List.forall_mem_cons]
        exact ⟨hrejected', hshadowed, hrejected⟩
      · rw [hothers]
        simp only [List.forall_mem_append]
        exact ⟨hrejected', hrejected⟩

/-- Both routers give an alias in a context the same result, by the same rules and the same handlers
with the same arguments. -/
def SameAliasAnswer (router other : Router r) (identifier : String) (context : Datum) : Prop :=
  (router.resolveAlias identifier context).result = (other.resolveAlias identifier context).result ∧
    (router.resolveAlias identifier context).trace.handlerRuns =
      (other.resolveAlias identifier context).trace.handlerRuns ∧
    (router.resolveAlias identifier context).trace.ruleRuns =
      (other.resolveAlias identifier context).trace.ruleRuns

/-- Routers that answer all paths alike answer an alias alike if it is the same in both. -/
theorem sameAliasAnswer_of_sameAnswer (hpaths : ∀ path, router.SameAnswer other path)
    {identifier : String} (halias : router.findAlias? identifier = other.findAlias? identifier)
    (context : Datum) : router.SameAliasAnswer other identifier context := by
  have happlied : router.applyAlias identifier context = other.applyAlias identifier context := by
    rw [applyAlias, applyAlias, halias]
  have hfollowed : ∀ target,
      (router.follow identifier target).result = (other.follow identifier target).result ∧
        (router.follow identifier target).trace.handlerRuns =
          (other.follow identifier target).trace.handlerRuns := by
    intro target
    cases target with
    | ok path => exact hpaths path
    | error e => exact ⟨rfl, rfl⟩
  obtain ⟨hresult, hruns⟩ := hfollowed (other.applyAlias identifier context).result
  refine ⟨?_, ?_, ?_⟩
  · rw [result_resolveAlias, result_resolveAlias, happlied, hresult]
  · rw [handlerRuns_resolveAlias, handlerRuns_resolveAlias, happlied, hruns]
  · rw [ruleRuns_resolveAlias, ruleRuns_resolveAlias, happlied]

/-- Every handler that ran is the one of some of the routes, for values of its types. -/
def RunsAmong (routes : List (Route r)) (t : Trace) : Prop :=
  ∀ run ∈ t.handlerRuns,
    ∃ route ∈ routes, ∃ values, run = (route.handler.label, ⟨route.types, values⟩)

theorem runsAmong_resolve (router : Router r) (path : Path) :
    RunsAmong router.routes (router.resolve path).trace := by
  intro run hrun
  rcases Route.newest_accepting_or_rejected router.routes path with
    ⟨older, route, newer, values, hroutes, hnewer, hmatch⟩ | hrejected
  · rw [(resolve_of_newest_accepting hroutes hnewer hmatch).2] at hrun
    have hmem : route ∈ router.routes := by simp [hroutes]
    exact ⟨route, hmem, values, List.mem_singleton.mp hrun⟩
  · rw [(resolve_of_rejected hrejected).2] at hrun
    cases hrun

theorem runsAmong_resolveAlias (router : Router r) (identifier : String) (context : Datum) :
    RunsAmong router.routes (router.resolveAlias identifier context).trace := by
  rw [RunsAmong, handlerRuns_resolveAlias]
  cases (router.applyAlias identifier context).result with
  | ok path => exact router.runsAmong_resolve path
  | error e => exact fun run hrun => nomatch hrun

/-- A route can be left out once a newer one covers it, whatever else is done to the router. -/
theorem shadowed_route_is_dead (creation : Creation) {before between later : List (Action r)}
    {first second : Action r} {shadowed newer : Route r} (hfirst : first.route? = some shadowed)
    (hsecond : second.route? = some newer) (hcovers : newer.Covers shadowed)
    {actions pruned : List (Action r)}
    (hactions : actions = before ++ first :: (between ++ second :: later))
    (hpruned : pruned = before ++ (between ++ second :: later)) :
    (∀ path, (creation.reached actions).SameAnswer (creation.reached pruned) path ∧
      RunsAmong (registered pruned) ((creation.reached actions).resolve path).trace) ∧
    ∀ identifier context,
      (creation.reached actions).SameAliasAnswer (creation.reached pruned) identifier context ∧
      RunsAmong (registered pruned)
        ((creation.reached actions).resolveAlias identifier context).trace := by
  have hnewer : newer ∈ registered (between ++ second :: later) := by
    simp [registered, List.filterMap_append, List.filterMap_cons_some hsecond]
  have hroutes : (creation.reached actions).routes =
      registered before ++ shadowed :: registered (between ++ second :: later) := by
    rw [creation.routes_reached, hactions, registered_append, registered_cons, hfirst]
    rfl
  have hothers : (creation.reached pruned).routes =
      registered before ++ registered (between ++ second :: later) := by
    rw [creation.routes_reached, hpruned, registered_append]
  have hpaths : ∀ path, (creation.reached actions).SameAnswer (creation.reached pruned) path :=
    fun path => sameAnswer_of_left_out hroutes hothers fun h =>
      ⟨newer, hnewer, Route.accepts_of_covers hcovers h⟩
  have hdeclared : creation.declared actions = creation.declared pruned := by
    rw [hactions, hpruned, Creation.declared, Creation.declared, List.filterMap_append,
      List.filterMap_append, List.filterMap_cons_none (Action.entry?_of_route? hfirst)]
  refine ⟨?paths, ?aliases⟩
  case paths =>
    intro path
    refine ⟨hpaths path, ?_⟩
    rw [RunsAmong, (hpaths path).2, ← creation.routes_reached pruned]
    exact (creation.reached pruned).runsAmong_resolve path
  case aliases =>
    intro identifier context
    have halias : (creation.reached actions).findAlias? identifier =
        (creation.reached pruned).findAlias? identifier := by
      rw [creation.findAlias?_reached, creation.findAlias?_reached, hdeclared]
    have hsame := sameAliasAnswer_of_sameAnswer hpaths halias context
    refine ⟨hsame, ?_⟩
    rw [RunsAmong, hsame.2.1, ← creation.routes_reached pruned]
    exact (creation.reached pruned).runsAmong_resolveAlias identifier context

end Router

/-- A route for any two words after `product` leaves the details of a product without effect. -/
theorem Router.shadowed_route_is_dead_catalog :
    ∃ products : Route .text, products.Covers Catalog.details ∧
      ∀ path, (Creation.empty.reached [.add Catalog.home, .add Catalog.details,
          .addAlias Catalog.productAlias, .add products, .clearObserver]).SameAnswer
        (Creation.empty.reached [.add Catalog.home, .addAlias Catalog.productAlias, .add products,
          .clearObserver]) path := by
  let products : Route .text :=
    ⟨[.text, .text],
      ⟨[.literal "product", .placeholder "kind" .text, .placeholder "item" .text], by decide, rfl⟩,
      ⟨"products", fun _ => "Products"⟩⟩
  have hcovers : products.Covers Catalog.details :=
    .cons rfl (.cons (.inl rfl) (.cons (.inl rfl) .nil))
  have hdead := @shadowed_route_is_dead _ _ .empty [.add Catalog.home]
    [.addAlias Catalog.productAlias] [.clearObserver] (.add Catalog.details) (.add products)
    Catalog.details products rfl rfl hcovers _ _ rfl rfl
  exact ⟨products, hcovers, fun path => (hdead.1 path).1⟩

end PathRouting
