import Mathlib.Data.List.Basic
import PathRouting.Proofs.IntegerText
import PathRouting.Proofs.RouteOverlap

/-!
# The answers of the catalog

A path leads to at most one page of the catalog, and an answer shows which page it is for. The routes
overlap in one place: the older route of the categories accepts what leads to the details of a
product, as long as the number is one of a page. Every such number is one of a product, so the newer
route leaves nothing of the category `details` to it.
-/

namespace PathRouting
set_option autoImplicit false

theorem takeWhile_reverse_append {mark : Char} {after : List Char} (h : mark ∉ after)
    (before : List Char) :
    (before ++ mark :: after).reverse.takeWhile (· ≠ mark) = after.reverse := by
  have hreverse : (before ++ mark :: after).reverse = after.reverse ++ mark :: before.reverse := by
    simp
  have hother : ∀ c ∈ after.reverse, decide (c ≠ mark) := by
    intro c hc
    have hne : c ≠ mark := by
      rintro rfl
      exact h (List.mem_reverse.mp hc)
    simp [hne]
  rw [hreverse, List.takeWhile_append_of_pos hother, List.takeWhile_cons_of_neg (by simp),
    List.append_nil]

theorem append_cons_inj_of_last {mark : Char} {before before' after after' : List Char}
    (hafter : mark ∉ after) (hafter' : mark ∉ after')
    (h : before ++ mark :: after = before' ++ mark :: after') :
    before = before' ∧ after = after' := by
  have hsame : after = after' := by
    rw [← List.reverse_inj, ← takeWhile_reverse_append hafter before, h,
      takeWhile_reverse_append hafter' before']
  subst hsame
  exact ⟨List.append_cancel_right h, rfl⟩

theorem take_toList_append {shown : String} {n : Nat} (h : n ≤ shown.toList.length)
    (rest : String) : (shown ++ rest).toList.take n = shown.toList.take n := by
  rw [String.toList_append, List.take_append_of_le_length h]

namespace Catalog

inductive Page where
  | home
  | listing (category : String) (number : Scalar.u32.Value)
  | details (number : Scalar.u64.Value)
  | notifications (enabled : Bool)

namespace Page

def text : Page → String
  | home => "Welcome to the catalog"
  | listing category number =>
    "Products in '" ++ category ++ "', page " ++ Scalar.u32.encode number
  | details number => "Product details for #" ++ Scalar.u64.encode number
  | notifications true => "Notifications on"
  | notifications false => "Notifications off"

/-- The segments of a path lead to the page. -/
def IsAt : Page → List String → Prop
  | home, segments => segments = ["home"]
  | listing category number, segments => category ≠ "details" ∧
    ∃ piece, segments = ["product", category, piece] ∧ Scalar.u32.decode piece = .ok number
  | details number, segments =>
    ∃ piece, segments = ["product", "details", piece] ∧ Scalar.u64.decode piece = .ok number
  | notifications true, segments => segments = ["settings", "notifications", "true"]
  | notifications false, segments => segments = ["settings", "notifications", "false"]

def route : Page → Route .text
  | home => Catalog.home
  | listing _ _ => Catalog.category
  | details _ => Catalog.details
  | notifications _ => Catalog.notifications

def values : (page : Page) → Values page.route.types
  | home => .nil
  | listing category number => .cons (t := .text) category (.cons number .nil)
  | details number => .cons number .nil
  | notifications enabled => .cons (t := .truth) enabled .nil

theorem run_values (page : Page) : page.route.handler.run page.values = page.text := by
  cases page with
  | home => rfl
  | listing category number => rfl
  | details number => rfl
  | notifications enabled => cases enabled <;> rfl

theorem tryMatch_of_isAt {page : Page} {p : Path} (h : page.IsAt p.segments) :
    page.route.template.tryMatch p = .ok page.values := by
  rw [Template.tryMatch_eq_ok_iff_readAs]
  cases page with
  | home =>
    rw [show p.segments = _ from h]
    exact .literal .nil
  | listing category number =>
    obtain ⟨-, piece, hsegments, hpiece⟩ := h
    rw [hsegments]
    exact .literal (.placeholder rfl (.placeholder hpiece .nil))
  | details number =>
    obtain ⟨piece, hsegments, hpiece⟩ := h
    rw [hsegments]
    exact .literal (.literal (.placeholder hpiece .nil))
  | notifications enabled =>
    cases enabled with
    | true =>
      rw [show p.segments = _ from h]
      exact .literal (.literal (.placeholder rfl .nil))
    | false =>
      rw [show p.segments = _ from h]
      exact .literal (.literal (.placeholder rfl .nil))

/-- How the answers on the pages of a kind begin. -/
def heading : Page → String
  | home => "Welcome "
  | listing _ _ => "Products"
  | details _ => "Product "
  | notifications _ => "Notifica"

theorem take_text (page : Page) : page.text.toList.take 8 = page.heading.toList := by
  cases page with
  | home => decide
  | listing category number =>
    show ("Products in '" ++ category ++ "', page " ++ Scalar.u32.encode number).toList.take 8 =
      "Products".toList
    rw [String.append_assoc, String.append_assoc, take_toList_append (by decide)]
    decide
  | details number =>
    show ("Product details for #" ++ Scalar.u64.encode number).toList.take 8 = "Product ".toList
    rw [take_toList_append (by decide)]
    decide
  | notifications enabled => cases enabled <;> decide

theorem quote_notMem_encode (number : Scalar.u32.Value) :
    '\x27' ∉ ", page ".toList ++ (Scalar.u32.encode number).toList := by
  intro h
  rcases List.mem_append.mp h with h | h
  · exact absurd h (by decide)
  · have hdigits : '\x27' ∈ Numeral.Integer.digits number := by
      rwa [← String.toList_ofList (l := Numeral.Integer.digits number)]
    rcases Numeral.Integer.isDigit_or_eq_minus_of_mem_digits hdigits with h | h
    · exact absurd h (by decide)
    · exact absurd h (by decide)

theorem eq_of_text_listing_eq {category category' : String} {number number' : Scalar.u32.Value}
    (h : (listing category number).text = (listing category' number').text) :
    category = category' ∧ number = number' := by
  -- A category can hold the words after it as well, so it is cut off at the last quote.
  have hlists : ("Products in '" ++ category ++ "', page " ++ Scalar.u32.encode number).toList =
      ("Products in '" ++ category' ++ "', page " ++ Scalar.u32.encode number').toList :=
    congrArg String.toList h
  simp only [String.toList_append, List.append_assoc, List.append_cancel_left_eq] at hlists
  obtain ⟨hcategory, hafter⟩ := append_cons_inj_of_last (quote_notMem_encode number)
    (quote_notMem_encode number') hlists
  have hnumber := String.toList_inj.mp (List.append_cancel_left hafter)
  exact ⟨String.toList_inj.mp hcategory, Scalar.encode_injective (t := .u32) trivial hnumber⟩

theorem text_injective : Function.Injective text := by
  intro page other h
  have hheading : page.heading = other.heading := by
    rw [← String.toList_inj, ← take_text, ← take_text, h]
  cases page with
  | home =>
    cases other with
    | home => rfl
    | _ => simp [heading] at hheading
  | listing category number =>
    cases other with
    | listing category' number' =>
      obtain ⟨rfl, rfl⟩ := eq_of_text_listing_eq h
      rfl
    | _ => simp [heading] at hheading
  | details number =>
    cases other with
    | details number' =>
      have hnumber := (String.append_right_inj "Product details for #").mp h
      rw [Scalar.encode_injective (t := .u64) trivial hnumber]
    | _ => simp [heading] at hheading
  | notifications enabled =>
    cases other with
    | notifications enabled' =>
      cases enabled <;> cases enabled' <;> first | rfl | exact absurd h (by decide)
    | _ => simp [heading] at hheading

end Page

theorem exists_details_of_page {piece : String} {number : Scalar.u32.Value}
    (h : Scalar.u32.decode piece = .ok number) :
    ∃ product : Scalar.u64.Value, Scalar.u64.decode piece = .ok product ∧
      product.val = number.val :=
  Scalar.decode_int_of_bits_le (by decide) h

/-- A path that a route accepts leads to a page, though not always to one that this route makes. -/
theorem exists_isAt_of_accepts {route : Route .text} (hmem : route ∈ routes) {p : Path}
    (h : route.Accepts p) : ∃ page : Page, page.IsAt p.segments := by
  rw [Route.accepts_iff] at h
  simp only [routes, List.mem_cons, List.not_mem_nil, or_false] at hmem
  rcases hmem with rfl | rfl | rfl | rfl <;>
    simp only [home, category, details, notifications, List.forall₂_cons_left_iff,
      List.forall₂_nil_left_iff, Segment.Accepts] at h
  · obtain ⟨_, _, rfl, rfl, hsegments⟩ := h
    exact ⟨.home, hsegments⟩
  · obtain ⟨_, _, rfl, ⟨name, _, -, ⟨piece, _, ⟨number, hnumber⟩, rfl, rfl⟩, rfl⟩, hsegments⟩ := h
    -- The template takes `details` for a category, where the page is that of a product.
    by_cases hname : name = "details"
    · subst hname
      obtain ⟨product, hproduct, -⟩ := exists_details_of_page hnumber
      exact ⟨.details product, piece, hsegments, hproduct⟩
    · exact ⟨.listing name number, hname, piece, hsegments, hnumber⟩
  · obtain ⟨_, _, rfl, ⟨_, _, rfl, ⟨piece, _, ⟨number, hnumber⟩, rfl, rfl⟩, rfl⟩, hsegments⟩ := h
    exact ⟨.details number, piece, hsegments, hnumber⟩
  · obtain ⟨_, _, rfl, ⟨_, _, rfl, ⟨piece, _, ⟨enabled, henabled⟩, rfl, rfl⟩, rfl⟩, hsegments⟩ := h
    obtain rfl := Scalar.encode_of_decode_truth henabled
    cases enabled with
    | true => exact ⟨.notifications true, hsegments⟩
    | false => exact ⟨.notifications false, hsegments⟩

theorem not_accepts_details_of_ne {p : Path} {name piece : String}
    (hsegments : p.segments = ["product", name, piece]) (hname : name ≠ "details") :
    ¬details.Accepts p := by
  rw [Route.accepts_iff, hsegments]
  intro h
  simp only [details, List.forall₂_cons, Segment.Accepts] at h
  exact hname h.2.1.symm

theorem exists_newer_of_isAt {page : Page} {p : Path} (h : page.IsAt p.segments) :
    ∃ older newer, routes = older ++ page.route :: newer ∧ ∀ other ∈ newer, ¬other.Accepts p := by
  have haccepts : page.route.Accepts p := ⟨page.values, page.tryMatch_of_isAt h⟩
  have hrejects {other : Route .text} (hdisjoint : page.route.Disjoint other) : ¬other.Accepts p :=
    fun hother => Route.not_disjoint_of_accepts haccepts hother hdisjoint
  cases page with
  | home =>
    refine ⟨[], [category, details, notifications], rfl, ?_⟩
    simp only [List.forall_mem_cons]
    exact ⟨hrejects (by decide), hrejects (by decide), hrejects (by decide), by simp⟩
  | listing name number =>
    obtain ⟨hname, piece, hsegments, -⟩ := h
    have hdisjoint : category.Disjoint notifications := by decide
    refine ⟨[home], [details, notifications], rfl, ?_⟩
    simp only [List.forall_mem_cons]
    exact ⟨not_accepts_details_of_ne hsegments hname, hrejects hdisjoint, by simp⟩
  | details number =>
    have hdisjoint : details.Disjoint notifications := by decide
    refine ⟨[home, category], [notifications], rfl, ?_⟩
    simp only [List.forall_mem_cons]
    exact ⟨hrejects hdisjoint, by simp⟩
  | notifications enabled => exact ⟨[home, category, details], [], rfl, List.forall_mem_nil _⟩

variable (config : Config)

variable {p : Path}

theorem resolve_of_isAt {page : Page} (h : page.IsAt p.segments) :
    ((built config).resolve p).result = .ok page.text ∧
      ((built config).resolve p).trace.handlerRuns =
        [(page.route.handler.label, ⟨page.route.types, page.values⟩)] := by
  obtain ⟨older, newer, hroutes, hnewer⟩ := exists_newer_of_isAt h
  rw [← routes_built config] at hroutes
  rw [← page.run_values]
  exact Router.resolve_of_newest_accepting hroutes hnewer (page.tryMatch_of_isAt h)

theorem resolve_of_not_isAt (h : ∀ page : Page, ¬page.IsAt p.segments) :
    ((built config).resolve p).result = .error (.noRouteMatched p) ∧
      ((built config).resolve p).trace.handlerRuns = [] := by
  apply Router.resolve_of_rejected
  intro route hmem haccepts
  rw [routes_built] at hmem
  obtain ⟨page, hpage⟩ := exists_isAt_of_accepts hmem haccepts
  exact h page hpage

theorem resolve_cases (p : Path) :
    (∃ page : Page, page.IsAt p.segments ∧
      ((built config).resolve p).result = .ok page.text ∧
      ((built config).resolve p).trace.handlerRuns =
        [(page.route.handler.label, ⟨page.route.types, page.values⟩)]) ∨
    (∀ page : Page, ¬page.IsAt p.segments) ∧
      ((built config).resolve p).result = .error (.noRouteMatched p) ∧
      ((built config).resolve p).trace.handlerRuns = [] := by
  by_cases h : ∃ page : Page, page.IsAt p.segments
  · obtain ⟨page, hpage⟩ := h
    exact Or.inl ⟨page, hpage, resolve_of_isAt config hpage⟩
  · have hnone : ∀ page : Page, ¬page.IsAt p.segments := fun page hpage => h ⟨page, hpage⟩
    exact Or.inr ⟨hnone, resolve_of_not_isAt config hnone⟩

theorem result_resolve_eq_ok_iff (page : Page) :
    ((built config).resolve p).result = .ok page.text ↔ page.IsAt p.segments := by
  refine ⟨fun h => ?_, fun h => (resolve_of_isAt config h).1⟩
  rcases resolve_cases config p with ⟨other, hother, hresult, -⟩ | ⟨-, hresult, -⟩
  · rw [hresult] at h
    rwa [← Page.text_injective (Except.ok.inj h)]
  · rw [hresult] at h
    cases h

theorem result_resolve_eq_error_iff (e : RouteError) :
    ((built config).resolve p).result = .error e ↔
      e = .noRouteMatched p ∧ ∀ page : Page, ¬page.IsAt p.segments := by
  rcases resolve_cases config p with ⟨page, hpage, hresult, -⟩ | ⟨hnone, hresult, -⟩
  · rw [hresult]
    exact iff_of_false (fun h => nomatch h) fun h => h.2 page hpage
  · rw [hresult, Except.error.injEq, and_iff_left hnone, eq_comm]

theorem eq_listing_of_mem_handlerRuns {category : String} {number : Scalar.u32.Value}
    (h : ("category", ⟨[.text, .u32], .cons category (.cons number .nil)⟩) ∈
      ((built config).resolve p).trace.handlerRuns) :
    (Page.listing category number).IsAt p.segments := by
  rcases resolve_cases config p with ⟨page, hpage, -, hruns⟩ | ⟨-, -, hruns⟩
  · rw [hruns, List.mem_singleton] at h
    have hlabel : "category" = page.route.handler.label := congrArg Prod.fst h
    cases page with
    | listing name other =>
      cases h
      exact hpage
    | home => exact absurd hlabel (by decide)
    | details other => exact absurd hlabel (show "category" ≠ "details" by decide)
    | notifications enabled => exact absurd hlabel (show "category" ≠ "notifications" by decide)
  · rw [hruns] at h
    exact absurd h List.not_mem_nil

theorem result_resolve_built_congr (other : Config) (p : Path) :
    ((built other).resolve p).result = ((built config).resolve p).result := by
  show (Router.offer _ (built other).routes.reverse).result =
    (Router.offer _ (built config).routes.reverse).result
  rw [routes_built, routes_built]

/-- Every configuration has a catalog, and the answers of all catalogs are the same: a text is
answered with the page that its segments lead to, never with one of the category `details`. -/
theorem each_path_is_answered_with_its_page (config : Config) (s : String) :
    ∃ catalog, router config = .ok catalog ∧
    (∀ page : Page, (catalog.resolve (.ofText s)).result = .ok page.text ↔
      page.IsAt (pieces s)) ∧
    (∀ e, (catalog.resolve (.ofText s)).result = .error e ↔
      e = .noRouteMatched (.ofText s) ∧ ∀ page : Page, ¬page.IsAt (pieces s)) ∧
    (∀ number : Scalar.u32.Value,
      (catalog.resolve (.ofText s)).result ≠ .ok (Page.listing "details" number).text ∧
      ("category", ⟨[.text, .u32], .cons "details" (.cons number .nil)⟩) ∉
        (catalog.resolve (.ofText s)).trace.handlerRuns) ∧
    (∀ (piece : String) (number : Scalar.u32.Value), Scalar.u32.decode piece = .ok number →
      ∃ product : Scalar.u64.Value, Scalar.u64.decode piece = .ok product ∧
        product.val = number.val) ∧
    ∀ otherConfig : Config, ∃ other, router otherConfig = .ok other ∧
      (other.resolve (.ofText s)).result = (catalog.resolve (.ofText s)).result := by
  refine ⟨built config, router_eq_ok config, result_resolve_eq_ok_iff config,
    result_resolve_eq_error_iff config, ?details, fun _ _ => exists_details_of_page, ?settings⟩
  case details =>
    intro number
    constructor
    · intro h
      exact ((result_resolve_eq_ok_iff config _).mp h).1 rfl
    · intro h
      exact (eq_listing_of_mem_handlerRuns config h).1 rfl
  case settings =>
    intro otherConfig
    exact ⟨built otherConfig, router_eq_ok otherConfig,
      result_resolve_built_congr config otherConfig _⟩

end Catalog

end PathRouting
