import PathRouting.Proofs.CatalogAnswers
import PathRouting.Proofs.PathAlgebra
import PathRouting.Proofs.StaticAliases

/-!
# The aliases of the catalog

The catalog registers its own aliases after the configured ones, so a configured alias stays unless
its identifier is one of the catalog's. An alias is resolved in a context that is made from a text or
from nothing, before the router is asked at all. The first page of a category is a path that holds the
name of the category as it is given, so separators in the name make it another path.
-/

namespace PathRouting.Catalog
set_option autoImplicit false

def ownIdentifiers : List String := ["home", "product", "category"]

theorem map_identifier_aliases : aliases.map AliasEntry.identifier = ownIdentifiers := rfl

/-- The configured aliases that do not give way to one of the catalog's own. -/
def kept (config : Config) : List StaticAlias :=
  config.aliases.filter fun a => a.identifier ∉ ownIdentifiers

section
variable {config : Config}

theorem declared_registrations (config : Config) :
    (Creation.fromConfig config).declared registrations =
      config.aliases.map StaticAlias.entry ++ aliases := rfl

theorem mem_kept_iff {a : StaticAlias} :
    a ∈ kept config ↔ a ∈ config.aliases ∧ a.identifier ∉ ownIdentifiers := by
  simp [kept]

theorem aliases_built (h : (config.aliases.map StaticAlias.identifier).Nodup) :
    (built config).aliases = (kept config).map StaticAlias.entry ++ aliases := by
  rw [← StaticAlias.map_identifier_entry] at h
  rw [built, Creation.aliases_reached, declared_registrations,
    AliasEntry.lasting_append, AliasEntry.lasting_of_nodup h,
    AliasEntry.lasting_of_nodup (show (aliases.map AliasEntry.identifier).Nodup by decide),
    List.filter_map]
  rfl

theorem findAlias?_own (config : Config) {e : AliasEntry} (he : e ∈ aliases) :
    (built config).findAlias? e.identifier = some e := by
  have hnewest : AliasEntry.newest? aliases e.identifier = some e :=
    AliasEntry.newest?_of_mem (by decide) he
  rw [built, Creation.findAlias?_reached, declared_registrations,
    AliasEntry.newest?_append, hnewest, Option.some_or]

theorem findAlias?_unknown {identifier : String}
    (hconfigured : identifier ∉ config.aliases.map StaticAlias.identifier)
    (hown : identifier ∉ ownIdentifiers) : (built config).findAlias? identifier = none := by
  rw [← map_identifier_aliases] at hown
  rw [← StaticAlias.map_identifier_entry] at hconfigured
  rw [built, Creation.findAlias?_reached, declared_registrations,
    AliasEntry.newest?_eq_none_iff, List.map_append, List.mem_append]
  exact not_or_intro hconfigured hown

theorem ne_of_mem_kept {a : StaticAlias} (ha : a ∈ kept config) :
    ∀ action ∈ registrations, ∀ entry, action.entry? = some entry →
      entry.identifier ≠ a.identifier := by
  intro action haction entry hentry hsame
  have hmem : entry ∈ registrations.filterMap Action.entry? :=
    List.mem_filterMap.mpr ⟨action, haction, hentry⟩
  have hown : entry.identifier ∈ ownIdentifiers :=
    List.mem_map_of_mem (f := AliasEntry.identifier) (l := aliases) hmem
  rw [hsame] at hown
  exact (mem_kept_iff.mp ha).2 hown

theorem aliases_built_kept (h : (config.aliases.map StaticAlias.identifier).Nodup) :
    (built { config with aliases := kept config }).aliases = (built config).aliases := by
  have hsublist : ((kept config).map StaticAlias.identifier).Nodup :=
    h.sublist (List.filter_sublist.map StaticAlias.identifier)
  have hkept : kept { config with aliases := kept config } = kept config := by
    simp [kept]
  rw [aliases_built h, aliases_built hsublist, hkept]

end

/-- The context that is made for an alias from a text, or from nothing. -/
def contextFor (identifier : String) : Option String → Except DecodeError Datum
  | none => .ok ⟨.unit, ()⟩
  | some raw =>
    if identifier = "product" then
      (Scalar.u64.decode raw).map fun number => ⟨.scalar .u64, number⟩
    else .ok ⟨.text, raw⟩

/-- The router is asked once there is a context, and only then. -/
theorem resolveAlias_eq_map (router : Router .text) (identifier : String) (context : Option String) :
    resolveAlias router identifier context =
      (contextFor identifier context).map fun datum => (router.resolveAlias identifier datum).result := by
  cases context with
  | none => rfl
  | some raw =>
    unfold resolveAlias contextFor
    dsimp only
    split
    · cases Scalar.u64.decode raw with
      | ok number => rfl
      | error e => rfl
    · rfl

theorem contextFor_product (raw : String) :
    contextFor "product" (some raw) =
      (Scalar.u64.decode raw).map fun number => ⟨.scalar .u64, number⟩ := rfl

theorem contextFor_of_ne_product {identifier : String} (hne : identifier ≠ "product") (raw : String) :
    contextFor identifier (some raw) = .ok ⟨.text, raw⟩ := if_neg hne

theorem exists_contextFor {identifier : String} (hne : identifier ≠ "product")
    (context : Option String) : ∃ datum, contextFor identifier context = .ok datum := by
  cases context with
  | none => exact ⟨_, rfl⟩
  | some raw => exact ⟨_, contextFor_of_ne_product hne raw⟩

section
variable {router : Router .text} {identifier : String} {context : Option String} {datum : Datum}
  {runs : Trace}

theorem resolveAlias_of_contextFor (h : contextFor identifier context = .ok datum) :
    resolveAlias router identifier context = .ok (router.resolveAlias identifier datum).result := by
  rw [resolveAlias_eq_map, h]
  rfl

theorem resolveAlias_of_applied (h : contextFor identifier context = .ok datum) {target : Path}
    (happlied : router.applyAlias identifier datum = ⟨.ok target, runs⟩) :
    resolveAlias router identifier context = .ok (router.resolve target).result := by
  rw [resolveAlias_of_contextFor h, (Router.resolveAlias_of_applied happlied).1]

theorem resolveAlias_of_not_applied (h : contextFor identifier context = .ok datum)
    {error : RouteError} (happlied : router.applyAlias identifier datum = ⟨.error error, runs⟩) :
    resolveAlias router identifier context = .ok (.error error) := by
  rw [resolveAlias_of_contextFor h, (Router.resolveAlias_of_not_applied happlied).1]
  rfl

end

section
variable {config : Config} {context : Option String}

theorem resolveAlias_of_unknown {identifier : String}
    (hconfigured : identifier ∉ config.aliases.map StaticAlias.identifier)
    (hown : identifier ∉ ownIdentifiers) (context : Option String) :
    resolveAlias (built config) identifier context = .ok (.error (.aliasNotFound identifier)) := by
  have hne : identifier ≠ "product" := by
    rintro rfl
    exact hown (by decide)
  obtain ⟨datum, hcontext⟩ := exists_contextFor hne context
  exact resolveAlias_of_not_applied hcontext
    (Router.applyAlias_of_unknown (findAlias?_unknown hconfigured hown) datum)

section
variable {e : AliasEntry} (he : e ∈ aliases) {value : e.handle.context.Value}
include he

theorem resolveAlias_of_mismatch {datum : Datum}
    (hcontext : contextFor e.identifier context = .ok datum)
    (htype : e.handle.context ≠ datum.type) :
    resolveAlias (built config) e.identifier context =
      .ok (.error (.aliasContextMismatch e.identifier e.handle.context.name)) :=
  resolveAlias_of_not_applied hcontext
    (Router.applyAlias_of_type_ne (findAlias?_own config he) htype)

theorem resolveAlias_of_refused
    (hcontext : contextFor e.identifier context = .ok ⟨e.handle.context, value⟩)
    (hrule : e.rule value = none) :
    resolveAlias (built config) e.identifier context =
      .ok (.error (.aliasContextRejected e.identifier)) :=
  resolveAlias_of_not_applied hcontext
    (Router.applyAlias_of_refused (findAlias?_own config he) hrule)

theorem resolveAlias_of_target {target : Path}
    (hcontext : contextFor e.identifier context = .ok ⟨e.handle.context, value⟩)
    (hrule : e.rule value = some target) :
    resolveAlias (built config) e.identifier context =
      .ok ((built config).resolve target).result :=
  resolveAlias_of_applied hcontext
    (Router.applyAlias_of_accepted (findAlias?_own config he) hrule)

theorem resolveAlias_of_page {target : Path}
    (hcontext : contextFor e.identifier context = .ok ⟨e.handle.context, value⟩)
    (hrule : e.rule value = some target) {page : Page} (hpage : page.IsAt target.segments) :
    resolveAlias (built config) e.identifier context = .ok (.ok page.text) := by
  rw [resolveAlias_of_target he hcontext hrule, (resolve_of_isAt config hpage).1]
  rfl

end

theorem resolveAlias_of_mem_kept (h : config.validate = .ok ()) {a : StaticAlias}
    (ha : a ∈ kept config) :
    resolveAlias (built config) a.identifier none = .ok ((built config).resolve a.target).result ∧
      ∀ raw, resolveAlias (built config) a.identifier (some raw) =
        .ok (.error (.aliasContextMismatch a.identifier "()")) := by
  obtain ⟨hmem, hown⟩ := mem_kept_iff.mp ha
  obtain ⟨htarget, hmismatch⟩ := Router.resolveAlias_of_mem_config hmem h (ne_of_mem_kept ha)
  constructor
  · rw [built, ← htarget]
    exact resolveAlias_of_contextFor rfl
  · intro raw
    -- Only the catalog's own product alias reads the text, so this one gets it as it is.
    have hne : a.identifier ≠ "product" := fun hsame => hown (hsame ▸ by decide)
    rw [resolveAlias_of_contextFor (contextFor_of_ne_product hne raw), built,
      hmismatch ⟨.text, raw⟩ (show DataType.text ≠ .unit by decide)]
    rfl

end

variable (config : Config)

theorem resolveAlias_home :
    resolveAlias (built config) "home" none = .ok (.ok "Welcome to the catalog") := by
  have hpage : Page.home.IsAt (Path.ofText "home").segments := rfl
  exact @resolveAlias_of_page config none homeAlias (by simp [aliases]) () _ rfl rfl .home hpage

theorem resolveAlias_product {raw : String} {number : Scalar.u64.Value}
    (h : Scalar.u64.decode raw = .ok number) :
    resolveAlias (built config) "product" (some raw) =
      .ok (.ok ("Product details for #" ++ Scalar.u64.encode number)) := by
  have hcontext : contextFor productAlias.identifier (some raw) = .ok ⟨.scalar .u64, number⟩ := by
    show contextFor "product" (some raw) = _
    rw [contextFor_product, h]
    rfl
  have hwritten : pieces (Scalar.u64.encode number) = [Scalar.u64.encode number] :=
    pieces_of_isSegment (Numeral.Integer.isSegment_digits number)
  have hpage : (Page.details number).IsAt
      ((Path.ofText "product/details").join (Scalar.u64.encode number)).segments := by
    refine ⟨Scalar.u64.encode number, ?_, Scalar.decode_encode (t := .u64) trivial number⟩
    rw [Path.segments_join, hwritten]
    rfl
  exact resolveAlias_of_page (by simp [aliases]) hcontext rfl hpage

theorem length_of_isAt {page : Page} {segments : List String} (h : page.IsAt segments) :
    segments.length = 1 ∨ segments.length = 3 := by
  cases page with
  | home => exact Or.inl (congrArg List.length h)
  | listing category number =>
    obtain ⟨-, piece, hsegments, -⟩ := h
    exact Or.inr (congrArg List.length hsegments)
  | details number =>
    obtain ⟨piece, hsegments, -⟩ := h
    exact Or.inr (congrArg List.length hsegments)
  | notifications enabled => cases enabled <;> exact Or.inr (congrArg List.length h)

/-- The path to the first page of a category, whatever its name holds. -/
def firstPage (category : String) : Path where
  segments := "product" :: pieces category ++ ["1"]
  isSegment := by
    intro s hs
    rcases List.mem_append.mp hs with hs | hs
    · rcases List.mem_cons.mp hs with rfl | hs
      · decide
      · exact isSegment_of_mem_pieces hs
    · rw [List.mem_singleton.mp hs]
      decide

/-- What is answered for the first page of a category: its products only if the name is one segment,
and not the one that stands for the details of a product. -/
def firstPageAnswer (category : String) : Except RouteError String :=
  if category = "" then .error (.aliasContextRejected "category")
  else match pieces category with
    | [name] =>
      if name = "details" then .ok "Product details for #1"
      else .ok ("Products in '" ++ name ++ "', page 1")
    | _ => .error (.noRouteMatched (firstPage category))

theorem rule_categoryAlias {category : String} (h : category ≠ "") :
    categoryAlias.rule category = some (firstPage category) := by
  refine (if_neg h).trans (congrArg some ?_)
  rw [Path.eq_iff_segments]
  rfl

theorem segments_firstPage_of_single {category name : String} (h : pieces category = [name]) :
    (firstPage category).segments = ["product", name, "1"] := by
  show "product" :: pieces category ++ ["1"] = _
  rw [h]
  rfl

theorem exists_integer_one (kind : IntKind) : ∃ number : (Scalar.int kind).Value,
    (Scalar.int kind).decode "1" = .ok number ∧ (Scalar.int kind).encode number = "1" := by
  obtain ⟨signed, width⟩ := kind
  cases signed <;> cases width <;> exact ⟨⟨1, by decide, by decide⟩, rfl, by decide⟩

theorem resolve_firstPage_of_details {category : String} (h : pieces category = ["details"]) :
    ((built config).resolve (firstPage category)).result = .ok ("Product details for #1" : String) := by
  obtain ⟨number, hdecode, hwritten⟩ := exists_integer_one ⟨false, .w64⟩
  have hpage : (Page.details number).IsAt (firstPage category).segments :=
    ⟨"1", segments_firstPage_of_single h, hdecode⟩
  have htext : (Page.details number).text = "Product details for #" ++ "1" :=
    congrArg ("Product details for #" ++ ·) hwritten
  rw [(resolve_of_isAt config hpage).1, htext]
  rfl

theorem resolve_firstPage_of_ne_details {category name : String} (h : pieces category = [name])
    (hne : name ≠ "details") :
    ((built config).resolve (firstPage category)).result =
      .ok ("Products in '" ++ name ++ "', page 1" : String) := by
  obtain ⟨number, hdecode, hwritten⟩ := exists_integer_one ⟨false, .w32⟩
  have hpage : (Page.listing name number).IsAt (firstPage category).segments :=
    ⟨hne, "1", segments_firstPage_of_single h, hdecode⟩
  have htext : (Page.listing name number).text = "Products in '" ++ name ++ "', page " ++ "1" :=
    congrArg ("Products in '" ++ name ++ "', page " ++ ·) hwritten
  rw [(resolve_of_isAt config hpage).1, htext, String.append_assoc]
  rfl

theorem resolve_firstPage_of_length_ne {category : String} (h : (pieces category).length ≠ 1) :
    ((built config).resolve (firstPage category)).result =
      .error (.noRouteMatched (firstPage category)) := by
  have hnone : ∀ page : Page, ¬page.IsAt (firstPage category).segments := by
    intro page hpage
    have hlength : (firstPage category).segments.length = (pieces category).length + 2 := by
      simp [firstPage]
    have hpages := length_of_isAt hpage
    omega
  exact (resolve_of_not_isAt config hnone).1

theorem result_resolve_firstPage {category : String} (h : category ≠ "") :
    ((built config).resolve (firstPage category)).result = firstPageAnswer category := by
  rw [firstPageAnswer, if_neg h]
  split
  · rename_i name hpieces
    split
    · rename_i hdetails
      subst hdetails
      exact resolve_firstPage_of_details config hpieces
    · rename_i hne
      exact resolve_firstPage_of_ne_details config hpieces hne
  · rename_i hmany
    apply resolve_firstPage_of_length_ne
    intro hlength
    obtain ⟨name, hname⟩ := List.length_eq_one_iff.mp hlength
    exact hmany name hname

theorem resolveAlias_category (category : String) :
    resolveAlias (built config) "category" (some category) = .ok (firstPageAnswer category) := by
  have hmem : categoryAlias ∈ aliases := by simp [aliases]
  have hcontext : contextFor categoryAlias.identifier (some category) = .ok ⟨.text, category⟩ := rfl
  by_cases hempty : category = ""
  · rw [firstPageAnswer, if_pos hempty]
    exact resolveAlias_of_refused hmem hcontext (if_pos hempty)
  · have htarget := @resolveAlias_of_target config _ _ hmem _ _ hcontext (rule_categoryAlias hempty)
    rw [result_resolve_firstPage config hempty] at htarget
    exact htarget

/-- Whatever the settings are, the category alias is answered by the pieces of its context. -/
theorem category_alias_shows_the_first_page (config : Config) (category : String) :
    ∃ catalog, router config = .ok catalog ∧
      resolveAlias catalog "category" (some category) = .ok (firstPageAnswer category) ∧
      (catalog.resolveAlias "category" ⟨.text, category⟩).result = firstPageAnswer category := by
  have hanswer := resolveAlias_category config category
  refine ⟨built config, router_eq_ok config, hanswer, ?_⟩
  rw [resolveAlias_of_contextFor (contextFor_of_ne_product (by decide) category)] at hanswer
  exact Except.ok.inj hanswer

example : ["", "//", "/toys/", "details", "a/b"].map firstPageAnswer =
    [.error (.aliasContextRejected "category"), .error (.noRouteMatched (.ofText "product/1")),
      .ok "Products in 'toys', page 1", .ok "Product details for #1",
      .error (.noRouteMatched (.ofText "product/a/b/1"))] := by rfl

end PathRouting.Catalog
