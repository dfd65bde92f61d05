import PathRouting.CommandLine.Report
import PathRouting.Proofs.CatalogAliases

/-!
# Asking for aliases on the command line

A configured alias and its target can be asked for with the same words but two, and are reported in
the same way. The catalog's own aliases are asked for in the contexts that they expect, or not at all.
-/

namespace PathRouting
set_option autoImplicit false

namespace CommandLine

/-- The words choose a configuration file: what follows is read as if it were chosen already. -/
def Chooses (before : List String) (file : String) : Prop :=
  ∀ rest, readFrom none (before ++ rest) = readFrom (some file) rest

/-- The words give one operand: it stands alone if it does not look like an option, and otherwise
after the mark that ends the options. -/
inductive Gives : List String → String → Prop
  | plain {operand : String} (h : Word.classify operand = .plain) : Gives [operand] operand
  | marked (operand : String) : Gives ["--", operand] operand

theorem classify_config (file : String) :
    Word.classify ("--config=" ++ file) = .named "config" (some file) := by
  simp [Word.classify, Word.ofName]

theorem chooses_named {file : String} (h : file ≠ "") : Chooses ["--config=" ++ file] file := by
  intro rest
  have haccepted : acceptFile none file = .ok (some file) := if_neg h
  rw [List.singleton_append, readFrom.eq_def]
  simp only [classify_config, fileOption?, haccepted]

theorem operands_of_gives {words : List String} {operand : String} (h : Gives words operand)
    (listing : Bool) (room : Nat) (json : Bool) :
    operands listing (room + 1) json words = .ok ⟨[operand], json⟩ := by
  cases h with
  | plain h =>
    rw [operands, h]
    rfl
  | marked operand =>
    have hmark : Word.classify "--" = .mark := by decide
    have hroom : [operand].drop (room + 1) = [] := by simp
    simp only [operands, hmark, hroom]

theorem read_resolve {words : List String} {path : String} (h : Gives words path) :
    Command.read "resolve" words = .ok (.resolve path) := by
  show operandCommand 1 "path" (fun path _ => .resolve path) words = _
  rw [operandCommand, operands_of_gives h]

theorem read_alias {words : List String} {identifier : String} (h : Gives words identifier) :
    Command.read "alias" words = .ok (.resolveAlias identifier none) := by
  show operandCommand 2 "identifier" .resolveAlias words = _
  rw [operandCommand, operands_of_gives h]
  rfl

theorem request_of_chooses {before words : List String} {file name : String} {command : Command}
    (hbefore : Chooses before file) (hname : Word.classify name = .plain)
    (hcommand : Command.read name words = .ok command) :
    Request.read (before ++ name :: words) = .ok ⟨some file, command⟩ := by
  have hoption : fileOption? .plain = none := rfl
  rw [Request.read, hbefore, readFrom.eq_def]
  simp only [hname, hoption, readCommand, hcommand]
  rfl

namespace Report

theorem ofResult_congr {router other : Router .text} (hroutes : router.routes = other.routes)
    (haliases : router.aliases = other.aliases) (result : Except RouteError String) :
    ofResult router result = ofResult other result := by
  cases result with
  | ok page => rfl
  | error e =>
    simp only [ofResult, notFound, Router.describeRoutes, Router.describeAliases, hroutes, haliases]

/-- A report depends on the routes and the aliases, and not on the settings they came from. -/
theorem ofCommand_congr {router other : Router .text} (hroutes : router.routes = other.routes)
    (haliases : router.aliases = other.aliases) (command : Command) :
    ofCommand router command = ofCommand other command := by
  cases command with
  | resolve path =>
    have hresult : (router.resolve (.ofText path)).result = (other.resolve (.ofText path)).result := by
      simp only [Router.resolve, hroutes]
    rw [ofCommand, ofCommand, hresult]
    exact ofResult_congr hroutes haliases _
  | resolveAlias identifier context =>
    have hfound : router.findAlias? identifier = other.findAlias? identifier := by
      rw [Router.findAlias?, Router.findAlias?, haliases]
    have hresult : Catalog.resolveAlias router identifier context =
        Catalog.resolveAlias other identifier context := by
      simp only [Catalog.resolveAlias_eq_map, Router.result_resolveAlias_congr hroutes hfound]
      rfl
    simp only [ofCommand, hresult, ofResult_congr hroutes haliases]
  | routes json => simp only [ofCommand, Router.describeRoutes, hroutes]
  | aliases json => simp only [ofCommand, Router.describeAliases, haliases]

theorem ofConfig_ok (command : Command) (config : Config) :
    ofConfig command (.ok config) = ofCommand (Catalog.built config) command := by
  rw [ofConfig, Catalog.router_eq_ok]

theorem ofRequest_of_load {config : Config} {file : String} {command : Command}
    {content : String → Except Files.ReadFault ByteArray}
    (h : Config.load (content file) = .ok config) :
    ofRequest ⟨some file, command⟩ content = ofCommand (Catalog.built config) command := by
  simp only [ofRequest, h, ofConfig_ok]

end Report

end CommandLine

namespace Catalog
open CommandLine

theorem ofCommand_built_kept {config : Config} (h : config.validate = .ok ()) (command : Command) :
    Report.ofCommand (built { config with aliases := kept config }) command =
      Report.ofCommand (built config) command := by
  apply Report.ofCommand_congr
  · rw [routes_built, routes_built]
  · exact aliases_built_kept (Config.nodup_of_validate h)

theorem ofCommand_of_mem_kept {config : Config} (h : config.validate = .ok ()) {a : StaticAlias}
    (ha : a ∈ kept config) {target : String} (htarget : .ofText target = a.target) :
    Report.ofCommand (built config) (.resolveAlias a.identifier none) =
      Report.ofCommand (built config) (.resolve target) := by
  have hresult := (resolveAlias_of_mem_kept h ha).1
  simp only [Report.ofCommand, hresult, htarget]

theorem describeAliases_built {config : Config} (h : config.validate = .ok ()) :
    (built config).describeAliases =
      (kept config).map (fun a => "Alias<()>('" ++ a.identifier ++ "')") ++
        ["Alias<()>('home')", "Alias<u64>('product')", "Alias<String>('category')"] := by
  have hown : aliases.map AliasEntry.describe =
      ["Alias<()>('home')", "Alias<u64>('product')", "Alias<String>('category')"] := by decide
  rw [Router.describeAliases, aliases_built (Config.nodup_of_validate h), List.map_append,
    StaticAlias.map_describe_entry, hown]

/-- For checked settings, a configured alias under one of the catalog's own identifiers could as well
be left out, and every other one is reported as its target is. -/
theorem configured_aliases_yield_to_own {config : Config} (h : config.validate = .ok ()) :
    ∃ catalog, router config = .ok catalog ∧
    catalog.aliases.map AliasEntry.identifier =
      (kept config).map StaticAlias.identifier ++ ["home", "product", "category"] ∧
    catalog.describeAliases =
      (kept config).map (fun a => "Alias<()>('" ++ a.identifier ++ "')") ++
        ["Alias<()>('home')", "Alias<u64>('product')", "Alias<String>('category')"] ∧
    (∀ command, Report.ofConfig command (.ok config) = Report.ofCommand catalog command ∧
      Report.ofConfig command (.ok { config with aliases := kept config }) =
        Report.ofCommand catalog command) ∧
    (∀ (other : Router .text) (identifier : String) (context : Option String),
      resolveAlias other identifier context = (contextFor identifier context).map fun datum =>
        (other.resolveAlias identifier datum).result) ∧
    (∀ a ∈ kept config,
      resolveAlias catalog a.identifier none = .ok (catalog.resolve a.target).result ∧
      (∀ raw, resolveAlias catalog a.identifier (some raw) =
        .ok (.error (.aliasContextMismatch a.identifier "()"))) ∧
      ∀ (file : String) (content : String → Except Files.ReadFault ByteArray),
        Config.load (content file) = .ok config →
        ∀ before words target targetWords, Chooses before file → Gives words a.identifier →
          Gives targetWords target → .ofText target = a.target →
          ∃ request other,
            Request.read (before ++ "alias" :: words) = .ok request ∧
            Request.read (before ++ "resolve" :: targetWords) = .ok other ∧
            Report.ofRequest request content = Report.ofRequest other content) ∧
    resolveAlias catalog "home" none = .ok (.ok "Welcome to the catalog") ∧
    (∀ raw, resolveAlias catalog "home" (some raw) =
      .ok (.error (.aliasContextMismatch "home" "()"))) ∧
    resolveAlias catalog "product" none =
      .ok (.error (.aliasContextMismatch "product" "u64")) ∧
    resolveAlias catalog "category" none =
      .ok (.error (.aliasContextMismatch "category" "String")) ∧
    (∀ raw number, Scalar.u64.decode raw = .ok number →
      resolveAlias catalog "product" (some raw) =
        .ok (.ok ("Product details for #" ++ Scalar.u64.encode number))) ∧
    (∀ raw e, Scalar.u64.decode raw = .error e →
      contextFor "product" (some raw) = .error e ∧
        resolveAlias catalog "product" (some raw) = .error e) ∧
    ∀ identifier, identifier ∉ config.aliases.map StaticAlias.identifier →
      identifier ∉ ownIdentifiers → ∀ context,
        resolveAlias catalog identifier context = .ok (.error (.aliasNotFound identifier)) := by
  refine ⟨built config, router_eq_ok config, ?identifiers, describeAliases_built h, ?reports,
    resolveAlias_eq_map, ?kept, resolveAlias_home config, ?home, ?product, ?category,
    fun _ _ => resolveAlias_product config, ?undecoded,
    fun _ hconfigured hown => resolveAlias_of_unknown hconfigured hown⟩
  case identifiers =>
    rw [aliases_built (Config.nodup_of_validate h), List.map_append,
      StaticAlias.map_identifier_entry]
    rfl
  case reports =>
    intro command
    refine ⟨Report.ofConfig_ok command config, ?_⟩
    rw [Report.ofConfig_ok, ofCommand_built_kept h]
  case kept =>
    intro a ha
    obtain ⟨htarget, hmismatch⟩ := resolveAlias_of_mem_kept h ha
    refine ⟨htarget, hmismatch, ?_⟩
    intro file content hload before words target targetWords hbefore hwords htargetWords hsame
    refine ⟨_, _, request_of_chooses hbefore (by decide) (read_alias hwords),
      request_of_chooses hbefore (by decide) (read_resolve htargetWords), ?_⟩
    rw [Report.ofRequest_of_load hload, Report.ofRequest_of_load hload,
      ofCommand_of_mem_kept h ha hsame]
  case home =>
    intro raw
    exact resolveAlias_of_mismatch (e := homeAlias) (by simp [aliases]) rfl
      (show DataType.unit ≠ .text by decide)
  case product =>
    exact resolveAlias_of_mismatch (e := productAlias) (by simp [aliases]) rfl
      (show DataType.scalar .u64 ≠ .unit by decide)
  case category =>
    exact resolveAlias_of_mismatch (e := categoryAlias) (by simp [aliases]) rfl
      (show DataType.text ≠ .unit by decide)
  case undecoded =>
    intro raw e herror
    have hcontext : contextFor "product" (some raw) = .error e := by
      rw [contextFor_product, herror]
      rfl
    refine ⟨hcontext, ?_⟩
    rw [resolveAlias_eq_map, hcontext]
    rfl

theorem eq_ok_of_toOption {ε α : Type} {x : Except ε α} {a : α} (h : x.toOption = some a) :
    x = .ok a := by
  cases x with
  | error e => cases h
  | ok b =>
    cases h
    rfl

theorem load_toUTF8 (document : String) :
    Config.load (.ok document.toUTF8) = Config.parse document := by
  have hdecoded : String.fromUTF8? document.toUTF8 = some document := by
    rw [String.fromUTF8?, String.toUTF8_eq_toByteArray, dif_pos document.isValidUTF8]
    rfl
  rw [Config.load, hdecoded]

theorem exists_content_with_home : ∃ content : Except Files.ReadFault ByteArray,
    Config.load content = .ok
      { aliases := [⟨"start", .ofText "home"⟩, ⟨"home", .ofText "product/details/1"⟩] } := by
  refine ⟨.ok ("[[aliases]]\nidentifier = \"start\"\ntarget = \"/home/\"\n" ++
    "[[aliases]]\nidentifier = \"home\"\ntarget = \"product/details/1\"\n").toUTF8, ?_⟩
  rw [load_toUTF8]
  apply eq_ok_of_toOption
  decide +kernel

/-- Settings with a second name for the home page, and with an alias under its first one, which is
never used. -/
theorem configured_aliases_yield_to_own_start :
    ∃ config catalog, config.validate = .ok () ∧ router config = .ok catalog ∧
      catalog.describeAliases =
        ["Alias<()>('start')", "Alias<()>('home')", "Alias<u64>('product')",
          "Alias<String>('category')"] ∧
      resolveAlias catalog "start" (some "1") =
        .ok (.error (.aliasContextMismatch "start" "()")) ∧
      resolveAlias catalog "home" none = .ok (.ok "Welcome to the catalog") ∧
      resolveAlias catalog "product" (some "+07") = .ok (.ok "Product details for #7") ∧
      resolveAlias catalog "settings" none = .ok (.error (.aliasNotFound "settings")) ∧
      ∃ (content : String → Except Files.ReadFault ByteArray) (request other : Request),
        Config.load (content "router.toml") = .ok config ∧
        Request.read ["--config=router.toml", "alias", "start"] = .ok request ∧
        Request.read ["--config=router.toml", "resolve", "--", "/home/"] = .ok other ∧
        Report.ofRequest request content = Report.ofRequest other content := by
  let seven : Scalar.u64.Value := (⟨7, by decide, by decide⟩ : Numeral.Integer _)
  have hseven : "Product details for #" ++ Scalar.u64.encode seven = "Product details for #7" := by
    decide
  have hbefore : Chooses ["--config=router.toml"] "router.toml" :=
    show Chooses ["--config=" ++ "router.toml"] "router.toml" from chooses_named (by decide)
  obtain ⟨content, hload⟩ := exists_content_with_home
  obtain ⟨_, hrouter, -, hlisted, -, -, hkept, hhome, -, -, -, hproduct, -, hunknown⟩ :=
    @configured_aliases_yield_to_own
      { aliases := [⟨"start", .ofText "home"⟩, ⟨"home", .ofText "product/details/1"⟩] } rfl
  obtain ⟨-, hmismatch, hreports⟩ := hkept ⟨"start", .ofText "home"⟩ (by decide)
  obtain ⟨request, other, hrequest, hother, hsame⟩ :=
    hreports "router.toml" (fun _ => content) hload _ ["start"] "/home/" ["--", "/home/"] hbefore
      (.plain (by decide)) (.marked _) rfl
  refine ⟨_, _, rfl, hrouter, hlisted, hmismatch "1", hhome, ?_,
    hunknown "settings" (by decide) (by decide) none, fun _ => content, request, other, hload,
    hrequest, hother, hsame⟩
  rw [hproduct "+07" seven rfl, hseven]

end Catalog

end PathRouting
