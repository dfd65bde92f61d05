import PathRouting.Files.Disk
import PathRouting.Main
import PathRouting.Proofs.Acceptance
import PathRouting.Proofs.AliasCommands
import PathRouting.Proofs.AliasTable
import PathRouting.Proofs.CanonicalPath
import PathRouting.Proofs.CatalogAliases
import PathRouting.Proofs.CatalogAnswers
import PathRouting.Proofs.CatalogRoutes
import PathRouting.Proofs.ConfigData
import PathRouting.Proofs.ConfigFaults
import PathRouting.Proofs.EventBlocks
import PathRouting.Proofs.EventKinds
import PathRouting.Proofs.FailureReports
import PathRouting.Proofs.FirstOffence
import PathRouting.Proofs.IntegerText
import PathRouting.Proofs.MatchPrecedence
import PathRouting.Proofs.NumeralText
import PathRouting.Proofs.ObserverIndependence
import PathRouting.Proofs.PathAlgebra
import PathRouting.Proofs.PathText
import PathRouting.Proofs.RegistrationOrder
import PathRouting.Proofs.ResolutionEvents
import PathRouting.Proofs.ResolutionMetrics
import PathRouting.Proofs.ReverseRouting
import PathRouting.Proofs.RouteOverlap
import PathRouting.Proofs.RouteScan
import PathRouting.Proofs.RouterRuns
import PathRouting.Proofs.ScalarText
import PathRouting.Proofs.ScanLog
import PathRouting.Proofs.SettingsIndependence
import PathRouting.Proofs.ShortNames
import PathRouting.Proofs.StaticAliases
import PathRouting.Proofs.TemplateInvariant
import PathRouting.Proofs.TemplateSteps
import PathRouting.Proofs.TemplateText
import PathRouting.Proofs.Translation
import PathRouting.Router.Probe
import PathRouting.Router.Session
import PathRouting.Template.Filling
