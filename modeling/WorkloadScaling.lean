import WorkloadScaling.ControlPlane.Scripted
import WorkloadScaling.Http.Routes
import WorkloadScaling.Main
import WorkloadScaling.Proofs.QuantityGrammar
import WorkloadScaling.Proofs.QuantityValue
import WorkloadScaling.Proofs.CapacityTotal
import WorkloadScaling.Proofs.ClientRun
import WorkloadScaling.Proofs.ResolvedKind
import WorkloadScaling.Proofs.PatchEndpoint
import WorkloadScaling.Proofs.CatalogSearch
import WorkloadScaling.Proofs.RecordedCalls
import WorkloadScaling.Proofs.TargetResolution
import WorkloadScaling.Proofs.Exchange
import WorkloadScaling.Proofs.CatalogCrawl
import WorkloadScaling.Proofs.ClientHistory
import WorkloadScaling.Proofs.PatchDocument
import WorkloadScaling.Proofs.ClientCalls
import WorkloadScaling.Proofs.FailurePhases
import WorkloadScaling.Proofs.QuantityRange
import WorkloadScaling.Proofs.PatchPath
import WorkloadScaling.Proofs.CapacityOrder
import WorkloadScaling.Proofs.CatalogFilter
import WorkloadScaling.Proofs.JsonRoundTrip
import WorkloadScaling.Proofs.UpdateCommand
import WorkloadScaling.Proofs.ReportText
import WorkloadScaling.Proofs.Keywords
import WorkloadScaling.Proofs.QuantityWords
import WorkloadScaling.Proofs.ResourcesText
import WorkloadScaling.Proofs.OptionWords
import WorkloadScaling.Proofs.SettingsPrecedence
