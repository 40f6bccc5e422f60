import StateHolders.Main
import StateHolders.Proofs.CommandLine.Precedence
import StateHolders.Proofs.CommandLine.Status
import StateHolders.Proofs.Config.Refusals
import StateHolders.Proofs.Declaration.RoundTrip
import StateHolders.Proofs.Diagnostic.Color
import StateHolders.Proofs.Generation.Containment
import StateHolders.Proofs.Generation.Independence
import StateHolders.Proofs.Generation.Injection
import StateHolders.Proofs.Generation.Interchange
import StateHolders.Proofs.Generation.Keywords
import StateHolders.Proofs.Generation.OutputPaths
import StateHolders.Proofs.Generation.Prediction
import StateHolders.Proofs.Holder.MarkerOrder
import StateHolders.Proofs.Holder.NameOrder
import StateHolders.Proofs.Input.Directory
import StateHolders.Proofs.Saver.SaveMap
import StateHolders.Proofs.Saver.Search
import StateHolders.Proofs.Source.Literal
import StateHolders.Proofs.Source.StableText
import StateHolders.Proofs.Store.Failure
import StateHolders.Proofs.Store.LastWrite
import StateHolders.Proofs.TypeExpr.Offsets
