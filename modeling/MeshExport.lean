import MeshExport.Json.Reader
import MeshExport.Json.Writer
import MeshExport.Main
import MeshExport.Proofs.CommandLine.Fallback
import MeshExport.Proofs.Controller.Counting
import MeshExport.Proofs.Controller.Delivery
import MeshExport.Proofs.Controller.Interleaving
import MeshExport.Proofs.Controller.Malformed
import MeshExport.Proofs.Controller.Policies
import MeshExport.Proofs.Directory.Places
import MeshExport.Proofs.Directory.Tables
import MeshExport.Proofs.Exports.Flat
import MeshExport.Proofs.Exports.Reset
import MeshExport.Proofs.Feed.Mirror
import MeshExport.Proofs.Feed.Restart
import MeshExport.Proofs.Manifest.Grammar
import MeshExport.Proofs.Manifest.RoundTrip
import MeshExport.Proofs.Mesh.Alternation
import MeshExport.Proofs.Mesh.Isolation
import MeshExport.Proofs.Mesh.Sync
import MeshExport.Proofs.Mesh.Visibility
import MeshExport.Proofs.Mesh.Waking
import MeshExport.Proofs.Controller.Naming
