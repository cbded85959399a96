import Stanza.Main
import Stanza.Proofs.Render.Conformance
import Stanza.Proofs.Render.Factoring
import Stanza.Proofs.Registry.Runs
import Stanza.Proofs.Registry.History
import Stanza.Proofs.Artifact.AllOrNone
import Stanza.Proofs.Text.Paragraphs
import Stanza.Proofs.Module.Stanzas
import Stanza.Proofs.Project.Claims
import Stanza.Proofs.Project.Schedules
import Stanza.Proofs.Project.Collisions
import Stanza.Proofs.Project.Texts
import Stanza.Proofs.Project.Manifests
import Stanza.Proofs.Project.Appending
import Stanza.Proofs.Project.Extending
import Stanza.Proofs.Command.Phases
import Stanza.Proofs.Files.Searching
import Stanza.Proofs.Artifact.Rewriting
import Stanza.Proofs.Command.Regeneration
import Stanza.Proofs.Registry.Reordering
import Stanza.Proofs.Render.FirstOffence
import Stanza.Proofs.Render.Nesting
import Stanza.Proofs.Document.Values
import Stanza.Proofs.Render.Alternatives
import Stanza.Proofs.Document.Modules
import Stanza.Proofs.Render.Layout
import Stanza.Proofs.Render.Acceptance
import Stanza.Proofs.Render.Flattening
import Stanza.Proofs.Render.Consultations
import Stanza.Proofs.Text.Escaping
import Stanza.Proofs.Render.Ending
import Stanza.Proofs.Render.Nulls
import Stanza.Proofs.Render.Routing
import Stanza.Proofs.Render.Quoting
import Stanza.Proofs.Render.Spellings
import Stanza.Proofs.Artifact.Convergence
import Stanza.Proofs.Registry.Providers
import Stanza.Proofs.Command.Listing
import Stanza.Proofs.Document.Schemas
import Stanza.Proofs.Module.Loading
import Stanza.Proofs.Schema.Composition
import Stanza.Proofs.Render.Shifting
