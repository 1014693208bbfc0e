import SourceLoader.Model.Config
import SourceLoader.Module.Loader
import SourceLoader.Observe.Logging
import SourceLoader.Proofs.Rings
import SourceLoader.Proofs.Order
import SourceLoader.Proofs.Bodies
import SourceLoader.Proofs.Complete
import SourceLoader.Proofs.Lowered
import SourceLoader.Proofs.Overlaps
import SourceLoader.Proofs.Acceptance
import SourceLoader.Proofs.Shadowing
import SourceLoader.Proofs.QueryTurns
import SourceLoader.Proofs.Artifacts
import SourceLoader.Proofs.Shifts
import SourceLoader.Proofs.Retained
import SourceLoader.Proofs.StarImport
import SourceLoader.Proofs.Renamed
import SourceLoader.Proofs.Declared
import SourceLoader.Proofs.RenamedLowered
import SourceLoader.Proofs.Marks.Atom
import SourceLoader.Proofs.Marks.Parameter
import SourceLoader.Proofs.Marks.Pattern
import SourceLoader.Proofs.Marks.Rules
import SourceLoader.Proofs.Resolving
import SourceLoader.Proofs.OwnLines
import SourceLoader.Proofs.ScriptMode
import SourceLoader.Proofs.RefusedPlaces
import SourceLoader.Proofs.Together
import SourceLoader.Proofs.Nests
import SourceLoader.Proofs.Digests
