import Companion.Files.Disk
import Companion.Main
import Companion.Proofs.ArraySpelling
import Companion.Proofs.BaseReferences
import Companion.Proofs.BuilderHistory
import Companion.Proofs.BuilderState
import Companion.Proofs.ConstrainedParameters
import Companion.Proofs.Containment
import Companion.Proofs.DeclaredNames
import Companion.Proofs.Directives
import Companion.Proofs.DisposalPattern
import Companion.Proofs.Drift
import Companion.Proofs.ExpandedOnce
import Companion.Proofs.FinalizerChain
import Companion.Proofs.HashFolds
import Companion.Proofs.Independence
import Companion.Proofs.KeyPrediction
import Companion.Proofs.LifecycleCalls
import Companion.Proofs.ModelCodec
import Companion.Proofs.OptionItems
import Companion.Proofs.OptionalEntities
import Companion.Proofs.RearrangedModel
import Companion.Proofs.Rendering
import Companion.Proofs.ReportDocument
import Companion.Proofs.SourceName
import Companion.Proofs.Substitution
import Companion.Proofs.SupertypeOrder
import Companion.Proofs.TextLiteral
