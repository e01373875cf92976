import ComponentAssembly.Text.Blank
import ComponentAssembly.Text.Digit
import ComponentAssembly.Text.Identifier
import ComponentAssembly.Text.LowerCase
import ComponentAssembly.Text.Quoted
import ComponentAssembly.Numeral.Binary
import ComponentAssembly.Numeral.Decimal
import ComponentAssembly.Numeral.Integer
import ComponentAssembly.Numeral.Shortest
import ComponentAssembly.Markup.Element
import ComponentAssembly.Markup.Name
import ComponentAssembly.Markup.Reference
import ComponentAssembly.Markup.Encoding
import ComponentAssembly.Markup.Source
import ComponentAssembly.Markup.Declaration
import ComponentAssembly.Markup.DocumentType
import ComponentAssembly.Markup.Token
import ComponentAssembly.Markup.Tree
import ComponentAssembly.ErrorKind
import ComponentAssembly.World.Value
import ComponentAssembly.World.TypeExpr
import ComponentAssembly.World.Signature
import ComponentAssembly.World.Declaration
import ComponentAssembly.World.Lineage
import ComponentAssembly.World.Capability
import ComponentAssembly.Failure
import ComponentAssembly.Failure.Message
import ComponentAssembly.Parameter.Conversion
import ComponentAssembly.Parameter.Naming
import ComponentAssembly.Parameter.Section
import ComponentAssembly.Parameter.Settings
import ComponentAssembly.Build.State
import ComponentAssembly.Parameter.Acceptance
import ComponentAssembly.Build.Construction
import ComponentAssembly.Build.Activation
import ComponentAssembly.Build.Assignment
import ComponentAssembly.World.Import
import ComponentAssembly.Build.Assembly
import ComponentAssembly.Session
import ComponentAssembly.Proofs.Assigning
import ComponentAssembly.Proofs.Reading
import ComponentAssembly.Proofs.SectionPrefix
import ComponentAssembly.Proofs.Checking
import ComponentAssembly.Proofs.Activating
import ComponentAssembly.Proofs.Making
import ComponentAssembly.Proofs.Completing
import ComponentAssembly.Proofs.Staging
import ComponentAssembly.Proofs.Life
import ComponentAssembly.Proofs.LifeOrder
import ComponentAssembly.Proofs.Inhabiting
import ComponentAssembly.Proofs.Admitting
import ComponentAssembly.Proofs.Remembering
import ComponentAssembly.Proofs.SettingUp
import ComponentAssembly.Proofs.Numbering
import ComponentAssembly.Proofs.Following
import ComponentAssembly.Proofs.MakingAbove
import ComponentAssembly.Proofs.Repeating
import ComponentAssembly.Proofs.Isolation
import ComponentAssembly.Proofs.Agreeing
import ComponentAssembly.Proofs.LookingUp
import ComponentAssembly.Proofs.Refusing
import ComponentAssembly.Proofs.Relabelling
import ComponentAssembly.Proofs.Shadowing
import ComponentAssembly.Proofs.Loading
import ComponentAssembly.Proofs.Remarks
import ComponentAssembly.Proofs.Reconfiguring
import ComponentAssembly.Proofs.Calling
import ComponentAssembly.Proofs.Classifying
import ComponentAssembly.Proofs.Treating
import ComponentAssembly.Proofs.Accepting
import ComponentAssembly.Proofs.Quoting
import ComponentAssembly.Proofs.RoundingOrder
import ComponentAssembly.Proofs.RoundingNearest
import ComponentAssembly.Proofs.Spelling
import ComponentAssembly.Proofs.ReadingNumerals
import ComponentAssembly.Proofs.Overflowing
import ComponentAssembly.Proofs.Narrowing
import ComponentAssembly.Proofs.ReadingIntegers
import ComponentAssembly.Proofs.Widening
import ComponentAssembly.Proofs.LowerCase
import ComponentAssembly.Proofs.SpellingNames
import ComponentAssembly.Proofs.Lowering
import ComponentAssembly.Proofs.Naming
import ComponentAssembly.Proofs.Binding
import ComponentAssembly.Proofs.Constructing
import ComponentAssembly.Proofs.Preparing
import ComponentAssembly.Proofs.Entering
import ComponentAssembly.Proofs.ReadingFlags
import ComponentAssembly.Proofs.Receiving
