import DocStream.Main
import DocStream.Proofs.Denotation
import DocStream.Proofs.FirstFailure
import DocStream.Proofs.FirstHopeless
import DocStream.Proofs.FragmentReadback
import DocStream.Proofs.OpenPath
import DocStream.Proofs.Relaxation
import DocStream.Proofs.WikiMode
import DocStream.Proofs.ClassifiedLinks
import DocStream.Proofs.ContentModel
import DocStream.Proofs.JsonSteps
import DocStream.Proofs.RecordForm
import DocStream.Proofs.JsonLayout
import DocStream.Proofs.RecordReading
import DocStream.Proofs.JsonPrinting
import DocStream.Proofs.ReadHeight
import DocStream.Proofs.NestingLimit
import DocStream.Proofs.EventLines
import DocStream.Proofs.JsonReadback
import DocStream.Proofs.EventReadback
import DocStream.Proofs.SettingKeys
import DocStream.Proofs.Layering
import DocStream.Proofs.Precedence
import DocStream.Proofs.CommandRuns
import DocStream.Proofs.Repair
import DocStream.Proofs.Concatenation
import DocStream.Proofs.ParagraphRuns
import DocStream.Proofs.AnchorHeads
import DocStream.Proofs.BodyReading
import DocStream.Proofs.Unwrapping
import DocStream.Proofs.LinkVisits
import DocStream.Proofs.BlankText
import DocStream.Proofs.WhiteSpace
import DocStream.Proofs.LinkAddresses
import DocStream.Proofs.SecondPass
import DocStream.Proofs.PlainLines
import DocStream.Proofs.TextSeams
import DocStream.Proofs.BodyLines
import DocStream.Proofs.TreeBuilding
import DocStream.Proofs.TokenHandling
import DocStream.Proofs.TokenIntake
import DocStream.Proofs.LexedAttributes
import DocStream.Proofs.LexedEnding
import DocStream.Proofs.DocumentEnding
import DocStream.Proofs.HiddenEnding
