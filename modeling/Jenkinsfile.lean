import Jenkinsfile.Parse.Loose
import Jenkinsfile.Edit
import Jenkinsfile.Main
import Jenkinsfile.Proofs.SolidLines
import Jenkinsfile.Proofs.Classify
import Jenkinsfile.Proofs.Entry
import Jenkinsfile.Proofs.Brackets
import Jenkinsfile.Proofs.Building
import Jenkinsfile.Proofs.NothingLost
import Jenkinsfile.Proofs.CanonicalTree
import Jenkinsfile.Proofs.ParsedTree
import Jenkinsfile.Proofs.Written
import Jenkinsfile.Proofs.RoundTrip
import Jenkinsfile.Proofs.StageInsertion
import Jenkinsfile.Proofs.StageSearch
import Jenkinsfile.Proofs.LoneBrackets
import Jenkinsfile.Proofs.LineNumbers
import Jenkinsfile.Proofs.Recoveries
import Jenkinsfile.Proofs.LooseReading
import Jenkinsfile.Proofs.Verdict
import Jenkinsfile.Proofs.Layout
import Jenkinsfile.Proofs.TreeGrammar
import Jenkinsfile.Proofs.TreeImport
import Jenkinsfile.Proofs.TreeExport
import Jenkinsfile.Proofs.SettledTree
import Jenkinsfile.Proofs.Concatenation
import Jenkinsfile.Proofs.InsertionContract
import Jenkinsfile.Proofs.EditingSession
import Jenkinsfile.Proofs.RunOutcome
import Jenkinsfile.Proofs.PrintedHash
import Jenkinsfile.Proofs.RunEffects
import Jenkinsfile.Proofs.LineSpan
import Jenkinsfile.Proofs.SearchAfterInsertion
import Jenkinsfile.Proofs.InsertedText
import Jenkinsfile.Proofs.WrittenLayout
import Jenkinsfile.Proofs.IndependentInsertions
import Jenkinsfile.Proofs.StepReading
import Jenkinsfile.Proofs.OneLineScript
import Jenkinsfile.Proofs.OpenScripts
import Jenkinsfile.Proofs.ProblemPlaces
