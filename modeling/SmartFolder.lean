import SmartFolder.Document.Entry
import SmartFolder.Editor
import SmartFolder.Journal
import SmartFolder.Proofs.Canonical
import SmartFolder.Settings
import SmartFolder.Proofs.CanonicalPredicate
import SmartFolder.Proofs.Occurrences
import SmartFolder.Proofs.Meaning
import SmartFolder.Proofs.LoweringNotices
import SmartFolder.Proofs.Polarity
import SmartFolder.Proofs.Spelling
import SmartFolder.Proofs.Fallback
import SmartFolder.Proofs.Sense
import SmartFolder.Proofs.RoundTrip
import SmartFolder.Proofs.LoweringMeaning
import SmartFolder.Proofs.Supported
import SmartFolder.Proofs.FilterDocument
import SmartFolder.Proofs.RelativeDateText
import SmartFolder.Proofs.PredicateQuery
import SmartFolder.Proofs.DisplayPieces
import SmartFolder.Proofs.NegationReading
import SmartFolder.Proofs.PredicateDisplay
import SmartFolder.Proofs.FilterText
import SmartFolder.Proofs.FilterFaults
import SmartFolder.Proofs.JournalRun
