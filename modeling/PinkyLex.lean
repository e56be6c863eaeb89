import PinkyLex.Main
import PinkyLex.Proofs.DialectEmbedding
import PinkyLex.Proofs.DialogueOfProgram
import PinkyLex.Proofs.LineEndings
import PinkyLex.Proofs.Listing
import PinkyLex.Proofs.MultilineStrings
import PinkyLex.Proofs.ReservedWords
import PinkyLex.Proofs.RunStages
import PinkyLex.Proofs.ScanExtension
import PinkyLex.Proofs.ScanLines
import PinkyLex.Proofs.ScanLog
import PinkyLex.Proofs.ScannablePrefix
import PinkyLex.Proofs.ScannerRuns
import PinkyLex.Proofs.SettingsLoading
import PinkyLex.Proofs.Spellings
import PinkyLex.Proofs.TokenDocument
import PinkyLex.Proofs.VocabularyChange
import PinkyLex.Proofs.VocabularyLoading
import PinkyLex.Proofs.WindowRuns
import PinkyLex.Proofs.WrittenScan
