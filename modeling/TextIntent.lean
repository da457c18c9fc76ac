import TextIntent.Config.Default
import TextIntent.Classifier.Format
import TextIntent.Classifier.Operation
import TextIntent.Json.Pointer
import TextIntent.Numeric.Double
import TextIntent.Proofs.Category
import TextIntent.Proofs.Channel.Jitter
import TextIntent.Proofs.Classifier.Counters
import TextIntent.Proofs.Classifier.Memory
import TextIntent.Proofs.Classifier.Persistence
import TextIntent.Proofs.Classifier.Restore
import TextIntent.Proofs.Classifier.SmallLetters
import TextIntent.Proofs.Config.Saved
import TextIntent.Proofs.Config.Vocabulary
import TextIntent.Proofs.Decision.Choice
import TextIntent.Proofs.Decision.LowSignal
import TextIntent.Proofs.Decision.NoSignal
import TextIntent.Proofs.Decision.Redirection
import TextIntent.Proofs.Decision.Shortfall
import TextIntent.Proofs.Evidence.SmallWords
import TextIntent.Proofs.Real.ChargedShare
import TextIntent.Proofs.Real.Distribution
import TextIntent.Proofs.Real.FirstRule
import TextIntent.Proofs.Real.KeywordText
import TextIntent.Proofs.Real.Mass
import TextIntent.Proofs.Real.PairOrder
import TextIntent.Proofs.Real.Rearranged
import TextIntent.Proofs.Real.Reordering
import TextIntent.Proofs.Real.Response
import TextIntent.Proofs.Real.Reversal
import TextIntent.Proofs.Real.Signature
import TextIntent.Proofs.Real.Stochastic
import TextIntent.Proofs.Signature.Length
import TextIntent.Proofs.Signature.Signs
import TextIntent.Proofs.Signature.Vanishing
