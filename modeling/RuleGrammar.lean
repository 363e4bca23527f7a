import RuleGrammar.Main
import RuleGrammar.Proofs.Presentation
import RuleGrammar.Proofs.Spans
import RuleGrammar.Proofs.Termination
import RuleGrammar.Proofs.Typing
import RuleGrammar.Proofs.Reading.Relocation
import RuleGrammar.Proofs.Locality
import RuleGrammar.Proofs.Registration
import RuleGrammar.Proofs.Representation
import RuleGrammar.Proofs.GrammarAcceptance
import RuleGrammar.Proofs.Extension
import RuleGrammar.Proofs.Repetition
import RuleGrammar.Proofs.Replacement
import RuleGrammar.Proofs.Skipping
import RuleGrammar.Proofs.RoundTrip
import RuleGrammar.Proofs.Interchange
import RuleGrammar.Proofs.Shaping
import RuleGrammar.Proofs.Naming
import RuleGrammar.Proofs.Regex.BracketClosing
import RuleGrammar.Proofs.Regex.Places
import RuleGrammar.Proofs.Regex.Anchoring
import RuleGrammar.Proofs.PatternRules
import RuleGrammar.Proofs.Attribution
import RuleGrammar.Proofs.QuotedText
import RuleGrammar.Proofs.Numbers
import RuleGrammar.Proofs.ShownValues
import RuleGrammar.Proofs.GrammarDocument
import RuleGrammar.Proofs.Outline
