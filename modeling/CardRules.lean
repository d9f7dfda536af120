import CardRules.Session
import CardRules.Value.Reading
import CardRules.Proofs.Cards.Visibility
import CardRules.Proofs.Play.Conditions
import CardRules.Proofs.Play.Lookups
import CardRules.Proofs.Play.Origins
import CardRules.Proofs.Play.Replay
import CardRules.Proofs.Play.Scopes
import CardRules.Proofs.Play.Turns
import CardRules.Proofs.Records.Snapshots
import CardRules.Proofs.Sessions.Moves
import CardRules.Proofs.Sessions.Status
import CardRules.Proofs.Play.AuditLog
import CardRules.Proofs.Rules.Branches
import CardRules.Proofs.Play.Nesting
import CardRules.Proofs.Expr.Paths
import CardRules.Proofs.Records.WrittenFlags
import CardRules.Proofs.Cards.InLine
import CardRules.Proofs.Rules.Rereading
import CardRules.Proofs.Cards.Partition
import CardRules.Proofs.Records.Ids
import CardRules.Proofs.Cards.Transfers
import CardRules.Proofs.Cards.Transpositions
import CardRules.Proofs.Play.Scoring
import CardRules.Proofs.Expr.Lexicon
import CardRules.Proofs.Expr.Spacing
import CardRules.Proofs.Cards.IndexParameters
import CardRules.Proofs.Expr.Literals
import CardRules.Proofs.Play.Templates
import CardRules.Proofs.Cards.Decks
import CardRules.Proofs.Records.Spellings
