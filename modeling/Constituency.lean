import Constituency.Main
import Constituency.Machine.Table
import Constituency.Tree.Equality
import Constituency.Proofs.TapeOrder
import Constituency.Proofs.MachineRuns
import Constituency.Proofs.OutcomeProtocol
import Constituency.Proofs.ListProgress
import Constituency.Proofs.ClauseProgress
import Constituency.Proofs.CallDepth
import Constituency.Proofs.Recursion
import Constituency.Proofs.RuleContract
import Constituency.Proofs.ListGrammar
import Constituency.Proofs.ListRules
import Constituency.Proofs.OnePassLists
import Constituency.Proofs.ClauseGrammar
import Constituency.Proofs.Derivations
import Constituency.Proofs.ReadWords
import Constituency.Proofs.TreeShapes
import Constituency.Proofs.ItemRules
import Constituency.Proofs.Respelling
import Constituency.Proofs.AlikeRuns
import Constituency.Proofs.ReadHead
import Constituency.Proofs.TokenRuns
import Constituency.Proofs.LetterCase
import Constituency.Proofs.TokenDelimiters
import Constituency.Proofs.ParsedTexts
import Constituency.Proofs.ExitCodes
import Constituency.Proofs.RequiredLists
import Constituency.Proofs.RejoinedTokens
import Constituency.Proofs.RuleReadings
import Constituency.Proofs.CutTapes
import Constituency.Proofs.CutLists
import Constituency.Proofs.Vocabulary
import Constituency.Proofs.CutClauses
import Constituency.Proofs.UnreadTokens
import Constituency.Proofs.SpacedTexts
import Constituency.Proofs.MachineClosure
import Constituency.Proofs.TraceOrder
import Constituency.Proofs.RepeatedWork
import Constituency.Proofs.AppendedParts
import Constituency.Proofs.DictionaryUnions
import Constituency.Proofs.TreesFromJson
import Constituency.Proofs.TapeSessions
import Constituency.Proofs.ItemTries
import Constituency.Proofs.TableRuns
