import TradingRules.Main
import TradingRules.World
import TradingRules.Proofs.Condition.RoundTrip
import TradingRules.Proofs.Text.LetterCase
import TradingRules.Proofs.Store.File
import TradingRules.Proofs.Dialogue
import TradingRules.Proofs.Store.Table
import TradingRules.Proofs.Store.Local
import TradingRules.Proofs.Store.History
import TradingRules.Proofs.Store.Ledger
import TradingRules.Proofs.Workbench.Scene
import TradingRules.Proofs.Workbench.Coherence
import TradingRules.Proofs.Exit.RoundTrip
import TradingRules.Proofs.Strategy.RoundTrip
import TradingRules.Proofs.Strategy.Percent
import TradingRules.Proofs.Workbench.Drafts
import TradingRules.Proofs.Workbench.Shared
import TradingRules.Proofs.Workbench.Calls
import TradingRules.Proofs.Workbench.Account
import TradingRules.Proofs.Workbench.Limits
import TradingRules.Proofs.Workbench.Distinct
import TradingRules.Proofs.Store.Owners
import TradingRules.Proofs.Store.Backup
import TradingRules.Proofs.CommandLine.Save
import TradingRules.Proofs.Store.Remote.Attempts
import TradingRules.Proofs.Store.Remote.Explanations
import TradingRules.Proofs.Store.Remote.Refusals
import TradingRules.Proofs.Workbench.Chronicle
import TradingRules.Proofs.Binary64.Spelling
import TradingRules.Proofs.Strategy.Verdict
import TradingRules.Proofs.Exit.Fields
import TradingRules.Proofs.Condition.Fields
import TradingRules.Proofs.Strategy.Numbers
import TradingRules.Proofs.Strategy.Order
import TradingRules.Proofs.Strategy.Counts
import TradingRules.Proofs.Workbench.Editing
import TradingRules.Proofs.Condition.Editing
import TradingRules.Proofs.Settings.Overrides
import TradingRules.Proofs.Store.Remote.Delays
