import MemoAssist.Act
import MemoAssist.Cipher.Aes
import MemoAssist.Cipher.Base64
import MemoAssist.Cipher.Gcm
import MemoAssist.Cipher.Keys
import MemoAssist.Cipher.Sha256
import MemoAssist.Cli.Command
import MemoAssist.Cli.Files
import MemoAssist.Cli.Health
import MemoAssist.Cli.Run
import MemoAssist.Cli.Session
import MemoAssist.Cli.Words
import MemoAssist.Clock.Instant
import MemoAssist.Clock.Scale
import MemoAssist.Decimal.Shortest
import MemoAssist.Decimal.Text
import MemoAssist.ErrorLog
import MemoAssist.Fault
import MemoAssist.Gate
import MemoAssist.Journal
import MemoAssist.Json.Basic
import MemoAssist.Json.Decoding
import MemoAssist.Json.Display
import MemoAssist.Json.Loose
import MemoAssist.Json.Reader
import MemoAssist.Json.Sorting
import MemoAssist.Json.Sorting.Merge
import MemoAssist.Json.Sorting.Runs
import MemoAssist.Json.Writer
import MemoAssist.Main
import MemoAssist.Octets
import MemoAssist.Prompt
import MemoAssist.Proofs.Alike
import MemoAssist.Proofs.Cipher.Aes
import MemoAssist.Proofs.Cipher.Base64
import MemoAssist.Proofs.Cipher.Gcm
import MemoAssist.Proofs.Cipher.Sealing
import MemoAssist.Proofs.Cli.Showing
import MemoAssist.Proofs.Cli.Signs
import MemoAssist.Proofs.Clock.Exact
import MemoAssist.Proofs.Entries
import MemoAssist.Proofs.Gate.Waking
import MemoAssist.Proofs.Json.Depth
import MemoAssist.Proofs.Json.Display
import MemoAssist.Proofs.Json.Layout
import MemoAssist.Proofs.Json.Numbers
import MemoAssist.Proofs.Json.Ordering
import MemoAssist.Proofs.Json.RoundTrip
import MemoAssist.Proofs.Json.Sorting
import MemoAssist.Proofs.Json.Texts
import MemoAssist.Proofs.Provider.Alignment
import MemoAssist.Proofs.Provider.Answers
import MemoAssist.Proofs.Provider.Bodies
import MemoAssist.Proofs.Provider.ByCompletion
import MemoAssist.Proofs.Provider.Calls
import MemoAssist.Proofs.Provider.Completions
import MemoAssist.Proofs.Provider.Conversation
import MemoAssist.Proofs.Provider.Discretion
import MemoAssist.Proofs.Provider.Embeddings
import MemoAssist.Proofs.Provider.InTurn
import MemoAssist.Proofs.Provider.Installed
import MemoAssist.Proofs.Provider.Listings
import MemoAssist.Proofs.Provider.Numbered
import MemoAssist.Proofs.Provider.Shape
import MemoAssist.Proofs.Registry.History
import MemoAssist.Proofs.Registry.Laws
import MemoAssist.Proofs.Registry.Loading
import MemoAssist.Proofs.Registry.Orderly
import MemoAssist.Proofs.Reply.Extraction
import MemoAssist.Proofs.Reply.KeyPoints
import MemoAssist.Proofs.Reply.TagArray
import MemoAssist.Proofs.Scope.Descent
import MemoAssist.Proofs.Scope.Family
import MemoAssist.Proofs.Scope.History
import MemoAssist.Proofs.Scope.Passing
import MemoAssist.Proofs.Scope.Stopping
import MemoAssist.Proofs.Scope.Waiting
import MemoAssist.Proofs.Setting.Activation
import MemoAssist.Proofs.Setting.Durable
import MemoAssist.Proofs.Setting.Places
import MemoAssist.Proofs.Setting.Redaction
import MemoAssist.Proofs.Setting.Reload
import MemoAssist.Proofs.Setting.Table
import MemoAssist.Proofs.Tagging.Account
import MemoAssist.Proofs.Tagging.Agreement
import MemoAssist.Proofs.Tagging.Allowance
import MemoAssist.Proofs.Tagging.Alone
import MemoAssist.Proofs.Tagging.AloneAtWork
import MemoAssist.Proofs.Tagging.Board
import MemoAssist.Proofs.Tagging.CacheHistory
import MemoAssist.Proofs.Tagging.Chronicle
import MemoAssist.Proofs.Tagging.Closing
import MemoAssist.Proofs.Tagging.Custody
import MemoAssist.Proofs.Tagging.Eviction
import MemoAssist.Proofs.Tagging.Keeping
import MemoAssist.Proofs.Tagging.Keys
import MemoAssist.Proofs.Tagging.LifeCycle
import MemoAssist.Proofs.Tagging.Marks
import MemoAssist.Proofs.Tagging.Metering
import MemoAssist.Proofs.Tagging.Notices
import MemoAssist.Proofs.Tagging.Office
import MemoAssist.Proofs.Tagging.Publishing
import MemoAssist.Proofs.Tagging.Refusals
import MemoAssist.Proofs.Tagging.Retention
import MemoAssist.Proofs.Tagging.Shutdown
import MemoAssist.Proofs.Tagging.Single
import MemoAssist.Proofs.Text.Encoding
import MemoAssist.Proofs.Text.Trimming
import MemoAssist.Proofs.Toml.Document
import MemoAssist.Proofs.Toml.Strings
import MemoAssist.Proofs.Vault.History
import MemoAssist.Proofs.Wire.Delivery
import MemoAssist.Proofs.Wire.Punctual
import MemoAssist.Proofs.Wire.Refusal
import MemoAssist.Proofs.Wire.Retries
import MemoAssist.Proofs.Wire.Veil
import MemoAssist.Provider.Anthropic
import MemoAssist.Provider.Basic
import MemoAssist.Provider.ByCompletion
import MemoAssist.Provider.Calls
import MemoAssist.Provider.Config
import MemoAssist.Provider.Gemini
import MemoAssist.Provider.Kind
import MemoAssist.Provider.Ollama
import MemoAssist.Provider.OpenAI
import MemoAssist.Provider.Request
import MemoAssist.Record.Basic
import MemoAssist.Record.Requests
import MemoAssist.Record.Settings
import MemoAssist.Registry.Basic
import MemoAssist.Registry.Fallback
import MemoAssist.Reply
import MemoAssist.Scope.Forest
import MemoAssist.Scope.Timeline
import MemoAssist.Setting.Apply
import MemoAssist.Setting.Basic
import MemoAssist.Setting.Document
import MemoAssist.Setting.Environment
import MemoAssist.Setting.Table
import MemoAssist.Tagging.Cache
import MemoAssist.Tagging.Config
import MemoAssist.Tagging.Jobs
import MemoAssist.Tagging.Quota
import MemoAssist.Tagging.Tagger
import MemoAssist.Text.Encoding
import MemoAssist.Text.Integer
import MemoAssist.Text.Lines
import MemoAssist.Text.Numeral
import MemoAssist.Text.Quoted
import MemoAssist.Text.Shown
import MemoAssist.Text.Styles
import MemoAssist.Toml.Basic
import MemoAssist.Toml.Reader
import MemoAssist.Toml.Scalar
import MemoAssist.Vault
import MemoAssist.Wire.Message
import MemoAssist.Wire.Refusal
import MemoAssist.Wire.Transport
import MemoAssist.World
