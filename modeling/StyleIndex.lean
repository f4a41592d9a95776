import StyleIndex.CommandLine
import StyleIndex.Completion
import StyleIndex.Connection
import StyleIndex.Connection.Message
import StyleIndex.Cursor.Calls
import StyleIndex.Cursor.Context
import StyleIndex.Cursor.Quote
import StyleIndex.Disk
import StyleIndex.Disk.Repository
import StyleIndex.Disk.Walk
import StyleIndex.Document
import StyleIndex.Domain
import StyleIndex.Domain.Table
import StyleIndex.FilePath
import StyleIndex.FileUrl
import StyleIndex.Glob
import StyleIndex.Glob.Reader
import StyleIndex.Ignore
import StyleIndex.Index
import StyleIndex.Json
import StyleIndex.Json.Reader
import StyleIndex.Main
import StyleIndex.Proofs.Admission
import StyleIndex.Proofs.Answers
import StyleIndex.Proofs.AttributeName
import StyleIndex.Proofs.ClientSettings
import StyleIndex.Proofs.Closing
import StyleIndex.Proofs.Columns
import StyleIndex.Proofs.Completion
import StyleIndex.Proofs.Connection
import StyleIndex.Proofs.Disk
import StyleIndex.Proofs.DiskChange
import StyleIndex.Proofs.Entries
import StyleIndex.Proofs.Excludes
import StyleIndex.Proofs.Extension
import StyleIndex.Proofs.Extraction
import StyleIndex.Proofs.FileId
import StyleIndex.Proofs.Filters
import StyleIndex.Proofs.Forgetting
import StyleIndex.Proofs.Head
import StyleIndex.Proofs.History
import StyleIndex.Proofs.Identity
import StyleIndex.Proofs.Independence
import StyleIndex.Proofs.Index
import StyleIndex.Proofs.Insertion
import StyleIndex.Proofs.Leftmost
import StyleIndex.Proofs.Lines
import StyleIndex.Proofs.MixinUse
import StyleIndex.Proofs.OpenCalls
import StyleIndex.Proofs.OpenDocuments
import StyleIndex.Proofs.Operations
import StyleIndex.Proofs.Orders
import StyleIndex.Proofs.ParenTokens
import StyleIndex.Proofs.Quotes
import StyleIndex.Proofs.Ranks
import StyleIndex.Proofs.Recency
import StyleIndex.Proofs.Redaction
import StyleIndex.Proofs.Registry
import StyleIndex.Proofs.Reports
import StyleIndex.Proofs.Rescan
import StyleIndex.Proofs.Routing
import StyleIndex.Proofs.Session
import StyleIndex.Proofs.Settings
import StyleIndex.Proofs.Summary
import StyleIndex.Proofs.TextEdit
import StyleIndex.Proofs.Walk
import StyleIndex.Proofs.WatchGlob
import StyleIndex.Proofs.Watchers
import StyleIndex.Proofs.Watching
import StyleIndex.Proofs.Window
import StyleIndex.Proofs.Word
import StyleIndex.Proofs.WordBytes
import StyleIndex.Protocol
import StyleIndex.Protocol.Method
import StyleIndex.Protocol.Params
import StyleIndex.Registry
import StyleIndex.Session
import StyleIndex.Session.Lookup
import StyleIndex.Session.World
import StyleIndex.Settings
import StyleIndex.Settings.Decode
import StyleIndex.Settings.Layers
import StyleIndex.Settings.Patch
import StyleIndex.Symbol
import StyleIndex.Symbol.Extract
import StyleIndex.Text.Blank
import StyleIndex.Text.CaseTable
import StyleIndex.Text.CodeTable
import StyleIndex.Text.Columns
import StyleIndex.Text.ComposeTable
import StyleIndex.Text.Composed
import StyleIndex.Text.Hex
import StyleIndex.Text.LowerCase
import StyleIndex.Text.Punycode
import StyleIndex.Text.Utf8
import StyleIndex.Toml.Lexeme
import StyleIndex.Toml.Reader
import StyleIndex.Toml.Scalar
import StyleIndex.Toml.Table
import StyleIndex.Url
import StyleIndex.Url.Address
import StyleIndex.Url.Host
import StyleIndex.Url.Path
import StyleIndex.Url.Percent
import StyleIndex.Warning
