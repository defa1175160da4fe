import SelectorNavigation.Disk.Basic
import SelectorNavigation.Disk.Edit
import SelectorNavigation.Disk.Walk
import SelectorNavigation.Glob.Match
import SelectorNavigation.Glob.Nesting
import SelectorNavigation.Glob.PathFilter
import SelectorNavigation.Glob.Reader
import SelectorNavigation.Glob.Token
import SelectorNavigation.Host.Basic
import SelectorNavigation.Host.CanonicalPairs
import SelectorNavigation.Host.Composition
import SelectorNavigation.Host.Direction
import SelectorNavigation.Host.Domain
import SelectorNavigation.Host.Ipv4
import SelectorNavigation.Host.Ipv6
import SelectorNavigation.Host.Joining
import SelectorNavigation.Host.Label
import SelectorNavigation.Host.Mapping
import SelectorNavigation.Host.Mapping.Basic
import SelectorNavigation.Host.Mapping.East
import SelectorNavigation.Host.Mapping.Excluded
import SelectorNavigation.Host.Mapping.General
import SelectorNavigation.Host.Mapping.Ideographs
import SelectorNavigation.Host.Mapping.Presentation
import SelectorNavigation.Host.Mapping.Shifts
import SelectorNavigation.Host.Mapping.Supplementary
import SelectorNavigation.Host.Punycode
import SelectorNavigation.Json.Basic
import SelectorNavigation.Json.Number
import SelectorNavigation.Json.Reader
import SelectorNavigation.Path.Basic
import SelectorNavigation.Path.Resolve
import SelectorNavigation.Proofs.Buffers
import SelectorNavigation.Proofs.CodeUnits
import SelectorNavigation.Proofs.Columns
import SelectorNavigation.Proofs.Declarations
import SelectorNavigation.Proofs.ExcludePatterns
import SelectorNavigation.Proofs.ExcludedGlobs
import SelectorNavigation.Proofs.FileOrder
import SelectorNavigation.Proofs.FileReading
import SelectorNavigation.Proofs.FileUris
import SelectorNavigation.Proofs.Following
import SelectorNavigation.Proofs.JsonGrammar
import SelectorNavigation.Proofs.JsonReading
import SelectorNavigation.Proofs.LastWrites
import SelectorNavigation.Proofs.LineBreaks
import SelectorNavigation.Proofs.LineIndex
import SelectorNavigation.Proofs.LineStarts
import SelectorNavigation.Proofs.Lines
import SelectorNavigation.Proofs.Lists
import SelectorNavigation.Proofs.NameCharacters
import SelectorNavigation.Proofs.NormalPaths
import SelectorNavigation.Proofs.OrderedMembers
import SelectorNavigation.Proofs.PathComponents
import SelectorNavigation.Proofs.Positions
import SelectorNavigation.Proofs.ReferenceRequests
import SelectorNavigation.Proofs.References
import SelectorNavigation.Proofs.Rendering
import SelectorNavigation.Proofs.Resolution
import SelectorNavigation.Proofs.ResourceRuns
import SelectorNavigation.Proofs.Runs
import SelectorNavigation.Proofs.ScanRun
import SelectorNavigation.Proofs.Search
import SelectorNavigation.Proofs.SearchOrder
import SelectorNavigation.Proofs.SettingsFile
import SelectorNavigation.Proofs.TemplateEndings
import SelectorNavigation.Proofs.UriParts
import SelectorNavigation.Proofs.UriSpelling
import SelectorNavigation.Proofs.UsagePriority
import SelectorNavigation.Proofs.UsageSpans
import SelectorNavigation.Proofs.Usages
import SelectorNavigation.Proofs.Walk
import SelectorNavigation.Selector.Alternative
import SelectorNavigation.Selector.Declaration
import SelectorNavigation.Selector.Matcher
import SelectorNavigation.Session.Message
import SelectorNavigation.Session.Step
import SelectorNavigation.Session.Wire
import SelectorNavigation.Settings.Exclude
import SelectorNavigation.Text.Basic
import SelectorNavigation.Text.CombiningClass
import SelectorNavigation.Text.Hexadecimal
import SelectorNavigation.Text.Line
import SelectorNavigation.Text.LineIndex
import SelectorNavigation.Text.Mark
import SelectorNavigation.Text.Position
import SelectorNavigation.Text.Printable
import SelectorNavigation.Text.Quoted
import SelectorNavigation.Text.Whitespace
import SelectorNavigation.Text.Word
import SelectorNavigation.Uri.Authority
import SelectorNavigation.Uri.Basic
import SelectorNavigation.Uri.FilePath
import SelectorNavigation.Uri.PercentCoding
import SelectorNavigation.Uri.Reader
import SelectorNavigation.Uri.Scheme
import SelectorNavigation.Uri.Segments
import SelectorNavigation.Workspace.Basic
import SelectorNavigation.Workspace.Definition
import SelectorNavigation.Workspace.Documents
import SelectorNavigation.Workspace.References
import SelectorNavigation.Workspace.Resource
import SelectorNavigation.Workspace.Search
