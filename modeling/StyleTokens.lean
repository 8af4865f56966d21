import StyleTokens.FileTree
import StyleTokens.Main
import StyleTokens.Wire.Config
import StyleTokens.Proofs.Descent
import StyleTokens.Proofs.LinePositions
import StyleTokens.Proofs.PluginSteps
import StyleTokens.Proofs.TreePlaces
import StyleTokens.Proofs.Rewording
import StyleTokens.Proofs.SessionReport
import StyleTokens.Proofs.ArbitraryMarks
import StyleTokens.Proofs.CacheEntries
import StyleTokens.Proofs.FixOfReport
import StyleTokens.Proofs.SessionHistory
import StyleTokens.Proofs.Clamping
import StyleTokens.Proofs.NamePatterns
import StyleTokens.Proofs.PropertyCodec
import StyleTokens.Proofs.ReferenceCodec
import StyleTokens.Proofs.ByteOrder
import StyleTokens.Proofs.ThemeListing
import StyleTokens.Proofs.ResolvedItems
import StyleTokens.Proofs.ConfigGrowth
import StyleTokens.Proofs.Forwarding
import StyleTokens.Proofs.UriText
import StyleTokens.Proofs.DocumentStore
import StyleTokens.Proofs.ReadRequests
import StyleTokens.Proofs.FixScope
import StyleTokens.Proofs.OfferedTokens
import StyleTokens.Proofs.CachedDetails
import StyleTokens.Proofs.Slices
import StyleTokens.Proofs.QuotedLiterals
import StyleTokens.Proofs.SuggestedMarks
import StyleTokens.Proofs.SmallestNode
import StyleTokens.Proofs.OfferedPlaces
import StyleTokens.Proofs.FixEffect
import StyleTokens.Proofs.OutermostFaults
import StyleTokens.Proofs.AugmentedItems
import StyleTokens.Proofs.SortedItems
import StyleTokens.Proofs.WordClasses
import StyleTokens.Proofs.ArbitraryEncoding
import StyleTokens.Proofs.LineScan
import StyleTokens.Proofs.PropertyShape
import StyleTokens.Proofs.SourceOrder
