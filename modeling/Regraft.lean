import Regraft.CommandLine
import Regraft.Config
import Regraft.Descent
import Regraft.Destination
import Regraft.Dictionary
import Regraft.Edit
import Regraft.Error
import Regraft.Forest
import Regraft.Fragment
import Regraft.Json.Reader
import Regraft.Json.Value
import Regraft.Main
import Regraft.Namespaces
import Regraft.Normalization
import Regraft.Normalizer
import Regraft.Path.Basic
import Regraft.Path.Parser
import Regraft.Pattern.AsciiClass
import Regraft.Pattern.Matcher
import Regraft.Pattern.Parser
import Regraft.Pattern.PropertyName
import Regraft.Pattern.Regex
import Regraft.Pattern.Size
import Regraft.Proofs.Addresses
import Regraft.Proofs.AnchoredPrograms
import Regraft.Proofs.AttributeSlots
import Regraft.Proofs.BlankTexts
import Regraft.Proofs.Brackets
import Regraft.Proofs.BuiltTexts
import Regraft.Proofs.Calls
import Regraft.Proofs.Chains
import Regraft.Proofs.Changes
import Regraft.Proofs.CharacterSets
import Regraft.Proofs.Characters
import Regraft.Proofs.ClosedClasses
import Regraft.Proofs.ClosedPatterns
import Regraft.Proofs.ClosedTexts
import Regraft.Proofs.Confinement
import Regraft.Proofs.Contexts
import Regraft.Proofs.Crowding
import Regraft.Proofs.Decoding
import Regraft.Proofs.DocumentOrder
import Regraft.Proofs.Draining
import Regraft.Proofs.ElementContent
import Regraft.Proofs.Entities
import Regraft.Proofs.FragmentForests
import Regraft.Proofs.FragmentNames
import Regraft.Proofs.FragmentPlacing
import Regraft.Proofs.FragmentReading
import Regraft.Proofs.Growth
import Regraft.Proofs.Independence
import Regraft.Proofs.Insertion
import Regraft.Proofs.LeadingTexts
import Regraft.Proofs.LegibleDocuments
import Regraft.Proofs.LegibleRuns
import Regraft.Proofs.LegibleTags
import Regraft.Proofs.Libraries
import Regraft.Proofs.LiteralTexts
import Regraft.Proofs.Meeting
import Regraft.Proofs.NameCharacters
import Regraft.Proofs.NamesAlike
import Regraft.Proofs.NormalOutlines
import Regraft.Proofs.OutlineMeanings
import Regraft.Proofs.Pairing
import Regraft.Proofs.PathErrors
import Regraft.Proofs.PathGrammar
import Regraft.Proofs.PathPlaces
import Regraft.Proofs.PathReaders
import Regraft.Proofs.PathReading
import Regraft.Proofs.PathSoundness
import Regraft.Proofs.PatternsAtStart
import Regraft.Proofs.Placing
import Regraft.Proofs.PrefixedNames
import Regraft.Proofs.Preservation
import Regraft.Proofs.Prologs
import Regraft.Proofs.ProperPatterns
import Regraft.Proofs.ProperSets
import Regraft.Proofs.Pruning
import Regraft.Proofs.QueryErrors
import Regraft.Proofs.RawTexts
import Regraft.Proofs.Reach
import Regraft.Proofs.ReadPrologs
import Regraft.Proofs.ReadScopes
import Regraft.Proofs.ReadTexts
import Regraft.Proofs.Recursion
import Regraft.Proofs.References
import Regraft.Proofs.Removal
import Regraft.Proofs.Rendering
import Regraft.Proofs.Repetition
import Regraft.Proofs.RootBindings
import Regraft.Proofs.RootScope
import Regraft.Proofs.RowWidths
import Regraft.Proofs.Scanning
import Regraft.Proofs.Scopes
import Regraft.Proofs.Selection
import Regraft.Proofs.Serializable
import Regraft.Proofs.ShortenedUris
import Regraft.Proofs.Skeletons
import Regraft.Proofs.SortedRoots
import Regraft.Proofs.SortedTags
import Regraft.Proofs.StrayNames
import Regraft.Proofs.Success
import Regraft.Proofs.TextSlots
import Regraft.Proofs.TextsApart
import Regraft.Proofs.Threads
import Regraft.Proofs.TokenGrammar
import Regraft.Proofs.Traced
import Regraft.Proofs.UndeclaredMembers
import Regraft.Proofs.UsedPrefixes
import Regraft.Proofs.ValuesInText
import Regraft.Proofs.Visits
import Regraft.Proofs.WellConfigured
import Regraft.Proofs.Wrapping
import Regraft.Proofs.WrittenPrograms
import Regraft.Proofs.WrittenTags
import Regraft.Root
import Regraft.Rule
import Regraft.Run
import Regraft.Select
import Regraft.Template
import Regraft.Text.Markup
import Regraft.Text.Quoted
import Regraft.Text.Replace
import Regraft.Text.RootTag
import Regraft.Unicode.Case
import Regraft.Xml.Character
import Regraft.Xml.Document
import Regraft.Xml.Layout
import Regraft.Xml.Node
import Regraft.Xml.Piece
import Regraft.Xml.QName
import Regraft.Xml.Reader
import Regraft.Xml.Token
