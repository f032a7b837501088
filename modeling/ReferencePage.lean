import ReferencePage.Run.Program
import ReferencePage.Main
import ReferencePage.Proofs.Folding
import ReferencePage.Proofs.Finds
import ReferencePage.Proofs.Mentions
import ReferencePage.Proofs.Pieces
import ReferencePage.Proofs.Words
import ReferencePage.Proofs.WordLinks
import ReferencePage.Proofs.Collected
import ReferencePage.Proofs.OuterCommas
import ReferencePage.Proofs.ParameterLists
import ReferencePage.Proofs.Headings
import ReferencePage.Proofs.LinkedDocument
import ReferencePage.Proofs.CommentEnds
import ReferencePage.Proofs.Gathered
import ReferencePage.Proofs.Stops
import ReferencePage.Proofs.DetachedComments
import ReferencePage.Proofs.OneLine
import ReferencePage.Proofs.PageReading
import ReferencePage.Proofs.SmallLetters
import ReferencePage.Proofs.Entries
import ReferencePage.Proofs.SharedAnchors
import ReferencePage.Proofs.ParentDirectories
import ReferencePage.Proofs.Drafts
import ReferencePage.Proofs.Replacement
import ReferencePage.Proofs.RunOutcome
import ReferencePage.Proofs.SparedFiles
import ReferencePage.Proofs.MarkedText
import ReferencePage.Proofs.SignatureReading
import ReferencePage.Proofs.GreedyLinks
import ReferencePage.Proofs.LineEndings
import ReferencePage.Proofs.LineEndingTexts
import ReferencePage.Proofs.PropertyHeads
import ReferencePage.Proofs.LineEndingHeads
import ReferencePage.Proofs.BracketEnds
import ReferencePage.Proofs.NamedHeads
import ReferencePage.Proofs.CommentBodies
import ReferencePage.Proofs.AttachedHeads
import ReferencePage.Proofs.CommentOwners
import ReferencePage.Proofs.DocumentedMethods
import ReferencePage.Proofs.FirstDeclaration
import ReferencePage.Proofs.ParameterSegments
import ReferencePage.Proofs.Respacing
import ReferencePage.Proofs.ReturnTypes
import ReferencePage.Proofs.CommentLines
import ReferencePage.Proofs.AnchorReport
import ReferencePage.Proofs.PropertyTypes
import ReferencePage.Proofs.ListedProperties
import ReferencePage.Proofs.Numerals
import ReferencePage.Proofs.Calendar
import ReferencePage.Proofs.Instants
import ReferencePage.Proofs.FailedReads
import ReferencePage.Proofs.PlainAssignments
import ReferencePage.Proofs.SettingsReading
