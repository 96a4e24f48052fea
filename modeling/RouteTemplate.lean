import RouteTemplate.Options.Stored
import RouteTemplate.Proofs.Percent
import RouteTemplate.Proofs.Regex.LetterCase
import RouteTemplate.Proofs.Regex.Search
import RouteTemplate.Proofs.Template.Compiled
import RouteTemplate.Proofs.Template.DefaultPattern
import RouteTemplate.Proofs.Template.Extraction
import RouteTemplate.Proofs.Template.Language
import RouteTemplate.Proofs.Template.Matching
import RouteTemplate.Proofs.Template.Rebuilding
import RouteTemplate.Proofs.Template.Rendering
import RouteTemplate.Proofs.Template.RoundTrip
import RouteTemplate.Proofs.Template.Spelling
import RouteTemplate.Proofs.Template.Values
import RouteTemplate.Proofs.Template.Walks
import RouteTemplate.Template
import RouteTemplate.Value.Scalar
import RouteTemplate.Proofs.Template.Groups
import RouteTemplate.Proofs.Template.Joining
import RouteTemplate.Proofs.Regex.Preference
import RouteTemplate.Proofs.Regex.Ahead
import RouteTemplate.Proofs.Template.Terminator
import RouteTemplate.Proofs.Regex.Backtracking
import RouteTemplate.Proofs.Unicode.WordClass
import RouteTemplate.Proofs.Template.Grammar
import RouteTemplate.Proofs.Template.Lexing
import RouteTemplate.Proofs.Template.Tokens
import RouteTemplate.Proofs.Template.Printing
import RouteTemplate.Proofs.Template.Emptied
import RouteTemplate.Proofs.Template.Construction
import RouteTemplate.Proofs.Regex.Picking
import RouteTemplate.Proofs.Template.Repetition
import RouteTemplate.Proofs.Percent.Canonical
import RouteTemplate.Proofs.Template.Attribution
import RouteTemplate.Proofs.Template.Relaxing
import RouteTemplate.Proofs.Regex.IgnoringCase
import RouteTemplate.Proofs.Template.IgnoringCase
import RouteTemplate.Proofs.Template.Outcome
import RouteTemplate.Proofs.Template.Skeleton
import RouteTemplate.Proofs.Template.Explicit
import RouteTemplate.Proofs.Template.Recutting
import RouteTemplate.Proofs.Template.Cursor
