import Snippet.Main
import Snippet.Program.Machine
import Snippet.Proofs.Obfuscation
import Snippet.Proofs.Page
import Snippet.Proofs.Page.Delivery
import Snippet.Proofs.Comment.Conditional
import Snippet.Proofs.Comment.Scan
import Snippet.Proofs.Layout
import Snippet.Proofs.Compression.Tokens
import Snippet.Proofs.Detection.Joining
import Snippet.Proofs.Obfuscation.Size
import Snippet.Proofs.Page.Files
import Snippet.Proofs.Page.Relink
import Snippet.Proofs.Program.FileTree
import Snippet.Proofs.Program.Run
import Snippet.Proofs.Settings
import Snippet.Proofs.Program.Split
import Snippet.Proofs.Program.Rejection
import Snippet.Proofs.Compression.Gaps
import Snippet.Proofs.Quoted.Decoding
import Snippet.Proofs.Renaming.Table
import Snippet.Proofs.Layout.Gaps
import Snippet.Proofs.Detection.Patterns
import Snippet.Proofs.Detection.Spacing
import Snippet.Proofs.Comment.Offsets
import Snippet.Proofs.Comment.Joining
import Snippet.Proofs.Repair
import Snippet.Proofs.Detection.Endings
import Snippet.Proofs.Repair.Settled
import Snippet.Proofs.Layout.Tags
import Snippet.Proofs.Layout.Indents
import Snippet.Proofs.Layout.Nesting
import Snippet.Proofs.Comment.Compressed
import Snippet.Proofs.Comment.Annotated
import Snippet.Proofs.FileName.Safe
import Snippet.Proofs.Clipboard
import Snippet.Proofs.Detection.Trimming
