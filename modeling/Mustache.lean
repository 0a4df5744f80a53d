import Mustache.BufferPool
import Mustache.Host.JsonNumber
import Mustache.Main
import Mustache.Template.Describe
import Mustache.Template.Printer
import Mustache.Proofs.Grammar.Reading
import Mustache.Proofs.Grammar.Tags
import Mustache.Proofs.Grammar.BlockEnds
import Mustache.Proofs.Grammar.Outlines
import Mustache.Proofs.Grammar.Compilation
import Mustache.Proofs.Grammar.Concatenation
import Mustache.Proofs.Grammar.Pasting
import Mustache.Proofs.Grammar.BlockSearch
import Mustache.Proofs.Grammar.Conditionals
import Mustache.Proofs.Embedding.Recording
import Mustache.Proofs.Embedding.Directories
import Mustache.Proofs.Embedding.AccessorNames
import Mustache.Proofs.Nesting.Cycles
import Mustache.Proofs.Nesting.IncludeStacks
import Mustache.Proofs.Nesting.Limits
import Mustache.Proofs.Output.Entities
import Mustache.Proofs.Output.Hosts
import Mustache.Proofs.Output.Likeness
import Mustache.Proofs.Output.Pieces
import Mustache.Proofs.Output.Unescaping
import Mustache.Proofs.Paths.Bases
import Mustache.Proofs.Paths.Walks
import Mustache.Proofs.Pool.Contents
import Mustache.Proofs.Pool.Words
import Mustache.Proofs.Output.Lists
import Mustache.Proofs.Grammar.Halves
import Mustache.Proofs.Grammar.Respacing
import Mustache.Proofs.Stability.Lookahead
import Mustache.Proofs.Stability.Errors
import Mustache.Proofs.Offsets.Ranges
