import CallGraph.Archive
import CallGraph.Bytecode
import CallGraph.Bytes
import CallGraph.Call
import CallGraph.Class
import CallGraph.Class.Decode
import CallGraph.ClassFile
import CallGraph.ClassFile.Attribute
import CallGraph.ClassFile.Constant
import CallGraph.ClassFile.Text
import CallGraph.ClassName
import CallGraph.Command
import CallGraph.Descriptor
import CallGraph.Dispatch
import CallGraph.Edge
import CallGraph.Endpoint
import CallGraph.Engine
import CallGraph.ExecutionMark
import CallGraph.Explanation
import CallGraph.Extraction
import CallGraph.Facts
import CallGraph.FileTree
import CallGraph.Hierarchy
import CallGraph.LineTable
import CallGraph.Log
import CallGraph.Main
import CallGraph.Options
import CallGraph.Options.Help
import CallGraph.Path
import CallGraph.Proofs.AbstractMethods
import CallGraph.Proofs.AnnotationStream
import CallGraph.Proofs.Annotations
import CallGraph.Proofs.ArrayConstants
import CallGraph.Proofs.Assembly
import CallGraph.Proofs.ByteOrder
import CallGraph.Proofs.CallOrder
import CallGraph.Proofs.CallSites
import CallGraph.Proofs.CarriedUsage
import CallGraph.Proofs.ClassOrder
import CallGraph.Proofs.ClassReferences
import CallGraph.Proofs.ClassRoundTrip
import CallGraph.Proofs.CodeBlocks
import CallGraph.Proofs.CodeCuts
import CallGraph.Proofs.CodeLayout
import CallGraph.Proofs.Configuration
import CallGraph.Proofs.DescriptorGrammar
import CallGraph.Proofs.DirectoryOrder
import CallGraph.Proofs.Duplicates
import CallGraph.Proofs.EdgeLines
import CallGraph.Proofs.ExecutionLinks
import CallGraph.Proofs.ExtractedArchive
import CallGraph.Proofs.Failure
import CallGraph.Proofs.Forest
import CallGraph.Proofs.Grammar
import CallGraph.Proofs.Indexing
import CallGraph.Proofs.Inheritance
import CallGraph.Proofs.InterfaceDispatch
import CallGraph.Proofs.JsonLines
import CallGraph.Proofs.LambdaLinks
import CallGraph.Proofs.LineLookup
import CallGraph.Proofs.Links
import CallGraph.Proofs.LostReferences
import CallGraph.Proofs.MachineWords
import CallGraph.Proofs.Occurrence
import CallGraph.Proofs.Outcome
import CallGraph.Proofs.Passes
import CallGraph.Proofs.Phases
import CallGraph.Proofs.Recurring
import CallGraph.Proofs.SecondPass
import CallGraph.Proofs.StackWalk
import CallGraph.Proofs.Streams
import CallGraph.Proofs.Success
import CallGraph.Proofs.SymbolicPool
import CallGraph.Proofs.TextLines
import CallGraph.Proofs.Walk
import CallGraph.Record
import CallGraph.Run
import CallGraph.Sink
import CallGraph.Span
import CallGraph.Text.Affix
import CallGraph.Text.CombiningClass
import CallGraph.Text.Composite
import CallGraph.Text.Composition
import CallGraph.Text.Direction
import CallGraph.Text.Joining
import CallGraph.Text.Mark
import CallGraph.Text.Numeral
import CallGraph.Text.Table
import CallGraph.Text.Utf8
import CallGraph.Url
import CallGraph.Url.Domain
import CallGraph.Url.Domain.Mapping
import CallGraph.Url.Host
import CallGraph.Url.Percent
import CallGraph.Url.Punycode
import CallGraph.Usage
import CallGraph.Zip
import CallGraph.Zip.Checksum
import CallGraph.Zip.Directory
import CallGraph.Zip.Entry
import CallGraph.Zip.Huffman
import CallGraph.Zip.Inflate
import CallGraph.Zip.Number
