import Footprint.Analyzer.Basic
import Footprint.Analyzer.Query
import Footprint.Bytes
import Footprint.CommandLine.Arguments
import Footprint.CommandLine.Report
import Footprint.CommandLine.Run
import Footprint.Cursor
import Footprint.Cursor.Leb128
import Footprint.Cursor.Progress
import Footprint.Elf.Class
import Footprint.Elf.Header
import Footprint.Elf.Image
import Footprint.Elf.Load
import Footprint.Elf.Query
import Footprint.Elf.SectionHeader
import Footprint.Elf.SymbolTable
import Footprint.Error
import Footprint.Event
import Footprint.LineProgram.Header
import Footprint.LineProgram.Instruction
import Footprint.LineProgram.Machine
import Footprint.LineProgram.Run
import Footprint.LineTable
import Footprint.LinkMap.Basic
import Footprint.LinkMap.Keyed
import Footprint.LinkMap.Line
import Footprint.LinkMap.Load
import Footprint.Logging
import Footprint.Main
import Footprint.Mangled.Legacy
import Footprint.Mangled.Name
import Footprint.Mangled.Path
import Footprint.Mangled.Print
import Footprint.Mangled.Punycode
import Footprint.Mangled.Scan
import Footprint.Mangled.V0
import Footprint.Proofs.Analyzer.Lists
import Footprint.Proofs.Analyzer.Restriction
import Footprint.Proofs.Bytes.Layout
import Footprint.Proofs.Cursor.Leb128
import Footprint.Proofs.Cursor.Reads
import Footprint.Proofs.Cursor.Spans
import Footprint.Proofs.Cursor.Translation
import Footprint.Proofs.Elf.Fields
import Footprint.Proofs.Elf.RoundTrip
import Footprint.Proofs.Elf.Symbols
import Footprint.Proofs.Elf.Tables
import Footprint.Proofs.Elf.Writer
import Footprint.Proofs.LineProgram.Assembly
import Footprint.Proofs.LineProgram.Decoding
import Footprint.Proofs.LineProgram.Reference
import Footprint.Proofs.LineProgram.Translation
import Footprint.Proofs.LineTable.Assembled
import Footprint.Proofs.LineTable.Rows
import Footprint.Proofs.LineTable.Units
import Footprint.Proofs.LineTable.Watched
import Footprint.Proofs.LinkMap.Keyed
import Footprint.Proofs.LinkMap.Listing
import Footprint.Proofs.LinkMap.Merge
import Footprint.Proofs.Outcomes
import Footprint.Proofs.Sorting
import Footprint.Proofs.Symbol
import Footprint.Proofs.Text.NameTable
import Footprint.Proofs.Text.Utf8
import Footprint.Section
import Footprint.Symbol
import Footprint.Text.Blank
import Footprint.Text.CodePoints
import Footprint.Text.Column
import Footprint.Text.Number
import Footprint.Text.Quoted
import Footprint.Text.Search
import Footprint.Text.Utf8
import Footprint.Text.Word
import Footprint.Proofs.Elf.Acceptance
import Footprint.Proofs.Cursor.Watched
import Footprint.Proofs.Elf.Watched
import Footprint.Proofs.LinkMap.Idempotence
import Footprint.Proofs.Analyzer.Attribution
import Footprint.Proofs.Analyzer.Queries
import Footprint.Proofs.LineTable.Sequences
import Footprint.Proofs.Cursor.Extension
import Footprint.Proofs.LineProgram.Extension
import Footprint.Proofs.LineTable.Truncation
import Footprint.Proofs.LineTable.Lookup
import Footprint.Proofs.Analyzer.SourceLocations
import Footprint.Proofs.CommandLine.Filters
import Footprint.Proofs.Elf.Entries
import Footprint.Proofs.Text.Pattern
import Footprint.Proofs.LinkMap.Grammar
import Footprint.Proofs.LinkMap.Patterns
import Footprint.Proofs.LinkMap.Retention
import Footprint.Proofs.Grouping
import Footprint.Proofs.Elf.Sections
import Footprint.Proofs.Analyzer.Sections
import Footprint.Proofs.LinkMap.Objects
import Footprint.Proofs.CommandLine.Objects
import Footprint.Proofs.LinkMap.SectionLines
import Footprint.Proofs.Analyzer.ReservedIndices
import Footprint.Proofs.Cursor.VariableLength
import Footprint.Proofs.LineTable.Accounts
import Footprint.Proofs.Mangled.Language
import Footprint.Proofs.CommandLine.Printing
import Footprint.Proofs.CommandLine.Failures
import Footprint.Proofs.Cursor.Reach
import Footprint.Proofs.Cursor.Contract
import Footprint.Proofs.LineProgram.Special
