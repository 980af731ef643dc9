import LoxSyntax.Source.Session
import LoxSyntax.Expr.Postfix
import LoxSyntax.Parsing.Source
import LoxSyntax.Report
import LoxSyntax.Main
import LoxSyntax.Version
import LoxSyntax.Proofs.FirstFault
import LoxSyntax.Proofs.MaximalMunch
import LoxSyntax.Proofs.Statements
import LoxSyntax.Proofs.SessionRun
import LoxSyntax.Proofs.Lines
import LoxSyntax.Proofs.PostfixNotation
import LoxSyntax.Proofs.LoneStatement
import LoxSyntax.Proofs.JoinedLines
import LoxSyntax.Proofs.NumberSpelling
import LoxSyntax.Proofs.SourceTrees
import LoxSyntax.Proofs.Relabelling
import LoxSyntax.Proofs.Printing
import LoxSyntax.Proofs.SourceLiterals
import LoxSyntax.Proofs.ReportLines
import LoxSyntax.Proofs.TextLines
import LoxSyntax.Proofs.NearestNumber
import LoxSyntax.Proofs.NumberConversion
import LoxSyntax.Proofs.InputEnd
import LoxSyntax.Proofs.Rescanning
import LoxSyntax.Proofs.NameCharacters
import LoxSyntax.Proofs.AcceptedGrammars
import LoxSyntax.Proofs.ModuleLines
import LoxSyntax.Proofs.ModuleReading
import LoxSyntax.Proofs.NameCollisions
import LoxSyntax.Proofs.WordsOfText
import LoxSyntax.Proofs.GrammarFormat
import LoxSyntax.Proofs.EqualTrees
import LoxSyntax.Proofs.LineEnds
import LoxSyntax.Proofs.EncodedText
import LoxSyntax.Proofs.SourceFiles
import LoxSyntax.Proofs.FirstStop
import LoxSyntax.Proofs.ScanRun
import LoxSyntax.Proofs.CommandOutcomes
