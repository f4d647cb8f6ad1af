import SchemaText.Command.CommandLine
import SchemaText.Command.FileTree
import SchemaText.Command.Host
import SchemaText.Command.Json
import SchemaText.Command.Path
import SchemaText.Command.Request
import SchemaText.Command.Run
import SchemaText.Command.Source
import SchemaText.Command.Terminal
import SchemaText.Diagram.Column
import SchemaText.Diagram.Cursor
import SchemaText.Diagram.Document
import SchemaText.Diagram.Enumeration
import SchemaText.Diagram.Index
import SchemaText.Diagram.Lexeme
import SchemaText.Diagram.Notice
import SchemaText.Diagram.Printer
import SchemaText.Diagram.Relationship
import SchemaText.Diagram.Table
import SchemaText.Export.Catalog
import SchemaText.Export.Compiler
import SchemaText.Export.Compiler.Name
import SchemaText.Export.DefaultValue
import SchemaText.Export.Definition
import SchemaText.Export.Dialect
import SchemaText.Export.Library
import SchemaText.Export.TypeName
import SchemaText.Main
import SchemaText.Pattern.Basic
import SchemaText.Pattern.Search
import SchemaText.Proofs.Command.Answer
import SchemaText.Proofs.Command.SourceText
import SchemaText.Proofs.Diagram.ColumnText
import SchemaText.Proofs.Diagram.DocumentText
import SchemaText.Proofs.Diagram.DottedName
import SchemaText.Proofs.Diagram.Enclosure
import SchemaText.Proofs.Diagram.EnumerationText
import SchemaText.Proofs.Diagram.Expressible
import SchemaText.Proofs.Diagram.InContext
import SchemaText.Proofs.Diagram.IndexText
import SchemaText.Proofs.Diagram.InnerReport
import SchemaText.Proofs.Diagram.Legible
import SchemaText.Proofs.Diagram.LegibleName
import SchemaText.Proofs.Diagram.Place
import SchemaText.Proofs.Diagram.Progress
import SchemaText.Proofs.Diagram.Quotation
import SchemaText.Proofs.Diagram.ReferenceLine
import SchemaText.Proofs.Diagram.RelationshipText
import SchemaText.Proofs.Diagram.Remark
import SchemaText.Proofs.Diagram.RemarkedText
import SchemaText.Proofs.Diagram.Reparse
import SchemaText.Proofs.Diagram.RepeatReport
import SchemaText.Proofs.Diagram.RoundTrip
import SchemaText.Proofs.Diagram.Rounds
import SchemaText.Proofs.Diagram.TableText
import SchemaText.Proofs.Diagram.Tiling
import SchemaText.Proofs.Diagram.ValueText
import SchemaText.Proofs.Diagram.Within
import SchemaText.Proofs.EncodedValue
import SchemaText.Proofs.Export.BuiltCatalog
import SchemaText.Proofs.Export.Chain
import SchemaText.Proofs.Export.CountedScript
import SchemaText.Proofs.Export.CountingColumn
import SchemaText.Proofs.Export.CreatedType
import SchemaText.Proofs.Export.DefinitionText
import SchemaText.Proofs.Export.EnumReadBack
import SchemaText.Proofs.Export.KnownType
import SchemaText.Proofs.Export.NameEnd
import SchemaText.Proofs.Export.PlainCatalog
import SchemaText.Proofs.Export.PlainSchema
import SchemaText.Proofs.Export.QuotedName
import SchemaText.Proofs.Export.ReadBack
import SchemaText.Proofs.Export.Registration
import SchemaText.Proofs.Export.RelationshipEdit
import SchemaText.Proofs.Export.TableLayout
import SchemaText.Proofs.Export.TypeNumbers
import SchemaText.Proofs.Export.TypeRecognition
import SchemaText.Proofs.Export.TypeSpelling
import SchemaText.Proofs.Export.TypeText
import SchemaText.Proofs.Pattern.Admits
import SchemaText.Proofs.Pattern.Alike
import SchemaText.Proofs.Pattern.Anchored
import SchemaText.Proofs.Pattern.Contained
import SchemaText.Proofs.Pattern.Found
import SchemaText.Proofs.Pattern.Leads
import SchemaText.Proofs.Pattern.Meets
import SchemaText.Proofs.Pattern.Parallel
import SchemaText.Proofs.Pattern.Silent
import SchemaText.Proofs.Pattern.Sought
import SchemaText.Proofs.Pattern.Spelled
import SchemaText.Proofs.Pattern.Takes
import SchemaText.Proofs.QualifiedName
import SchemaText.Proofs.Sql.Accepted
import SchemaText.Proofs.Sql.Attribute
import SchemaText.Proofs.Sql.Balanced
import SchemaText.Proofs.Sql.ClauseText
import SchemaText.Proofs.Sql.Cleaned
import SchemaText.Proofs.Sql.ColumnHead
import SchemaText.Proofs.Sql.ColumnRead
import SchemaText.Proofs.Sql.CommentBlank
import SchemaText.Proofs.Sql.CommentFree
import SchemaText.Proofs.Sql.CommentScan
import SchemaText.Proofs.Sql.ConstraintFrame
import SchemaText.Proofs.Sql.ConstraintRead
import SchemaText.Proofs.Sql.Containment
import SchemaText.Proofs.Sql.Conversion
import SchemaText.Proofs.Sql.EnumerationRead
import SchemaText.Proofs.Sql.Extracted
import SchemaText.Proofs.Sql.Gathered
import SchemaText.Proofs.Sql.Grammar
import SchemaText.Proofs.Sql.KeyedColumns
import SchemaText.Proofs.Sql.LiteralSearch
import SchemaText.Proofs.Sql.LiteralTail
import SchemaText.Proofs.Sql.LiteralText
import SchemaText.Proofs.Sql.Matches
import SchemaText.Proofs.Sql.Name
import SchemaText.Proofs.Sql.NameList
import SchemaText.Proofs.Sql.NameSequence
import SchemaText.Proofs.Sql.NameText
import SchemaText.Proofs.Sql.NamedClause
import SchemaText.Proofs.Sql.OpaqueLiteral
import SchemaText.Proofs.Sql.Opening
import SchemaText.Proofs.Sql.OptionText
import SchemaText.Proofs.Sql.OptionValue
import SchemaText.Proofs.Sql.Quiet
import SchemaText.Proofs.Sql.QuotedNames
import SchemaText.Proofs.Sql.Recognised
import SchemaText.Proofs.Sql.Report
import SchemaText.Proofs.Sql.ReportPlace
import SchemaText.Proofs.Sql.ScriptRead
import SchemaText.Proofs.Sql.StatementReport
import SchemaText.Proofs.Sql.Stripped
import SchemaText.Proofs.Sql.TableOpening
import SchemaText.Proofs.Sql.TableRead
import SchemaText.Proofs.Sql.TextCharacters
import SchemaText.Proofs.Sql.TopLevel
import SchemaText.Proofs.Sql.ValuelessOption
import SchemaText.Proofs.Sql.Written
import SchemaText.Proofs.Sql.WrittenClause
import SchemaText.Proofs.Sql.WrittenName
import SchemaText.Proofs.Sql.WrittenScript
import SchemaText.Proofs.Sql.WrittenTable
import SchemaText.Proofs.Sql.WrittenText
import SchemaText.Proofs.Text.Letter
import SchemaText.Proofs.Text.Split
import SchemaText.Proofs.Text.Trim
import SchemaText.Proofs.Text.Utf8
import SchemaText.Proofs.Text.Words
import SchemaText.Reading
import SchemaText.Schema
import SchemaText.Sql.Clause
import SchemaText.Sql.Column
import SchemaText.Sql.Comment
import SchemaText.Sql.Draft
import SchemaText.Sql.ForeignKey
import SchemaText.Sql.Script
import SchemaText.Sql.Statement
import SchemaText.Sql.Token
import SchemaText.Text.Character
import SchemaText.Text.Emoji
import SchemaText.Text.Lowercase
import SchemaText.Text.Quoted
import SchemaText.Text.Split
import SchemaText.Text.Utf8
import SchemaText.Text.Width
import SchemaText.Text.Wrap
