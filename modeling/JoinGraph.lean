import JoinGraph.Drawing
import JoinGraph.Graph.Json
import JoinGraph.Json.Reader
import JoinGraph.Json.Writer
import JoinGraph.Main
import JoinGraph.Pattern
import JoinGraph.Proofs.FieldNodes
import JoinGraph.Proofs.JoinLinks
import JoinGraph.Proofs.Sessions
import JoinGraph.Proofs.TableNodes
import JoinGraph.Request
import JoinGraph.Shape
import JoinGraph.Sql
import JoinGraph.Statement.Json
import JoinGraph.Proofs.Records
import JoinGraph.Proofs.WrittenTrees
import JoinGraph.Proofs.KeywordScan
import JoinGraph.Proofs.PlainStatement
import JoinGraph.Proofs.BlankSplit
import JoinGraph.Proofs.PlainLayout
import JoinGraph.Proofs.Conjunction
import JoinGraph.Proofs.PlainName
import JoinGraph.Proofs.PlainEntry
import JoinGraph.Proofs.PlainReading
import JoinGraph.Proofs.ParserOrder
import JoinGraph.Proofs.WrittenShapes
import JoinGraph.Proofs.ShapeAgreement
import JoinGraph.Proofs.PlainOutline
import JoinGraph.Proofs.CommentScan
import JoinGraph.Proofs.HiddenText
import JoinGraph.Proofs.TableExtraction
import JoinGraph.Proofs.AliasJoins
import JoinGraph.Proofs.GuessedJoins
import JoinGraph.Proofs.FieldOrder
import JoinGraph.Proofs.JsonReading
import JoinGraph.Proofs.JsonSpelling
import JoinGraph.Proofs.JsonTexts
import JoinGraph.Proofs.WrittenGraphs
import JoinGraph.Proofs.WrittenRequests
import JoinGraph.Proofs.DrawnAlike
import JoinGraph.Proofs.DrawingOptions
import JoinGraph.Proofs.RestatedJoins
import JoinGraph.Proofs.NormalStatement
import JoinGraph.Proofs.CommasAndJoins
import JoinGraph.Proofs.ComparedText
import JoinGraph.Proofs.ColumnNames
import JoinGraph.Proofs.TableNames
import JoinGraph.Proofs.LetterCase
import JoinGraph.Proofs.LoweredStatement
import JoinGraph.Proofs.ReadNames
import JoinGraph.Proofs.CommentsAsBlanks
import JoinGraph.Proofs.ConditionTrees
import JoinGraph.Proofs.CheckedGraphs
import JoinGraph.Proofs.Placeholder
import JoinGraph.Proofs.FieldLabels
import JoinGraph.Proofs.OutlinedText
import JoinGraph.Proofs.Complaints
import JoinGraph.Proofs.ChartIds
import JoinGraph.Proofs.GraphGroups
import JoinGraph.Proofs.Lines
import JoinGraph.Proofs.Flowchart
import JoinGraph.Proofs.Listing
import JoinGraph.Proofs.Runs
import JoinGraph.Proofs.TopLevelCuts
import JoinGraph.Proofs.AliasFields
