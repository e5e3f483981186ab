import SqlAdvice.Advice.Basic
import SqlAdvice.Advice.Rules
import SqlAdvice.Analysis
import SqlAdvice.Calendar
import SqlAdvice.Cause
import SqlAdvice.Console.Arguments
import SqlAdvice.Console.Markup
import SqlAdvice.Console.Output
import SqlAdvice.Console.Run
import SqlAdvice.Demo
import SqlAdvice.Draw.Source
import SqlAdvice.Draw.Twister
import SqlAdvice.Failure
import SqlAdvice.Files.Basic
import SqlAdvice.Files.Folder
import SqlAdvice.Files.Path
import SqlAdvice.Json.Basic
import SqlAdvice.Json.Reader
import SqlAdvice.Json.Writer
import SqlAdvice.Log
import SqlAdvice.Main
import SqlAdvice.Number.Decimal
import SqlAdvice.Number.Double
import SqlAdvice.Plan.Basic
import SqlAdvice.Plan.Cost
import SqlAdvice.Plan.Synthesis
import SqlAdvice.Problem
import SqlAdvice.Record.Issue
import SqlAdvice.Record.Reading
import SqlAdvice.Registry.Basic
import SqlAdvice.Registry.Document
import SqlAdvice.Registry.Input
import SqlAdvice.Registry.Load
import SqlAdvice.Report.Heading
import SqlAdvice.Report.Json
import SqlAdvice.Report.Markdown
import SqlAdvice.Report.Text
import SqlAdvice.Settings.Basic
import SqlAdvice.Settings.Load
import SqlAdvice.Settings.Session
import SqlAdvice.Settings.Variables
import SqlAdvice.Sql.Clauses
import SqlAdvice.Sql.Column
import SqlAdvice.Sql.Conditions
import SqlAdvice.Sql.Features
import SqlAdvice.Sql.Fragment
import SqlAdvice.Sql.Joins
import SqlAdvice.Sql.Keyword
import SqlAdvice.Sql.Name
import SqlAdvice.Sql.Statement
import SqlAdvice.Sql.Tables
import SqlAdvice.Statistics
import SqlAdvice.Text.Blank
import SqlAdvice.Text.CaseTable
import SqlAdvice.Text.Digit
import SqlAdvice.Text.Letter
import SqlAdvice.Text.Lines
import SqlAdvice.Text.Lowercase
import SqlAdvice.Text.PrintableTable
import SqlAdvice.Text.Quoted
import SqlAdvice.Text.Utf8
import SqlAdvice.Value
import SqlAdvice.Yaml.Cursor
import SqlAdvice.Yaml.Document
import SqlAdvice.Yaml.Node
import SqlAdvice.Yaml.Token
import SqlAdvice.Yaml.Token.Lexer
import SqlAdvice.Proofs.Distinct
import SqlAdvice.Proofs.Draws
import SqlAdvice.Proofs.RecordFields
import SqlAdvice.Proofs.WellFormedPlans
import SqlAdvice.Proofs.Synthesis
import SqlAdvice.Proofs.Findings
import SqlAdvice.Proofs.Features
import SqlAdvice.Proofs.Lookup
import SqlAdvice.Proofs.FollowedAdvice
import SqlAdvice.Proofs.Cutting
import SqlAdvice.Proofs.Trimmed
import SqlAdvice.Proofs.WholeWords
import SqlAdvice.Proofs.Scanning
import SqlAdvice.Proofs.Query
import SqlAdvice.Proofs.QueryText
import SqlAdvice.Proofs.QueryNames
import SqlAdvice.Proofs.Extraction
import SqlAdvice.Proofs.Stages
import SqlAdvice.Proofs.Advised
import SqlAdvice.Proofs.StatementKind
import SqlAdvice.Proofs.DrawnCosts
import SqlAdvice.Proofs.Shape
import SqlAdvice.Proofs.RegistryContent
import SqlAdvice.Proofs.GrowingRegistry
import SqlAdvice.Proofs.Rejections
import SqlAdvice.Proofs.TimeRounding
import SqlAdvice.Proofs.DrawBudget
import SqlAdvice.Proofs.FailingSource
import SqlAdvice.Proofs.JsonGrammar
import SqlAdvice.Proofs.JsonWriting
import SqlAdvice.Proofs.JsonReading
import SqlAdvice.Proofs.TextFiles
import SqlAdvice.Proofs.JsonReport
import SqlAdvice.Proofs.EditHistory
import SqlAdvice.Proofs.Fallible
import SqlAdvice.Proofs.ShortNumbers
import SqlAdvice.Proofs.WrittenReports
import SqlAdvice.Proofs.NormalForm
import SqlAdvice.Proofs.RegistryDocument
import SqlAdvice.Proofs.ValidatedRegistry
import SqlAdvice.Proofs.LiteralTemplate
import SqlAdvice.Proofs.KeywordFront
import SqlAdvice.Proofs.LiteralBlindness
import SqlAdvice.Proofs.Variants
import SqlAdvice.Proofs.VariantKeywords
import SqlAdvice.Proofs.VariantNames
import SqlAdvice.Proofs.VariantExtraction
import SqlAdvice.Proofs.VariantColumns
import SqlAdvice.Proofs.Layout
import SqlAdvice.Proofs.LetterCase
import SqlAdvice.Proofs.LiteralKeywords
import SqlAdvice.Proofs.SettingsSources
import SqlAdvice.Proofs.SettingsVariables
import SqlAdvice.Proofs.ShortAnalyses
import SqlAdvice.Proofs.SessionHistory
import SqlAdvice.Proofs.SettingsFile
import SqlAdvice.Proofs.AnalyzeCommand
import SqlAdvice.Proofs.CleanedTexts
import SqlAdvice.Proofs.KeywordPlaces
import SqlAdvice.Proofs.TopLevelCuts
import SqlAdvice.Proofs.PredicateSpans
import SqlAdvice.Proofs.ClauseTexts
import SqlAdvice.Proofs.Resplitting
import SqlAdvice.Proofs.SpelledColumns
import SqlAdvice.Proofs.Conjunctions
import SqlAdvice.Proofs.PercentWildcards
import SqlAdvice.Proofs.MarkdownRows
import SqlAdvice.Proofs.ExportedRegistry
import SqlAdvice.Proofs.ListedDefinitions
import SqlAdvice.Proofs.CalledNames
import SqlAdvice.Proofs.QuoteScanning
import SqlAdvice.Proofs.NameGrammar
import SqlAdvice.Proofs.CleanNames
