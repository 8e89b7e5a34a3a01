import TableQuery.Csv.Reader
import TableQuery.Json.Decode
import TableQuery.Pattern.Meaning
import TableQuery.Pattern.Reach
import TableQuery.Text.Quoted
import TableQuery.Schema.Encoding
import TableQuery.Agent.Encoding
import TableQuery.Transformation.Encoding
import TableQuery.Main
import TableQuery.Proofs.Csv.Reload
import TableQuery.Proofs.Json.Export
import TableQuery.Proofs.Question.BoundPlan
import TableQuery.Proofs.Question.SortPlan
import TableQuery.Proofs.Session.History
import TableQuery.Proofs.Session.Paging
import TableQuery.Proofs.Page.Exact
import TableQuery.Proofs.Session.CurrentPage
import TableQuery.Proofs.Question.Phrase
import TableQuery.Proofs.Question.Origin
import TableQuery.Proofs.Question.WellFormed
import TableQuery.Proofs.Question.Explanation
import TableQuery.Proofs.Question.ColumnOrder
import TableQuery.Proofs.Transformation.Column
import TableQuery.Proofs.Agent.Keys
import TableQuery.Proofs.Transformation.Pending
import TableQuery.Proofs.Agent.Batch
import TableQuery.Proofs.Agent.Order
import TableQuery.Proofs.Decimal.Natural
import TableQuery.Proofs.Numeral.Natural
import TableQuery.Proofs.Agent.Kept
import TableQuery.Proofs.Schema.Derivation
import TableQuery.Proofs.Sorting.Arrangement
import TableQuery.Proofs.Pattern.First
import TableQuery.Proofs.Question.EqualityClause
import TableQuery.Proofs.Question.LimitPlan
import TableQuery.Proofs.Question.SortName
import TableQuery.Proofs.Question.StatusPlan
import TableQuery.Proofs.Pattern.Chosen
import TableQuery.Proofs.Question.TextOperand
import TableQuery.Proofs.Condition.Containment
import TableQuery.Proofs.Condition.Expansion
import TableQuery.Proofs.Schema.Conditions
import TableQuery.Proofs.Filter.Algebra
import TableQuery.Proofs.Sorting.Filtering
import TableQuery.Proofs.Page.Following
import TableQuery.Proofs.Numeral.Grammar
import TableQuery.Proofs.Numeral.Shown
import TableQuery.Proofs.Cell.Typing
import TableQuery.Proofs.Csv.Records
import TableQuery.Proofs.Schema.Building
import TableQuery.Proofs.Transformation.Application
import TableQuery.Proofs.Template.Filling
import TableQuery.Proofs.Transformation.Standardizing
import TableQuery.Proofs.Json.Records
import TableQuery.Proofs.Insight.Commonest
import TableQuery.Proofs.Grid.Rectangle
