import QueryTutor.Analysis.Keyword
import QueryTutor.Decimal.Fixed
import QueryTutor.Exercise.Library
import QueryTutor.Mistake.Reading
import QueryTutor.Proofs.Analysis.Consistency
import QueryTutor.Proofs.Analysis.Qualifier
import QueryTutor.Proofs.Analysis.Selection
import QueryTutor.Proofs.Analysis.TopClause
import QueryTutor.Proofs.Catalog.Absence
import QueryTutor.Proofs.Catalog.CommaJoin
import QueryTutor.Proofs.Catalog.MissingWhere
import QueryTutor.Proofs.Catalog.PlainForm
import QueryTutor.Proofs.Catalog.Predicate
import QueryTutor.Proofs.Catalog.WellFormed
import QueryTutor.Proofs.Check.Growth
import QueryTutor.Proofs.Check.Overlap
import QueryTutor.Proofs.Check.Snippet
import QueryTutor.Proofs.Exercise.Outcome
import QueryTutor.Proofs.Feedback.ExecutionStep
import QueryTutor.Proofs.Query.ValueList
import QueryTutor.Proofs.Score.Exact
import QueryTutor.Proofs.Validation.Advice
import QueryTutor.Proofs.Validation.Careful
import QueryTutor.Proofs.Validation.Coherence
import QueryTutor.Proofs.Validation.Length
import QueryTutor.Proofs.Validation.LetterCase
import QueryTutor.Proofs.Validation.Remark
import QueryTutor.Proofs.Validation.Share
import QueryTutor.Proofs.Validation.Solution
import QueryTutor.Proofs.Validation.Strictness
import QueryTutor.Service.Response
import QueryTutor.Session
import QueryTutor.Settings
