import WireShapes.Main
import WireShapes.Records
import WireShapes.Proofs.Records.Validation
import WireShapes.Proofs.Records.Documents
import WireShapes.Proofs.Records.Requests
import WireShapes.Proofs.Records.Responses
import WireShapes.Proofs.Json.Nesting
import WireShapes.Proofs.Json.Legal
import WireShapes.Proofs.Json.Extent
import WireShapes.Proofs.Schema.Leniency
import WireShapes.Proofs.Json.Documents
import WireShapes.Proofs.Json.Positions
import WireShapes.Proofs.Stream.Delivery
import WireShapes.Proofs.Schema.Contents
import WireShapes.Proofs.Schema.Order
import WireShapes.Proofs.Records.Order
import WireShapes.Proofs.Model.Recursion
import WireShapes.Proofs.Constraint.Propagation
import WireShapes.Proofs.Constraint.Reachability
import WireShapes.Proofs.Schema.Events
import WireShapes.Proofs.Records.Events
import WireShapes.Proofs.Code.Generation
import WireShapes.Proofs.Code.Traversal
import WireShapes.Proofs.Code.Written
import WireShapes.Proofs.Code.Places
import WireShapes.Proofs.Code.Growth
import WireShapes.Proofs.Model.Distinct
import WireShapes.Proofs.Model.Preparation
import WireShapes.Proofs.Code.Streams
import WireShapes.Proofs.Code.Recipes
import WireShapes.Proofs.Code.Ledger
import WireShapes.Proofs.Code.Closure
import WireShapes.Proofs.Code.Bodies
import WireShapes.Proofs.Http.Query
import WireShapes.Proofs.Http.Labels
import WireShapes.Proofs.Code.Forms
import WireShapes.Proofs.Source.Numbers
import WireShapes.Proofs.Source.Tables
import WireShapes.Proofs.Source.Sameness
import WireShapes.Proofs.Model.Traits
import WireShapes.Proofs.Model.Alike
import WireShapes.Proofs.Model.Merging
import WireShapes.Proofs.Model.Members
import WireShapes.Proofs.Http.ListFields
import WireShapes.Proofs.Instant.Days
import WireShapes.Proofs.Instant.Texts
import WireShapes.Proofs.Http.Placeholders
import WireShapes.Proofs.Schema.Failures
import WireShapes.Proofs.Schema.Builders
import WireShapes.Proofs.Records.Builders
import WireShapes.Proofs.Numeric.Narrowing
import WireShapes.Proofs.Instant.Seconds
import WireShapes.Proofs.Schema.Variants
import WireShapes.Proofs.Records.Variants
import WireShapes.Proofs.Code.Fallible
import WireShapes.Proofs.Json.Levels
import WireShapes.Proofs.ErrorBody
import WireShapes.Proofs.Json.Lexical
import WireShapes.Proofs.Spelling
import WireShapes.Proofs.Http.Matching
import WireShapes.Proofs.Http.DateFields
import WireShapes.Proofs.Json.Origins
import WireShapes.Proofs.Json.Rereading
import WireShapes.Proofs.Constraint.Bounds
import WireShapes.Proofs.Code.Defaults
import WireShapes.Proofs.Code.Naming
import WireShapes.Proofs.Code.Variants
import WireShapes.Proofs.Json.Blobs
import WireShapes.Proofs.Json.Units
import WireShapes.Proofs.Code.Sides
import WireShapes.Proofs.Code.Indentation
import WireShapes.Proofs.Json.Reports
