import Scaffold.Main
import Scaffold.Proofs.Api.Closure
import Scaffold.Proofs.Api.Entries
import Scaffold.Proofs.Api.Frame
import Scaffold.Proofs.Api.Lost
import Scaffold.Proofs.Api.Merging
import Scaffold.Proofs.Api.NamedReferences
import Scaffold.Proofs.Api.Nullability
import Scaffold.Proofs.Api.Order
import Scaffold.Proofs.Api.Parameters
import Scaffold.Proofs.Api.Requests
import Scaffold.Proofs.Api.Termination
import Scaffold.Proofs.Api.Understood
import Scaffold.Proofs.Api.Unrelated
import Scaffold.Proofs.Code.Type
import Scaffold.Proofs.Database.Constraints
import Scaffold.Proofs.Database.Enums
import Scaffold.Proofs.Database.Feed
import Scaffold.Proofs.Database.ForeignKeys
import Scaffold.Proofs.Database.TypeTexts
import Scaffold.Proofs.Declaration.Exact
import Scaffold.Proofs.DryRun
import Scaffold.Proofs.Dto
import Scaffold.Proofs.Generate.Below
import Scaffold.Proofs.Generate.Imports
import Scaffold.Proofs.Generate.Members
import Scaffold.Proofs.Generate.Methods
import Scaffold.Proofs.Generate.Models
import Scaffold.Proofs.Generate.PathTemplate
import Scaffold.Proofs.Generate.Variables
import Scaffold.Proofs.Input.Extract
import Scaffold.Proofs.Input.Order
import Scaffold.Proofs.Input.Repeats
import Scaffold.Proofs.Json.Values
import Scaffold.Proofs.Mapping.Additions
import Scaffold.Proofs.Mapping.Joins
import Scaffold.Proofs.RequiredKeys
import Scaffold.Proofs.Target.Grouping
import Scaffold.Proofs.Target.Identifiers
import Scaffold.Proofs.Target.ReadBack
import Scaffold.Proofs.Text.Lines
import Scaffold.Proofs.Text.Plural
import Scaffold.Proofs.TypeExpr.Flattening
import Scaffold.Proofs.TypeExpr.View
