import TextTemplate.Names
import TextTemplate.Bindings
import TextTemplate.Binary64.Decimal
import TextTemplate.Text.Quoted
import TextTemplate.Value.Equality
import TextTemplate.Value.Inspect
import TextTemplate.Tree.Equality
import TextTemplate.Eval.Expr
import TextTemplate.Context
import TextTemplate.Sink
import TextTemplate.Render.Stmt
import TextTemplate.Host.Bind
import TextTemplate.Session
import TextTemplate.Proofs.ScopeFrame
import TextTemplate.Proofs.PlainLoop
import TextTemplate.Proofs.LexicalRender
import TextTemplate.Proofs.ValueBisimulation
import TextTemplate.Proofs.RelationalRender
import TextTemplate.Proofs.ValueShape
import TextTemplate.Proofs.ListSimilarity
import TextTemplate.Proofs.FailingMoment
import TextTemplate.Proofs.ValueEquality
import TextTemplate.Proofs.OwnedTree
import TextTemplate.Proofs.MapStandIn
import TextTemplate.Proofs.ContextDependence
import TextTemplate.Proofs.ValueInvariant
import TextTemplate.Proofs.RangeItems
import TextTemplate.Proofs.SafeFragment
import TextTemplate.Proofs.ScopeLimit
import TextTemplate.Proofs.TreeEquality
import TextTemplate.Proofs.LoopVariables
import TextTemplate.Proofs.IndependentIterations
import TextTemplate.Proofs.ValueContent
import TextTemplate.Proofs.SessionScopes
import TextTemplate.Proofs.LoopRewriting
import TextTemplate.Proofs.BranchChoice
import TextTemplate.Proofs.LoopElse
import TextTemplate.Proofs.EvaluationOrder
import TextTemplate.Proofs.LoopCycle
import TextTemplate.Proofs.FieldAssignment
import TextTemplate.Proofs.RecordViews
import TextTemplate.Proofs.AbsentParts
import TextTemplate.Proofs.TreeEquivalence
import TextTemplate.Proofs.FailingMoment
