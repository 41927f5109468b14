import AecBench.Execution.Concurrency
import AecBench.Execution.Cancellation
import AecBench.Execution.Fencing
import AecBench.Execution.Settlement
import AecBench.Lifecycles.ReducerValidity
import AecBench.Evolution.Session.Reservation
import AecBench.Evolution.Swarm.Spending
import AecBench.Evolution.Identity
import AecBench.Ledger.FullFactorial
import AecBench.Ledger.RunRecovery
import AecBench.Ledger.Publication
import AecBench.Harness.Budget
import AecBench.Harness.ProgramExecution.Activation
import AecBench.Contracts.Reconciliation
import AecBench.Harness.Compilation.Agreement
import AecBench.Worlds.Runtime.StepChain
import AecBench.Harness.GovernedAttempt.Recovery
import AecBench.Harness.ProviderBroker.Budgets
import AecBench.Worlds.Runtime.Rollout.Creation
import AecBench.Worlds.Stewardship.PumpStation.ReturnToService
import AecBench.Worlds.Stewardship.PumpStation.PlannedOutage
import AecBench.Worlds.Stewardship.PumpStation.TemporalEvidence.Frontier
import AecBench.Experimentation.Governance.Standing
import AecBench.Experimentation.LearningStudies.Isolation
import AecBench.Lifecycles.PackageIdentity
import AecBench.Execution.Operational.Selection
import AecBench.Execution.Operational.Timestamps
import AecBench.Lifecycles.Catalogues
import AecBench.Lifecycles.Grants
import AecBench.Evolution.Convergence
import AecBench.Evolution.Retention
import AecBench.Evolution.Swarm.Lineage
import AecBench.Evolution.Swarm.Elitism
import AecBench.Worlds.Runtime.Rollout.Repository
import AecBench.Adapters.LambdaRlm.Sources
import AecBench.Adapters.LambdaRlm.Chunking
import AecBench.Adapters.LambdaRlm.Ordering
import AecBench.Evaluation.Classification
