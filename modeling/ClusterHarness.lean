import ClusterHarness.CommandLine.Program
import ClusterHarness.Console.Colour
import ClusterHarness.Logging.Line
import ClusterHarness.Platform.Devfile
import ClusterHarness.Polling.Schedule
import ClusterHarness.Proofs.Bundle.Passes
import ClusterHarness.Proofs.Bundle.Publishing
import ClusterHarness.Proofs.Cluster.Labels
import ClusterHarness.Proofs.Fixture.Lifecycle
import ClusterHarness.Proofs.Fixture.Rollouts
import ClusterHarness.Proofs.Git.Resumption
import ClusterHarness.Proofs.Host.Retries
import ClusterHarness.Proofs.Hub.Pages
import ClusterHarness.Proofs.Job.Variables
import ClusterHarness.Proofs.Platform.Builds
import ClusterHarness.Proofs.Platform.Credentials
import ClusterHarness.Proofs.Platform.FailureLogs
import ClusterHarness.Proofs.Platform.Namespaces
import ClusterHarness.Proofs.Platform.Persistence
import ClusterHarness.Proofs.Platform.Releases
import ClusterHarness.Proofs.Platform.Reports
import ClusterHarness.Proofs.Platform.Selectors
import ClusterHarness.Proofs.Platform.Snapshots
import ClusterHarness.Proofs.Polling.Cuts
import ClusterHarness.Proofs.Polling.Outcome
import ClusterHarness.Proofs.Polling.Rounds
import ClusterHarness.Proofs.Polling.Spacing
import ClusterHarness.Proofs.Resource.Histories
import ClusterHarness.Proofs.Resource.NormalForms
import ClusterHarness.Proofs.Settings.SuiteFilters
import ClusterHarness.Proofs.Settings.Timeouts
import ClusterHarness.Proofs.Workflow.Branch
import ClusterHarness.Proofs.Workflow.Cleanup
import ClusterHarness.Proofs.Workflow.Suites
import ClusterHarness.Rehearsal.Host
import ClusterHarness.Remote.Fixtures
