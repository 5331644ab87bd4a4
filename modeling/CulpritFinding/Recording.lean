import CulpritFinding.Engine

namespace CulpritFinding

structure Recording where
  builds : List Build
  changeLogs : List ChangeLog
  dependencies : DependencyRolls
  logs : StepLogs
  deriving DecidableEq

namespace Recording

def format : Format Recording := .record <|
  Shape.pure Recording.mk
    |>.withDefault "builds" (.list Build.format) (·.builds) []
    |>.withDefault "change_logs" (.list ChangeLog.format) (·.changeLogs) []
    |>.withDefault "deps" DependencyRolls.format (·.dependencies) .empty
    |>.withDefault "logs" StepLogs.format (·.logs) .empty

/-- The services that answer from a recording. Requests for try jobs are taken, and nothing is done
about them. -/
def services (r : Recording) (config : Config) : Services where
  config
  history := recordedHistory r.builds
  changeLogs := recordedChangeLogs r.changeLogs
  dependencies := recordedDependencies r.dependencies
  scheduler := .recording 0 .empty none
  scorer := FileOverlap.hints ⟨config.hintWeights⟩
  storeFault _ := none

end Recording

end CulpritFinding
