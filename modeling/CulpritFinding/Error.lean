import CulpritFinding.Failure.Kind

namespace CulpritFinding

inductive ProviderError
  | unavailable (service reason : String)
  | malformed (service reason : String)
  deriving DecidableEq

def ProviderError.message : ProviderError → String
  | unavailable service reason => service ++ " unavailable: " ++ reason
  | malformed service reason => service ++ " returned malformed data: " ++ reason

inductive SchedulerError
  | rejected (reason : String)
  | unavailable (reason : String)
  deriving DecidableEq

def SchedulerError.message : SchedulerError → String
  | rejected reason => "try-job request rejected: " ++ reason
  | unavailable reason => "try-job scheduler unavailable: " ++ reason

inductive StoredRecord
  | analysis
  | failureGroup
  | tryJob
  deriving DecidableEq

def StoredRecord.text : StoredRecord → String
  | analysis => "analysis"
  | failureGroup => "failure group"
  | tryJob => "try job"

inductive StoreError
  | alreadyExists (record : StoredRecord) (key : String)
  | notFound (record : StoredRecord) (key : String)
  | backend (reason : String)
  deriving DecidableEq

def StoreError.message : StoreError → String
  | alreadyExists record key => record.text ++ " " ++ key ++ " already exists"
  | notFound record key => record.text ++ " " ++ key ++ " not found"
  | backend reason => "store backend error: " ++ reason

inductive AnalysisError
  | missingBuildData (build : BuildKey)
  | noGoodRevision (step : String)
  | tryJobScheduling (tryJob : String) (source : SchedulerError)
  | unknownTryJob (tryJobId : String)
  /-- A time or a number does not fit. The call stops where it stands: what it wrote stays, and
  nothing is written about the failure. -/
  | outOfRange
  | provider (source : ProviderError)
  | store (source : StoreError)
  deriving DecidableEq

namespace AnalysisError

def message : AnalysisError → String
  | missingBuildData build => "build data missing for " ++ build.text
  | noGoodRevision step => "no good revision for step " ++ step
  | tryJobScheduling tryJob source =>
    "try-job scheduling failed for " ++ tryJob ++ ": " ++ source.message
  | unknownTryJob id => "unknown try job " ++ id
  | outOfRange => "out of range"
  | provider source => source.message
  | store source => source.message

def isRetryable : AnalysisError → Bool
  | tryJobScheduling _ _ => true
  | provider (.unavailable _ _) => true
  | store (.backend _) => true
  | _ => false

end AnalysisError

end CulpritFinding
