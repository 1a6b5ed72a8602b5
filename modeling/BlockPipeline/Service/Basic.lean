import BlockPipeline.Spec.Basic
import BlockPipeline.Trace.Basic

/-!
# The services

An editor talks to three services: the registry, the run service and the explain service.
Each call is one request and one answer. This module has the calls, what comes back, and the
ways in which a call fails.
-/

namespace BlockPipeline

/-- A call to a service. -/
inductive Call where
  | listBlocks
  | createRun (spec : Spec)
  | explain (spec : Spec)
  | listRuns

/-- The body of a call that submits a specification. -/
def Spec.envelope (s : Spec) : Json := .object [("spec", codec.encode s)]

/-- The body that a call sends, if it sends one. -/
def Call.body? : Call → Option Json
  | .listBlocks | .listRuns => none
  | .createRun spec | .explain spec => some spec.envelope

/-- A run that was accepted. -/
structure RunCreated where
  runId : String
  status : String
  metrics : Option FreeObject := none

def RunCreated.codec : Codec RunCreated :=
  Record.codec
    (Record.start RunCreated.mk
      |>.required "runId" .string RunCreated.runId
      |>.required "status" .string RunCreated.status
      |>.nullable "metrics" .object RunCreated.metrics)
    "RunCreateResponse"

/-- A row of the run history; its times are kept as the service wrote them. -/
structure RunListItem where
  runId : String
  status : String
  createdAt : String
  finishedAt : Option String := none
  metrics : FreeObject := .empty

def RunListItem.codec : Codec RunListItem :=
  Record.codec
    (Record.start RunListItem.mk
      |>.required "runId" .string RunListItem.runId
      |>.required "status" .string RunListItem.status
      |>.required "createdAt" .string RunListItem.createdAt
      |>.nullable "finishedAt" .string RunListItem.finishedAt
      |>.defaulted "metrics" .object .empty RunListItem.metrics)
    "RunListItem"

/-- Why a call failed. -/
inductive ServiceError where
  /-- The request did not get through. -/
  | transport (reason : String)
  /-- The service refused; the message is the best one found in its answer. -/
  | refused (status : Nat) (message : String)
  | undecodable (reason : String)
  | misconfigured (reason : String)
deriving DecidableEq

def ServiceError.message : ServiceError → String
  | .transport reason => "Request failed: " ++ reason
  | .refused _ message => message
  | .undecodable reason => "Failed to decode response: " ++ reason
  | .misconfigured reason => "Client configuration error: " ++ reason

/-- What a service answers to a call. -/
abbrev Reply (α : Type) := Except ServiceError α

/-- The best message in the body of a refusal: the error under `detail`, else the message
there, else `detail` itself if it is a text, else the status. -/
def refusalMessage (status : Nat) (body : String) : String :=
  let detail := (FreeJson.read body).toOption.bind (·.member? "detail")
  let text (key : String) : Option String := do (← (← detail).member? key).string?
  let found := text "error" <|> text "message" <|> detail.bind (·.string?)
  found.getD ("HTTP " ++ toString status)

end BlockPipeline
