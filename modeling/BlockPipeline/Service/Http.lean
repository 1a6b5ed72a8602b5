import BlockPipeline.Address.Reader
import BlockPipeline.Journal
import BlockPipeline.Json.Write
import BlockPipeline.Service.Basic
import BlockPipeline.Text.Basic

/-!
# The services over the hypertext protocol

A call becomes a request to a path below the base address of the services. A request that no
address can be built for, or whose address cannot be sent to, fails before anything is sent;
everything else is left to a function that delivers requests and brings back what was
answered.
-/

namespace BlockPipeline

/-- Where the services are, and how long to wait for them. -/
structure ServiceConfig where
  base : String
  /-- In milliseconds; no limit without one. -/
  timeout : Option Nat := none
deriving DecidableEq

namespace ServiceConfig

/-- The address of services on the same machine. -/
def localBase : String := "http://127.0.0.1:8000"

/-- The name of the environment variable with the base address. -/
def baseVariable : String := "BLOCKFLOW_API_BASE"

/-- A text without slashes at its end. -/
def withoutSlashes (s : String) : String :=
  String.ofList (s.toList.reverse.dropWhile (· = '/')).reverse

/-- The services below a base address. -/
def ofBase (base : String) : ServiceConfig := ⟨withoutSlashes base, none⟩

def standard : ServiceConfig := ofBase localBase

/-- The services that the environment names; a blank name counts as none. -/
def ofEnvironment (setting : Option String) : ServiceConfig :=
  match setting with
  | some base => if Text.trimmed base = "" then standard else ofBase (Text.trimmed base)
  | none => standard

end ServiceConfig

inductive Method where
  | get
  | post
deriving DecidableEq

def Method.text : Method → String
  | .get => "GET"
  | .post => "POST"

/-- A request that is to be sent. -/
structure Request where
  method : Method
  url : String
  body : Option String := none
deriving DecidableEq

/-- What came back. -/
structure Response where
  status : Nat
  body : String

/-- Delivers requests. -/
abbrev Delivery := Request → Reply Response

/-- The request of a call. -/
def Call.request (base : String) (c : Call) : Request :=
  let path := match c with
    | .listBlocks => "/blocks"
    | .createRun _ | .listRuns => "/runs"
    | .explain _ => "/explain"
  match c.body? with
  | none => { method := .get, url := base ++ path }
  | some body => { method := .post, url := base ++ path, body := some body.compact }

namespace Request

/-- The event of a request that is about to be sent. -/
def event (r : Request) : Event := .request r.method.text r.url

/-- Why a request cannot be sent, if it cannot: its address is none, or is one that requests
do not reach. -/
def refusal? (r : Request) : Option ServiceError :=
  match (Address.ofText? r.url).map Address.withoutUser with
  | none => some (.transport "builder error")
  | some a =>
    if a.isSendable then none
    else some (.transport ("builder error for url (" ++ a.text ++ ")"))

/-- The answer to a request, decoded. Any status of success will do; another one is a refusal
with the best message in the body. -/
def send {α : Type} (r : Request) (deliver : Delivery) (c : Codec α) : Reply α :=
  match r.refusal? with
  | some e => .error e
  | none => do
    let response ← deliver r
    if 200 ≤ response.status ∧ response.status < 300 then
      (c.decodeText response.body).mapError fun e => .undecodable e.message
    else
      throw (.refused response.status (refusalMessage response.status response.body))

end Request

/-- The four calls over a delivery. -/
structure HttpService where
  base : String
  deliver : Delivery

namespace HttpService

def listBlocks (s : HttpService) : Reply (List BlockRecord) :=
  (Call.listBlocks.request s.base).send s.deliver BlockRecord.codec.list

def createRun (s : HttpService) (spec : Spec) : Reply RunCreated :=
  ((Call.createRun spec).request s.base).send s.deliver RunCreated.codec

def explain (s : HttpService) (spec : Spec) : Reply Trace :=
  ((Call.explain spec).request s.base).send s.deliver Trace.codec

def listRuns (s : HttpService) : Reply (List RunListItem) :=
  (Call.listRuns.request s.base).send s.deliver RunListItem.codec.list

end HttpService

end BlockPipeline
