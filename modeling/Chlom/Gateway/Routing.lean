import Chlom.Gateway.Attestation

/-!
# What a proxy reads from the headers

A modern message repeats its protocol, its method and the tool it calls in headers, so that a
proxy can route it and refuse it unopened.  A tool answers only a message that its headers
describe: one with the headers of the modern protocol is modern, and runs the tool they name.
The answer is what this tool makes of the arguments in the message.
-/

namespace Chlom.Gateway

open Js Results

variable {N : Type} [Numbers N] {host : Host N} {request : Request N} {body : Value N} {name : Str}

/-- The result of the tool that the body calls, run on its arguments when so much was sent. -/
def Answers (host : Host N) (network : Network N) (body : Value N) (name : Str)
    (log : List (Outgoing N)) (output : ToolOutput N) (isError : Bool) : Prop :=
  toolResult (Dispatch.outcome (executeTool host network name
    (get (get (some body) "params") "arguments") log)) = .ok (output, isError)

/-! ## The checks -/

end Chlom.Gateway
