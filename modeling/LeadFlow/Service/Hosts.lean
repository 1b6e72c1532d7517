import LeadFlow.Message.Delivery
import LeadFlow.Writer.Client

set_option autoImplicit false

/-!
# Service: hosts

The provider that delivers messages and the model that rewords them are reached over the network.
Each has a line of its own, on which every exchange is noted, and whatever an exchange takes counts
as time of the call it was made for.
-/

namespace LeadFlow.Service

open Execution Http

/-- The line to a host whose state is `σ`. -/
abbrev Line (τ σ : Type) := Course network τ σ

/-- A line on which nothing has been said yet. -/
def Line.fresh {τ σ : Type} [Timeline τ] (host : σ) : Line τ σ := ⟨host, Timeline.zero, 0, 0, 0, []⟩

/-- Talks to a host at a time; gives what it comes to, how long it takes, and the line after it. -/
def converse {τ σ α : Type} [Timeline τ] (host : Outside network τ σ) (talk : Talk α)
    (now : Calendar.Moment) (line : Line τ σ) : Answer τ (Line τ σ) α :=
  let (outcome, after) := talk.complete host { line with start := now.instant - Timeline.micros line.time }
  ⟨Timeline.sub after.time line.time, outcome, after⟩

/-- The lines to the hosts, and what the model has been used for. -/
structure Hosts (τ σ : Type) where
  provider : Line τ σ
  model : Line τ σ
  usage : Writer.Usage

/-- How hosts answer. -/
structure Network (τ σ : Type) where
  provider : Outside network τ σ
  model : Outside network τ σ

/-- The fault of a call that is none for the hosts. -/
def noHost : Fault := .of .runtime "no host answers this call"

/-- Answers calls over the network. -/
def Network.outside {τ σ : Type} [Timeline τ] (net : Network τ σ) (s : Settings) :
    Outside calls τ (Hosts τ σ) := fun now c hosts =>
  match c with
  | .sendMessage address content tracking leadId =>
    let a := converse net.provider (Message.deliver s address content tracking leadId) now hosts.provider
    ⟨a.delay, a.outcome, { hosts with provider := a.world }⟩
  | .generate lead brief =>
    let a := converse net.model (Writer.reword s lead brief.toFields hosts.usage) now hosts.model
    let hosts := { hosts with model := a.world }
    match a.outcome with
    | .ok (content, usage) => ⟨a.delay, content, { hosts with usage := usage }⟩
    | .error f => ⟨a.delay, .error f, hosts⟩
  | _ => ⟨Timeline.zero, .error noHost, hosts⟩

end LeadFlow.Service
