import ThreatModel.Failure
import ThreatModel.Prompt.Request
import ThreatModel.Rules.Threats
import ThreatModel.Synthesis.Origin

/-!
# Finding threats

Threats follow from rules, or a model is asked for them. Rules never fail; a model fails if there is
no answer or no threats can be read from it.
-/

namespace ThreatModel

/-- What finds threats. -/
inductive Synthesizer where
  | rules
  /-- A model, which answers the messages of a prompt. -/
  | model (ask : List Chat.Message → Except Chat.Error Chat.Response)

/-- What is read from the answer of a model. -/
def answerThreats (answer : Except Chat.Error Chat.Response) : Run Reply.Outcome :=
  match answer with
  | .error e => .fail (.chat e)
  | .ok r =>
    match r.content? with
    | none => .fail (.chat .emptyResponse)
    | some s =>
      match Reply.threats s.toList with
      | .ok o => .ok o
      | .error e => Run.within "Model response could not be parsed" (.fail (.recovery e))

namespace Synthesizer

/-- Where the threats come from. -/
def origin : Synthesizer → Origin
  | rules => .rules
  | model _ => .model

/-- The threats to a system. -/
def drafts (s : Synthesizer) (a : Analysis) (m : Methodology) (document : Option String)
    (l : Limits) : Run (List Draft) :=
  match s with
  | rules => .ok (ruleThreats a)
  | model ask => (answerThreats (ask (Prompt.messages a m document l))).map (·.drafts)

end Synthesizer

end ThreatModel
