/-!
# Messages of a chat

What is said in a chat with a model, and by whom.
-/

namespace ThreatModel.Chat

/-- Something said in a chat. -/
structure Message where
  /-- Who says it. -/
  role : String
  content : String
  deriving DecidableEq, Repr, Inhabited

namespace Message

/-- An instruction that holds for the whole chat. -/
def system (content : String) : Message := ⟨"system", content⟩

/-- A request. -/
def user (content : String) : Message := ⟨"user", content⟩

/-- An answer of the model. -/
def assistant (content : String) : Message := ⟨"assistant", content⟩

end Message

end ThreatModel.Chat
