import HttpCourier.Auth.Flow

/-!
# Conversations

A conversation is an exchange seen from outside: `AuthFlow.conversation` sends a request, is given
answers one after the other, and collects the requests that are sent in turn.
-/

namespace HttpCourier

/-- What comes of an exchange with a list of answers. -/
structure Conversation where
  /-- The requests, in order. -/
  sent : List Request := []
  /-- Whether the exchange came to its end; it did not when the answers ran out. -/
  ending : Except Fault Bool := .ok false
  state : DigestState

/-- The conversation with one more request in front. -/
def Conversation.after (request : Request) (c : Conversation) : Conversation :=
  { c with sent := request :: c.sent }

/-- Goes on with an exchange after its last request; an answer is a status and its fields. -/
def AuthFlow.converse (flow : AuthFlow) (state : DigestState) (last : Request) :
    List (Int × Fields) → Conversation
  | [] => { state }
  | (status, fields) :: rest =>
    match flow.resume state { request := last, status, fields } with
    | (.error e, state, _) => { ending := .error e, state }
    | (.ok none, state, _) => { ending := .ok true, state }
    | (.ok (some (request, flow)), state, _) =>
      (converse flow state request rest).after request

/-- The conversation that a request starts. -/
def AuthFlow.conversation (choice : Authenticator) (state : DigestState) (request : Request)
    (answers : List (Int × Fields)) : Conversation :=
  match AuthFlow.start choice state request with
  | (.error e, state) => { ending := .error e, state }
  | (.ok (request, flow), state) => (converse flow state request answers).after request

end HttpCourier
