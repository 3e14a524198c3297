import BroadcastGraphics.Json.Basic
import BroadcastGraphics.Text.Encoding
import BroadcastGraphics.Text.Search
import BroadcastGraphics.Validation.Scalar

/-!
# Requests to the service

A request has a method, a path, query parameters, perhaps the text of a body and perhaps the text of
its authorization.  Operators authorize themselves by a token, which follows the name of the scheme
and one space.
-/

namespace BroadcastGraphics
namespace Service

/-- A request to the service. -/
structure Request where
  method : String := "GET"
  path : String
  query : Table String := []
  body : Option String := none
  authorization : Option String := none

/-- The scheme of authorization by a token, in small letters. -/
def tokenScheme : String := "bearer"

/-- The token in the text of an authorization, if its scheme is the right one and it is not
empty. -/
def tokenOf? (authorization : String) : Option String :=
  let scheme := authorization.toList.takeWhile (· != ' ')
  let token := (authorization.toList.dropWhile (· != ' ')).drop 1
  if String.ofList (scheme.map Check.smallLetter) == tokenScheme && !token.isEmpty then
    some (String.ofList token)
  else none

/-- The token of a request.  Its authorization is received as bytes, each of which counts as a
character. -/
def Request.token? (request : Request) : Option String :=
  (request.authorization.map Text.bytewise).bind tokenOf?

/-- The body of the request, if there is one that is not empty. -/
def Request.filledBody? (request : Request) : Option String :=
  request.body.filter fun text => !text.isEmpty

end Service
end BroadcastGraphics
