import PugScript.Token

/-!
# A cursor over a list of tokens

The cursor is the list of the tokens that are still to come. Beyond the last token there is an
end-of-input mark right behind it, so that a current token always exists. `skipBlock` passes over
the body of a block without running it.
-/

namespace PugScript

/-- The end-of-input mark that stands behind the last token of a list. -/
def endMark (tokens : List Token) : Token :=
  match tokens.getLast? with
  | some token => Token.endOfInput (token.offset + token.sourceLength)
  | none => Token.endOfInput 0

/-- Passes over tokens up to the first of the kinds `stops` that stands at nesting depth zero, and
leaves it in front. Blocks on the way are passed as a whole by counting their ends. Gives no kind
if the input ends first. -/
def skipBlock (stops : List TokenKind) : Nat → List Token → Option TokenKind × List Token
  | _, [] => (none, [])
  | depth, token :: rest =>
    if token.kind = .endOfInput then
      (none, token :: rest)
    else if token.kind.opensBlock then
      skipBlock stops (depth + 1) rest
    else if token.kind = .endWord ∧ 0 < depth then
      skipBlock stops (depth - 1) rest
    else if depth = 0 ∧ token.kind ∈ stops then
      (some token.kind, token :: rest)
    else
      skipBlock stops depth rest

/-- A list of tokens with a place in it. -/
structure TokenStream where
  tokens : List Token
  /-- The tokens from the cursor on. -/
  remaining : List Token

namespace TokenStream

def start (tokens : List Token) : TokenStream :=
  ⟨tokens, tokens⟩

def position (stream : TokenStream) : Nat :=
  stream.tokens.length - stream.remaining.length

def peekAhead (stream : TokenStream) (places : Nat) : Token :=
  stream.remaining.getD places (endMark stream.tokens)

def current (stream : TokenStream) : Token :=
  stream.peekAhead 0

def peek (stream : TokenStream) : Token :=
  stream.peekAhead 1

def check (stream : TokenStream) (kind : TokenKind) : Bool :=
  stream.current.kind = kind

def isAtEnd (stream : TokenStream) : Bool :=
  stream.check .endOfInput

/-- The token at the cursor and the stream after it; the cursor stays behind the last token. -/
def advance (stream : TokenStream) : Token × TokenStream :=
  (stream.current, { stream with remaining := stream.remaining.tail })

/-- Passes the token at the cursor if it has the given kind, and says whether it did. -/
def advanceIf (stream : TokenStream) (kind : TokenKind) : Bool × TokenStream :=
  if stream.check kind then (true, stream.advance.2) else (false, stream)

/-- Passes a token of the given kind, or gives back the token found in its place. -/
def expect (stream : TokenStream) (kind : TokenKind) : Except Token Token × TokenStream :=
  if stream.check kind then (.ok stream.current, stream.advance.2)
  else (.error stream.current, stream)

/-- Moves the cursor behind the given number of tokens. -/
def setPosition (stream : TokenStream) (position : Nat) : TokenStream :=
  { stream with remaining := stream.tokens.drop position }

/-- Moves the cursor to the end of a block's body. -/
def skip (stream : TokenStream) (stops : List TokenKind) : Option TokenKind × TokenStream :=
  let (found, remaining) := skipBlock stops 0 stream.remaining
  (found, { stream with remaining })

end TokenStream

end PugScript
