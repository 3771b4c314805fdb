/-!
# Peer identities and tokens

A peer is known by its slot in the peer table and a small generation number. The multiplexer knows it
by one 64-bit word, the token, in which the generation takes the low eight bits. One token is kept for
the listening socket, so the largest slot is two less than the number of slots that fit in the word.

- `PeerId.token`, `PeerId.ofToken?`: from identities to tokens and back.
-/

namespace ChatRelay

/-- The word by which the multiplexer names a socket. -/
abbrev Token := UInt64

namespace Token

/-- The token of the listening socket: all ones. -/
def listener : Token := 0xFFFFFFFFFFFFFFFF

/-- The token of the one socket of an endpoint. -/
def endpoint : Token := 0

end Token

/-- The handle of one peer connection. -/
structure PeerId where
  slot : Nat
  generation : UInt8
  deriving DecidableEq, Repr, Inhabited

namespace PeerId

/-- The number of low bits of a token that hold the generation. -/
def generationBits : Nat := 8

/-- The largest slot that fits into a token without meeting the listener's. -/
def maxSlot : Nat := 1 <<< (64 - generationBits) - 2

/-- The token of a peer: the slot shifted over the generation. -/
def token (id : PeerId) : Token :=
  UInt64.ofNat id.slot <<< UInt64.ofNat generationBits ||| id.generation.toUInt64

/-- The peer a token names. The listener's token names none. -/
def ofToken? (token : Token) : Option PeerId :=
  if token = Token.listener then none
  else some ⟨(token >>> UInt64.ofNat generationBits).toNat, token.toUInt8⟩

end PeerId

end ChatRelay
