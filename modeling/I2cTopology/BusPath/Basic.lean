/-!
# Adapter paths

An adapter is named by the steps that lead to it through the physical topology, not by the order in
which the kernel enumerated it. A step names an adapter by its kernel id, or a multiplexer channel by
the ordinal of the multiplexer and the number of its output.

A path is a sequence of tokens that a stop token closes. Written out, its steps are joined by colons:
`7` is the adapter with kernel id 7, and `0:1.3` is output 3 of the second such channel below
adapter 0.
-/

namespace I2cTopology

/-- One step of an adapter path. -/
inductive PathToken where
  /-- The adapter with this kernel id. -/
  | bus (nr : UInt32)
  /-- The multiplexer channel with this ordinal among its siblings and this output number. -/
  | mux (ordinal output : UInt32)
  /-- A bare output number. -/
  | channel (number : UInt32)
  /-- A chip address. -/
  | address (number : UInt16)
  /-- The end of every path. -/
  | stop
  deriving DecidableEq, Repr

namespace PathToken

/-- Does a walk through the forest end at this token? -/
def isTerminal : PathToken → Bool
  | bus _ => false
  | mux _ _ => false
  | channel _ => true
  | address _ => true
  | stop => true

/-- The written form of a step, empty for a token that ends a walk. -/
def segment : PathToken → List Char
  | bus nr => Nat.toDigits 10 nr.toNat
  | mux ordinal output => Nat.toDigits 10 ordinal.toNat ++ '.' :: Nat.toDigits 10 output.toNat
  | _ => []

end PathToken

/-- A sequence of path tokens, closed by a stop token. -/
structure BusPath where
  tokens : List PathToken
  deriving DecidableEq, Repr

namespace BusPath

/-- The most tokens that a path holds, its stop token included. -/
def maxTokens : Nat := 20

/-- The path with the given tokens up to the first stop token, unless they are too many. -/
def ofTokens? (tokens : List PathToken) : Option BusPath :=
  let steps := tokens.takeWhile (· ≠ .stop)
  if steps.length < maxTokens then some ⟨steps ++ [.stop]⟩ else none

/-- The number of tokens before the stop token. -/
def depth (path : BusPath) : Nat :=
  path.tokens.length - 1

/-- The token that a walk starts with. -/
def first (path : BusPath) : PathToken :=
  path.tokens.headD .stop

/-- The tokens before the first one that ends a walk. -/
def walk (path : BusPath) : List PathToken :=
  path.tokens.takeWhile fun token => !token.isTerminal

/-- Segments joined by colons. -/
def joined : List (List Char) → List Char
  | [] => []
  | [segment] => segment
  | segment :: next :: others => segment ++ ':' :: joined (next :: others)

/-- The written form of a path: the steps of its walk, joined by colons. -/
def render (path : BusPath) : String :=
  String.ofList (joined (path.walk.map PathToken.segment))

end BusPath
end I2cTopology
