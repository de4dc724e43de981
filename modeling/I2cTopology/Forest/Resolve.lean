import I2cTopology.BusPath.Reading
import I2cTopology.Forest.Basic

/-!
# From paths to adapters

The first token of a path is looked up by kernel id, so a walk may start at any placed adapter. Each
further token selects a child, by kernel id or by ordinal and output number, until a token ends the
walk.
-/

namespace I2cTopology
namespace Forest

/-- Does the token select the adapter among its siblings? -/
def selects (forest : Forest) (token : PathToken) (id : AdapterId) : Bool :=
  match token with
  | .bus nr => (forest.adapter id).nr == nr
  | .mux ordinal output =>
    ((forest.seat? id).bind Seat.ordinal) == some ordinal.toNat &&
      (forest.adapter id).channel == some output
  | _ => false

/-- Follows the tokens of a path downwards from an adapter. -/
def follow? (forest : Forest) (id : AdapterId) : List PathToken → Option AdapterId
  | [] => some id
  | token :: rest =>
    if token.isTerminal then some id
    else ((forest.children id).find? (forest.selects token)).bind fun child =>
      forest.follow? child rest

/-- The kernel id that a token starts a walk with. -/
def startNr? : PathToken → Option UInt32
  | .bus nr => some nr
  | .mux ordinal _ => some ordinal
  | _ => none

/-- The adapter that a path leads to. -/
def resolveTokens? (forest : Forest) (path : BusPath) : Option AdapterId :=
  match path.tokens with
  | [] => none
  | first :: rest => do
    let id ← forest.lookup? (← startNr? first)
    forest.follow? id rest

/-- The adapter that a written path names, if there is one. -/
def resolve (forest : Forest) (text : String) : Except BusPath.Malformed (Option AdapterId) :=
  (BusPath.parse text).map forest.resolveTokens?

end Forest
end I2cTopology
