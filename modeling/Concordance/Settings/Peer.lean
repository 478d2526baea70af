import Concordance.Cluster.Node
import Concordance.Text.Blank
import Concordance.Text.Split

/-!
# Peers

A peer is written as its identifier, an at sign, and its addresses with commas
between them. Blanks around the identifier and around an address do not count, and
neither does an address that is blank altogether.

* `Peer.read`: a peer from its text.
* `Peer.write`: the text of a peer.
-/

namespace Concordance

/-- Another node, as the settings name it. -/
structure Peer where
  id : NodeId
  addresses : List String
  deriving DecidableEq

namespace Peer

/-- Why a text is no peer. -/
inductive Fault
  | noAt
  | blankId
  | noAddress
  deriving DecidableEq

/-- The wording of a fault. -/
def Fault.message : Fault → String
  | .noAt => "expected id@address[,address]"
  | .blankId => "empty node id"
  | .noAddress => "no addresses"

/-- The addresses that a text lists. -/
def readAddresses (text : List Char) : List (List Char) :=
  ((Text.pieces (· == ',') text).map Text.trim).filter fun address => !address.isEmpty

/-- The peer that a text writes. -/
def read (text : String) : Except Fault Peer :=
  match Text.splitFirst '@' text.toList with
  | none => .error .noAt
  | some (id, rest) =>
    if Text.allBlank id then .error .blankId
    else
      match readAddresses rest with
      | [] => .error .noAddress
      | addresses => .ok ⟨String.ofList (Text.trim id), addresses.map String.ofList⟩

/-- The text of a peer. -/
def write (p : Peer) : String :=
  String.ofList (p.id.toList ++ '@' :: [','].intercalate (p.addresses.map String.toList))

/-- The node that the peer is taken for at first. -/
def node (p : Peer) : Node := .new p.id p.addresses

end Peer

end Concordance
