import TokenLedger.Party
import TokenLedger.SortedSet
import TokenLedger.Wire.Identifier
/-!
Parties on the wire: a member name is a string, a party is a record of a name and a key, and a set
is the array of its members in order. A set may be read from an array in any order and with
repetitions.
-/

namespace TokenLedger.Wire

open Json (Codec Fields)

def memberName : Codec MemberName := Codec.string.convert .mk MemberName.text

def party : Codec Party :=
  (Codec.record "struct Party"
    (.required "name" memberName <| .required "ledger_key" ledgerKey .none)).convert
    (fun (name, key, ()) => ⟨name, key⟩)
    (fun party => (party.name, party.key, ()))

/-- A set, as the array of its members. -/
def set {α : Type} [Ord α] [Std.TransOrd α] (member : Codec α) : Codec (SortedSet α) :=
  (Codec.list member).convert SortedSet.ofList SortedSet.toList

end TokenLedger.Wire
