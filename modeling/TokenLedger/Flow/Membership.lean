import TokenLedger.Party
import TokenLedger.SortedMap
/-!
Who takes part in the network.

A member is listed with a name and the keys it signs with, of which the first is used. A membership
is the list as one member sees it: its own entry, and the entries of all members under their names.
An entry that is added under the name of another replaces it; the member's own entry stays what it
was, even if the list has another under its name.
-/

namespace TokenLedger

/-- Why nobody could be found. -/
inductive LookupError where
  | unknownMember (name : MemberName)
  | noKey (name : MemberName)
  | noNotary
deriving DecidableEq, Repr

def LookupError.message : LookupError → String
  | .unknownMember name => "unknown member " ++ name.text
  | .noKey name => "member " ++ name.text ++ " has no ledger key"
  | .noNotary => "no notary service available"

/-- The kind of the error in one word. -/
def LookupError.kind : LookupError → String
  | .unknownMember _ => "UnknownMember"
  | .noKey _ => "NoLedgerKey"
  | .noNotary => "NoNotary"

/-- A member with its keys. -/
structure Member where
  name : MemberName
  keys : List LedgerKey
deriving DecidableEq, Repr, Inhabited

/-- The member as a party that signs with its first key. -/
def Member.party (member : Member) : Except LookupError Party :=
  match member.keys with
  | key :: _ => .ok ⟨member.name, key⟩
  | [] => .error (.noKey member.name)

/-- The network as one member sees it. -/
structure Membership where
  self : Member
  members : SortedMap MemberName Member

namespace Membership

/-- The network of one member alone. -/
def alone (self : Member) : Membership := ⟨self, SortedMap.empty.insert self.name self⟩

instance : Inhabited Membership := ⟨alone default⟩

/-- The network with one more entry. -/
def add (membership : Membership) (member : Member) : Membership :=
  { membership with members := membership.members.insert member.name member }

/-- The network with the entries of a list added in order. -/
def ofMembers (self : Member) (members : List Member) : Membership :=
  members.foldl add (alone self)

/-- The entry under a name. -/
def lookup (membership : Membership) (name : MemberName) : Option Member :=
  membership.members.get? name

/-- The entry under a name that has to be known. -/
def resolve (membership : Membership) (name : MemberName) : Except LookupError Member :=
  match membership.lookup name with
  | some member => .ok member
  | none => .error (.unknownMember name)

/-- The party that a name stands for. -/
def party (membership : Membership) (name : MemberName) : Except LookupError Party := do
  let member ← membership.resolve name
  member.party

end Membership

end TokenLedger
