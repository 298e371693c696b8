import TokenLedger.Identifier
/-!
Members and parties.

A member is known by a name, a text in the style of `CN=Alice, O=R3, L=London, C=GB`. A party is a
member name together with the key the member signs with. Parties are ordered by the UTF-8 bytes of
the name and then by the key, so that a set of parties has one written form.
-/

namespace TokenLedger

/-- The name of a member. -/
structure MemberName where
  text : String
deriving DecidableEq, Repr, Inhabited

namespace MemberName

instance : Ord MemberName where
  compare := compareOn fun name => utf8 name.text

instance : Std.TransOrd MemberName :=
  inferInstanceAs (Std.TransCmp (compareOn fun name : MemberName => utf8 name.text))

instance : Std.LawfulEqOrd MemberName where
  eq_of_compare {left right} h := by
    have same : utf8 left.text = utf8 right.text :=
      Std.LawfulEqOrd.eq_of_compare (α := List UInt8) h
    have texts := utf8_injective same
    cases left; cases right; cases texts; rfl

end MemberName

/-- A member together with the key it signs with. -/
structure Party where
  name : MemberName
  key : LedgerKey
deriving DecidableEq, Repr, Inhabited

namespace Party

/-- A party is shown by its name. -/
def text (party : Party) : String := party.name.text

/-- Several parties, shown with a comma and a space between them. -/
def texts (parties : List Party) : String :=
  String.intercalate ", " (parties.map text)

instance : Ord Party where
  compare := compareLex (compareOn name) (compareOn key)

instance : Std.TransOrd Party :=
  inferInstanceAs (Std.TransCmp (compareLex (compareOn name) (compareOn key)))

instance : Std.LawfulEqOrd Party where
  eq_of_compare {left right} h := by
    obtain ⟨names, keys⟩ := compareLex_eq_eq.mp h
    have sameName : left.name = right.name :=
      Std.LawfulEqOrd.eq_of_compare (α := MemberName) names
    have sameKey : left.key = right.key := Std.LawfulEqOrd.eq_of_compare (α := LedgerKey) keys
    cases left; cases right; cases sameName; cases sameKey; rfl

end Party

end TokenLedger
