import RestFlow.Decimal.Double
import RestFlow.Order.SortedMap

/-!
# JSON values

The values of JSON documents. An object keeps its members in document order and with their
repetitions, because whether a repetition is allowed depends on what the object stands for.

Two constructors stand for what a document may contain besides values. `unreadable` is a
well-formed part whose value cannot be held: a number beyond the doubles, a text with half a
surrogate pair, or a container nested deeper than 127 levels; it can be skipped but not used.
`broken` is the place where the text stops being JSON.
-/

namespace RestFlow

/-- A number: an integer of 64 bits, signed or unsigned, or a double. -/
inductive JsonNumber where
  | integer (value : Int)
  | real (value : Double)
  deriving BEq

/-- A JSON value as it is read from a document. -/
inductive Json where
  | null
  | bool (value : Bool)
  | number (value : JsonNumber)
  | string (value : String)
  | array (items : List Json)
  | object (members : List (String × Json))
  | unreadable
  | broken

namespace Json

instance : Inhabited Json := ⟨null⟩

mutual

/-- Values are equal when they are built alike of equal numbers and the same texts. -/
def beq : Json → Json → Bool
  | null, null => true
  | bool a, bool b => a == b
  | number a, number b => a == b
  | string a, string b => a == b
  | array a, array b => beqItems a b
  | object a, object b => beqMembers a b
  | unreadable, unreadable => true
  | broken, broken => true
  | _, _ => false

/-- Items are equal one by one. -/
def beqItems : List Json → List Json → Bool
  | [], [] => true
  | a :: as, b :: bs => beq a b && beqItems as bs
  | _, _ => false

/-- Members are equal one by one, with the same names. -/
def beqMembers : List (String × Json) → List (String × Json) → Bool
  | [], [] => true
  | (name, a) :: as, (name', b) :: bs => name == name' && beq a b && beqMembers as bs
  | _, _ => false

end

instance : BEq Json := ⟨beq⟩

/-- The value of a natural number. -/
def ofNat (n : Nat) : Json :=
  number (.integer n)

/-- The value of a list of texts. -/
def strings (texts : List String) : Json :=
  array (texts.map string)

/-- A value, or null in its absence. -/
def ofOption (value : Option Json) : Json :=
  value.getD null

/-- The object of a sorted map. -/
def ofMap {α : Type} (encode : α → Json) (m : SortedMap α) : Json :=
  object (m.entries.map fun e => (e.1, encode e.2))

/-- The object of those members that have a value. -/
def ofPresent (members : List (String × Option Json)) : Json :=
  object (members.filterMap fun m => m.2.map (m.1, ·))

mutual

/-- The value breaks off somewhere. -/
def isBroken : Json → Bool
  | broken => true
  | array items => anyBroken items
  | object members => anyMemberBroken members
  | _ => false

/-- Some item breaks off. -/
def anyBroken : List Json → Bool
  | [] => false
  | item :: rest => item.isBroken || anyBroken rest

/-- Some member breaks off. -/
def anyMemberBroken : List (String × Json) → Bool
  | [] => false
  | (_, value) :: rest => value.isBroken || anyMemberBroken rest

end

mutual

/-- Every part of the value can be used. -/
def isReadable : Json → Bool
  | broken => false
  | unreadable => false
  | array items => allReadable items
  | object members => allMembersReadable members
  | _ => true

/-- Every part of every item can be used. -/
def allReadable : List Json → Bool
  | [] => true
  | item :: rest => item.isReadable && allReadable rest

/-- Every part of every member can be used. -/
def allMembersReadable : List (String × Json) → Bool
  | [] => true
  | (_, value) :: rest => value.isReadable && allMembersReadable rest

end

mutual

/-- The value with the members of every object sorted by name, of each name the last one. -/
def sorted : Json → Json
  | array items => array (sortedItems items)
  | object members => object (SortedMap.ofList (sortedMembers members)).entries
  | value => value

/-- `sorted` on every item. -/
def sortedItems : List Json → List Json
  | [] => []
  | item :: rest => item.sorted :: sortedItems rest

/-- `sorted` on every member, in place. -/
def sortedMembers : List (String × Json) → List (String × Json)
  | [] => []
  | (name, value) :: rest => (name, value.sorted) :: sortedMembers rest

end

end Json

end RestFlow
