import LayoutGuard.Ordered.Map

/-!
# Storage layouts

What a Solidity compiler says about the persistent storage of a contract: an ordered list of
slots, each with a type, and the table that describes those types. A type is named by an
identifier that is only meaningful together with its own table, because compilers number the
types of every run anew.
-/

namespace LayoutGuard

/-- The name of a type inside one type table. -/
structure TypeId where
  /-- The identifier as the compiler writes it, such as `t_uint256`. -/
  name : String
  deriving DecidableEq, Repr, Inhabited

namespace TypeId

/-- Identifiers are ordered by the code points of their names. -/
instance : Ord TypeId := ⟨compareOn name⟩

instance : Std.TransOrd TypeId := inferInstanceAs (Std.TransCmp (compareOn name))

instance : Std.LawfulEqOrd TypeId where
  compare_self {a} := (inferInstance : Std.ReflCmp (compareOn name)).compare_self (a := a)
  eq_of_compare {a b} h := by
    have hname : a.name = b.name := Std.LawfulEqOrd.eq_of_compare (α := String) h
    exact congrArg mk hname

/-- The identifier spelled out for a developer. -/
def debugText (t : TypeId) : String := "TypeRef(" ++ t.name ++ ")"

end TypeId

/-- How the data of a type is laid out in storage. -/
inductive Encoding where
  /-- Packed directly into consecutive slots. -/
  | inplace
  /-- Spread over storage by the hash of a key. -/
  | mapping
  /-- The length in the slot, the elements from a hashed position on. -/
  | dynamicArray
  /-- Short values in the slot, long ones from a hashed position on. -/
  | bytes
  deriving DecidableEq, Repr, Inhabited

namespace Encoding

/-- The name of the encoding as the compiler spells it. -/
def name : Encoding → String
  | inplace => "inplace"
  | mapping => "mapping"
  | dynamicArray => "dynamic_array"
  | bytes => "bytes"

/-- Every encoding, in order. -/
def all : List Encoding := [inplace, mapping, dynamicArray, bytes]

/-- The place of the encoding in the order of all of them. -/
def rank : Encoding → Nat
  | inplace => 0
  | mapping => 1
  | dynamicArray => 2
  | bytes => 3

/-- The encoding with a given name. -/
def ofName? (s : String) : Option Encoding := all.find? (·.name = s)

@[simp]
theorem ofName?_name (e : Encoding) : ofName? e.name = some e := by cases e <;> rfl

end Encoding

/-- A state variable, or a member of a struct, and where it lives. -/
structure Slot where
  /-- The number of the declaration in the compiler's syntax tree; it says nothing about storage. -/
  astId : Option Int64
  /-- The full name of the contract that declares the variable. -/
  contract : String
  /-- The name of the variable. -/
  label : String
  /-- The index of the storage slot, in decimal; it may need 256 bits. -/
  slot : String
  /-- The first byte inside the slot. -/
  offset : UInt32
  /-- The type of the variable. -/
  typeId : TypeId
  deriving DecidableEq, Repr, Inhabited

/-- What the compiler says about one type. -/
structure Descriptor where
  /-- The type as it is written in the source. -/
  label : String
  /-- How its data is laid out. -/
  encoding : Encoding
  /-- The size in bytes, in decimal. -/
  numberOfBytes : String
  /-- The fields of a struct, in the order of their declaration. -/
  members : Option (List Slot)
  /-- The type of the values of a mapping or of the elements of a dynamic array. -/
  value : Option TypeId
  /-- The type of the elements of an array of fixed length. -/
  base : Option TypeId
  /-- The type of the keys of a mapping, for information only. -/
  key : Option TypeId
  deriving DecidableEq, Repr, Inhabited

namespace Descriptor

/-- A plain value type such as `uint256`. -/
def plain (label numberOfBytes : String) : Descriptor where
  label := label
  encoding := .inplace
  numberOfBytes := numberOfBytes
  members := none
  value := none
  base := none
  key := none

end Descriptor

/-- The types of one compilation, by their identifiers. -/
abbrev TypeTable := OrderedMap TypeId Descriptor

/-- The storage layout of one contract: its slots in order, and the types they need. -/
structure Layout where
  /-- The state variables in the order of their positions. -/
  slots : List Slot
  /-- The table in which the types of the slots are looked up. -/
  types : TypeTable
  deriving DecidableEq, Inhabited

/-- The name that identifies a contract inside a snapshot: its source, a colon, its own name. -/
def fullName (source name : String) : String := source ++ ":" ++ name

/-- The storage layout of one contract of one source file. -/
structure Contract where
  /-- The name of the contract. -/
  name : String
  /-- The path of the source file, as the compiler saw it. -/
  source : String
  /-- The layout of its storage. -/
  layout : Layout
  deriving DecidableEq, Inhabited

/-- The name that identifies the contract inside a snapshot. -/
def Contract.fullName (c : Contract) : String := LayoutGuard.fullName c.source c.name

end LayoutGuard
