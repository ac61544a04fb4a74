import TextTemplate.Bindings

/-! Types of host data, and what a record type shows of its members. -/

namespace TextTemplate

inductive HostType where
  | int
  | float
  | bool
  | str
  | option (payload : HostType)
  | shared (pointee : HostType)
  | sequence (element : HostType)
  /-- Elements that ascend without repetition. -/
  | set (element : HostType)
  | record (name : String)
  deriving DecidableEq, Inhabited

structure Member where
  position : Nat
  type : HostType
  deriving DecidableEq

/-- A record type with the names under which it shows its members, in the order of registration. -/
structure Schema where
  name : String
  fields : List (String × Member)

namespace Schema

/-- The shown names, ascending. The last registration of a name counts. -/
def table (s : Schema) : Bindings Member :=
  .ofList s.fields

end Schema

/-- The declared record types. A record that holds another one in place stands before it. -/
abbrev Registry := List Schema

namespace Registry

def schema? (reg : Registry) (name : String) : Option Schema :=
  reg.find? fun s => s.name = name

end Registry
end TextTemplate
