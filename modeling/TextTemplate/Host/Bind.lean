import TextTemplate.Host.Schema
import TextTemplate.Host.Datum
import TextTemplate.Value.Access

/-! Host data as template values. Leaves become scalars; sequences, sets and records become views
that bind a part when it is asked for. A part is reached through an anchor, which may have nothing
to point at; what it is bound to then depends on its type alone. -/

namespace TextTemplate

/-- The part of some data that is to be bound, if it is there. -/
abbrev Anchor := Option Datum

namespace Anchor

def payload : Anchor → Anchor
  | some (.some d) => some d
  | _ => none

def pointee : Anchor → Anchor
  | some (.shared d) => some d
  | _ => none

def count : Anchor → Nat
  | some (.items ds) => ds.length
  | _ => 0

def element (a : Anchor) (i : Nat) : Anchor :=
  match a with
  | some (.items ds) => ds[i]?
  | _ => none

def member (a : Anchor) (position : Nat) : Anchor :=
  match a with
  | some (.record ms) => ms[position]?
  | _ => none

end Anchor

namespace Registry

/-- What an anchor of some type is bound to when it points at nothing. A record keeps its names, and
each member is bound through a missing anchor in turn. -/
def absent : Registry → HostType → Value
  | [], .record _ => .empty
  | s :: rest, .record name =>
    if s.name = name then .genericMap (.ofBindings s.table fun m => absent rest m.type)
    else absent rest (.record name)
  | _, .sequence _ => .genericList Value.emptyView
  | _, .set _ => .genericList Value.emptyView
  | _, _ => .empty
termination_by structural reg => reg

mutual

def present (reg : Registry) : Datum → HostType → Value
  | .int n, .int => Value.saturated n
  | .float x, .float => .float x
  | .bool b, .bool => .bool b
  | .str s, .str => .str s
  | .none, .option _ => .empty
  | .some d, .option t => present reg d t
  | .shared d, .shared t => present reg d t
  | .items ds, .sequence t => .genericList ⟨ds.length, fun i => presentItem reg ds i t⟩
  | .items ds, .set t => .genericList ⟨ds.length, fun i => presentItem reg ds i t⟩
  | .record ms, .record name =>
    match reg.schema? name with
    | some s => .genericMap (.ofBindings s.table fun m => presentMember reg ms m.position m.type)
    | none => .empty
  | _, t => reg.absent t
termination_by structural d => d

def presentItem (reg : Registry) : List Datum → Nat → HostType → Value
  | [], _, _ => .empty
  | d :: _, 0, t => present reg d t
  | _ :: ds, i + 1, t => presentItem reg ds i t
termination_by structural ds => ds

def presentMember (reg : Registry) : List Datum → Nat → HostType → Value
  | [], _, t => reg.absent t
  | d :: _, 0, t => present reg d t
  | _ :: ds, i + 1, t => presentMember reg ds i t
termination_by structural ds => ds

end

def reflectBorrowed (reg : Registry) (t : HostType) : Anchor → Value
  | some d => present reg d t
  | none => reg.absent t

def reflectShared (reg : Registry) (t : HostType) (d : Datum) : Value :=
  reg.reflectBorrowed t (some d)

def reflect (reg : Registry) : HostType → Datum → Value
  | .option t, .some d => reflect reg t d
  | .shared t, .shared d => reg.reflectShared t d
  | t, d => reg.reflectBorrowed t (some d)
termination_by structural t => t

def reflectRef (reg : Registry) : HostType → Datum → Value
  | .option t, .some d => reflectRef reg t d
  | t, d => reg.reflect t d
termination_by structural t => t

theorem presentMember_eq (reg : Registry) (t : HostType) (ms : List Datum) (i : Nat) :
    presentMember reg ms i t = reg.reflectBorrowed t ms[i]? := by
  induction ms generalizing i with
  | nil => simp [presentMember, reflectBorrowed]
  | cons d ms ih =>
    cases i with
    | zero => simp [presentMember, reflectBorrowed]
    | succ i => simpa [presentMember] using ih i

theorem presentItem_eq (reg : Registry) (t : HostType) (ds : List Datum) (i : Nat) :
    presentItem reg ds i t = if i < ds.length then reg.reflectBorrowed t ds[i]? else .empty := by
  induction ds generalizing i with
  | nil => simp [presentItem]
  | cons d ds ih =>
    cases i with
    | zero => simp [presentItem, reflectBorrowed]
    | succ i => simpa [presentItem] using ih i

/-- What is inside some data is bound through an anchor of its own. -/
theorem reflectBorrowed_option (reg : Registry) (t : HostType) (a : Anchor) :
    reg.reflectBorrowed (.option t) a =
      match a.payload with
      | some d => reg.reflectBorrowed t (some d)
      | none => .empty := by
  cases a with
  | none => cases reg <;> simp [reflectBorrowed, absent, Anchor.payload]
  | some d => cases d <;> cases reg <;> simp [reflectBorrowed, present, absent, Anchor.payload]

theorem reflectBorrowed_shared (reg : Registry) (t : HostType) (a : Anchor) :
    reg.reflectBorrowed (.shared t) a =
      match a.pointee with
      | some d => reg.reflectBorrowed t (some d)
      | none => .empty := by
  cases a with
  | none => cases reg <;> simp [reflectBorrowed, absent, Anchor.pointee]
  | some d => cases d <;> cases reg <;> simp [reflectBorrowed, present, absent, Anchor.pointee]

theorem reflectBorrowed_sequence (reg : Registry) (t : HostType) (a : Anchor) :
    reg.reflectBorrowed (.sequence t) a =
      .genericList ⟨a.count, fun i =>
        if i < a.count then reg.reflectBorrowed t (a.element i) else .empty⟩ := by
  cases a with
  | none => cases reg <;> simp [reflectBorrowed, absent, Anchor.count, Value.emptyView]
  | some d =>
    cases d with
    | items ds =>
      show present reg (.items ds) (.sequence t) = _
      simp only [present, presentItem_eq]
      rfl
    | _ => cases reg <;> simp [reflectBorrowed, present, absent, Anchor.count, Value.emptyView]

theorem reflectBorrowed_record {reg : Registry} {name : String} {s : Schema}
    (h : reg.schema? name = some s) (ms : List Datum) :
    reg.reflectBorrowed (.record name) (some (.record ms)) =
      .genericMap (.ofBindings s.table fun m =>
        reg.reflectBorrowed m.type (Anchor.member (some (.record ms)) m.position)) := by
  show present reg (.record ms) (.record name) = _
  simp only [present, h, presentMember_eq]
  rfl

end Registry
end TextTemplate
