import TextTemplate.Binary64.Basic

/-! Host data of any type. -/

namespace TextTemplate

inductive Datum where
  | int (n : Int)
  | float (x : Binary64)
  | bool (b : Bool)
  | str (s : String)
  | none
  | some (payload : Datum)
  | shared (pointee : Datum)
  | items (elements : List Datum)
  | record (members : List Datum)

namespace Datum

instance : Inhabited Datum := ⟨none⟩

mutual

/-- The order of two data of one type. An absent payload comes first, and elements and members
decide from the first one on. Floats have no order. -/
def compare : Datum → Datum → Ordering
  | .int a, .int b => Ord.compare a b
  | .bool a, .bool b => Ord.compare a b
  | .str a, .str b => if a < b then .lt else if b < a then .gt else .eq
  | .none, .some _ => .lt
  | .some _, .none => .gt
  | .some a, .some b => compare a b
  | .shared a, .shared b => compare a b
  | .items as, .items bs => compareAll as bs
  | .record as, .record bs => compareAll as bs
  | _, _ => .eq
termination_by structural d => d

def compareAll : List Datum → List Datum → Ordering
  | [], [] => .eq
  | [], _ :: _ => .lt
  | _ :: _, [] => .gt
  | a :: as, b :: bs => (compare a b).then (compareAll as bs)
termination_by structural ds => ds

end

def insert (d : Datum) : List Datum → List Datum
  | [] => [d]
  | e :: rest =>
    match compare d e with
    | .lt => d :: e :: rest
    | .eq => e :: rest
    | .gt => e :: insert d rest

def ofSet (elements : List Datum) : Datum :=
  .items (elements.foldl (fun ds d => insert d ds) [])

end Datum
end TextTemplate
