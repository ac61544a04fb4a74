import TextTemplate.Value.Access

/-! The bindings that a render sees: the globals, and above them one scope for each open loop. An
inner binding hides an outer one of its name, and new bindings go to the innermost scope. The number
of scopes is bounded, so that a context never holds more than its limit. -/

namespace TextTemplate

abbrev Scope := Bindings Value

structure Context where
  globals : Scope
  /-- The scopes above the globals, innermost first. -/
  inner : List Scope
  /-- How many scopes there may be, the globals counted. -/
  maxDepth : Nat
  depth_le : inner.length + 1 ≤ maxDepth

namespace Context

def defaultMaxDepth : Nat := 256

/-- A context of globals alone. There is always room for them, so a limit of zero counts as one. -/
def ofGlobals (globals : Scope) (limit : Nat) : Context :=
  ⟨globals, [], max limit 1, Nat.le_max_right ..⟩

def new (globals : Scope) : Context :=
  ofGlobals globals defaultMaxDepth

instance : Inhabited Context := ⟨new .empty⟩

def depth (c : Context) : Nat :=
  c.inner.length + 1

def scopes (c : Context) : List Scope :=
  c.inner ++ [c.globals]

def current (c : Context) : Scope :=
  c.inner.headD c.globals

def outer (c : Context) : List Scope :=
  c.scopes.tail

def lookup (c : Context) (name : String) : Option Value :=
  c.scopes.findSome? fun s => s.get? name

def modifyCurrent (c : Context) (f : Scope → Scope) : Context :=
  match c with
  | ⟨globals, [], maxDepth, h⟩ => ⟨f globals, [], maxDepth, h⟩
  | ⟨globals, s :: outer, maxDepth, h⟩ => ⟨globals, f s :: outer, maxDepth, h⟩

def define (c : Context) (name : String) (value : Value) : Context :=
  c.modifyCurrent fun s => s.insert name value

def remove (c : Context) (name : String) : Context :=
  c.modifyCurrent fun s => s.erase name

def enter (c : Context) : Except EvalError Context :=
  if h : c.depth < c.maxDepth then
    .ok ⟨c.globals, .empty :: c.inner, c.maxDepth, h⟩
  else .error (.scopeDepthExceeded c.maxDepth)

def exit (c : Context) : Context :=
  match c with
  | ⟨globals, [], maxDepth, h⟩ => ⟨globals, [], maxDepth, h⟩
  | ⟨globals, _ :: outer, maxDepth, h⟩ => ⟨globals, outer, maxDepth, Nat.le_of_succ_le h⟩

def withScope {σ : Type} (c : Context) (refused : EvalError → σ) (step : Context → Context × σ) :
    Context × σ :=
  match c.enter with
  | .error e => (c, refused e)
  | .ok opened =>
    let (after, s) := step opened
    (after.exit, s)

/-- Binds each name to the entry of that name, in order, up to the first entry that cannot be
read. -/
def defineFields (c : Context) (value : Value) : List String → Context × Except EvalError Unit
  | [] => (c, .ok ())
  | name :: names =>
    match value.subscript name with
    | .ok field => (c.define name field).defineFields value names
    | .error e => (c, .error e)

theorem scopes_eq_cons (c : Context) : c.scopes = c.current :: c.outer := by
  obtain ⟨globals, inner, _, _⟩ := c
  cases inner <;> rfl

theorem depth_eq_length (c : Context) : c.depth = c.scopes.length := by
  simp [depth, scopes]

theorem depth_pos (c : Context) : 1 ≤ c.depth :=
  Nat.le_add_left ..

theorem depth_le_maxDepth (c : Context) : c.depth ≤ c.maxDepth :=
  c.depth_le

section modifyCurrent

variable (c : Context) (f : Scope → Scope)

@[simp] theorem current_modifyCurrent : (c.modifyCurrent f).current = f c.current := by
  obtain ⟨globals, inner, _, _⟩ := c
  cases inner <;> rfl

@[simp] theorem outer_modifyCurrent : (c.modifyCurrent f).outer = c.outer := by
  obtain ⟨globals, inner, _, _⟩ := c
  cases inner <;> rfl

@[simp] theorem depth_modifyCurrent : (c.modifyCurrent f).depth = c.depth := by
  obtain ⟨globals, inner, _, _⟩ := c
  cases inner <;> rfl

@[simp] theorem maxDepth_modifyCurrent : (c.modifyCurrent f).maxDepth = c.maxDepth := by
  obtain ⟨globals, inner, _, _⟩ := c
  cases inner <;> rfl

end modifyCurrent

theorem lookup_eq (c : Context) (name : String) :
    c.lookup name = (c.current.get? name).or (c.outer.findSome? fun s => s.get? name) := by
  rw [lookup, scopes_eq_cons, List.findSome?_cons]
  cases c.current.get? name <;> rfl

@[simp] theorem lookup_define (c : Context) (name other : String) (value : Value) :
    (c.define name value).lookup other =
      if name = other then some value else c.lookup other := by
  by_cases h : name = other <;> simp [lookup_eq, define, h]

@[ext] theorem ext {c d : Context} (hs : c.scopes = d.scopes) (hm : c.maxDepth = d.maxDepth) :
    c = d := by
  obtain ⟨globals, inner, maxDepth, _⟩ := c
  obtain ⟨globals', inner', maxDepth', _⟩ := d
  obtain ⟨hi, hg⟩ := List.append_inj' hs rfl
  simp_all

theorem enter_eq_ok_iff {c opened : Context} :
    c.enter = .ok opened ↔
      c.depth < c.maxDepth ∧ opened.scopes = .empty :: c.scopes ∧
        opened.maxDepth = c.maxDepth := by
  unfold enter
  split
  · rename_i h
    simp only [Except.ok.injEq, h, true_and]
    constructor
    · rintro rfl
      exact ⟨rfl, rfl⟩
    · exact fun ⟨hs, hm⟩ => ext hs.symm hm.symm
  · rename_i h
    simp [h]

theorem enter_of_full {c : Context} (h : c.depth = c.maxDepth) :
    c.enter = .error (.scopeDepthExceeded c.maxDepth) :=
  dif_neg (by omega)

@[simp] theorem maxDepth_exit (c : Context) : c.exit.maxDepth = c.maxDepth := by
  obtain ⟨globals, inner, _, _⟩ := c
  cases inner <;> rfl

theorem scopes_exit {c : Context} (h : 1 < c.depth) : c.exit.scopes = c.outer := by
  obtain ⟨globals, inner, _, _⟩ := c
  cases inner with
  | nil => simp [depth] at h
  | cons s rest => rfl

theorem exit_of_depth_one {c : Context} (h : c.depth = 1) : c.exit = c := by
  obtain ⟨globals, inner, _, _⟩ := c
  cases inner with
  | nil => rfl
  | cons s rest => simp [depth] at h

end Context
end TextTemplate
