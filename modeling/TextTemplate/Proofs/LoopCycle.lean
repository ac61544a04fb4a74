import TextTemplate.Proofs.EvaluationOrder
import TextTemplate.Proofs.LoopVariables
import TextTemplate.Proofs.ValueShape

/-! The method `cycle`, which picks one of its arguments by the remainder of a position. Its steps
stay in 64 bits. The position of `loop` is that of the iteration, as long as no other value is bound
to the name. -/

namespace TextTemplate

namespace Value

def narrow? (n : Int) : Option Int64 :=
  if Int64.minValue.toInt ≤ n ∧ n ≤ Int64.maxValue.toInt then some (.ofInt n) else none

/-- The remainder from zero up, by way of a division towards zero. There is none unless each number
on the way is in 64 bits. -/
def remainder? (n divisor : Int64) : Option Int64 :=
  if divisor = 0 then none
  else do
    let _quotient ← narrow? (n.toInt.tdiv divisor.toInt)
    let r ← narrow? (n.toInt.tmod divisor.toInt)
    if r < 0 then narrow? (r.toInt + divisor.toInt) else some r

/-- The pick of `cycle`, if every number on the way to it is in 64 bits. -/
def cycle? (position : Int64) (args : List Value) : Option Value := do
  let count ← narrow? args.length
  let i ← remainder? position count
  if i < 0 then none else args[i.toInt.toNat]?

theorem exists_narrow? {n : Int} (hmin : Int64.minValue.toInt ≤ n)
    (hmax : n ≤ Int64.maxValue.toInt) : ∃ m, narrow? n = some m ∧ m.toInt = n := by
  refine ⟨.ofInt n, if_pos ⟨hmin, hmax⟩, ?_⟩
  rw [Int64.toInt_minValue] at hmin
  rw [Int64.toInt_maxValue] at hmax
  exact Int64.toInt_ofInt_of_le hmin (by omega)

theorem tdiv_between (n : Int) {d : Int} (hpos : 0 < d) :
    min n 0 ≤ n.tdiv d ∧ n.tdiv d ≤ max n 0 := by
  have hsize := Int.natAbs_tdiv_le_natAbs n d
  rcases Int.le_total 0 n with hn | hn
  · have hquotient := Int.tdiv_nonneg hn (Int.le_of_lt hpos)
    omega
  · have hquotient := Int.tdiv_nonneg (Int.neg_nonneg_of_nonpos hn) (Int.le_of_lt hpos)
    rw [Int.neg_tdiv] at hquotient
    omega

theorem emod_eq_of_tmod (n : Int) {d : Int} (hpos : 0 < d) :
    n % d = if n.tmod d < 0 then n.tmod d + d else n.tmod d := by
  have hlow := Int.lt_tmod_of_pos n hpos
  have hhigh := Int.tmod_lt_of_pos n hpos
  have hsame : n % d = n.tmod d % d := by
    conv_lhs => rw [← Int.tmod_add_mul_tdiv n d, Int.add_mul_emod_self_left]
  rw [hsame]
  split
  · rw [← Int.add_emod_right]
    exact Int.emod_eq_of_lt (by omega) (by omega)
  · exact Int.emod_eq_of_lt (by omega) hhigh

theorem exists_remainder? (n : Int64) {divisor : Int64} (hpos : 0 < divisor.toInt) :
    ∃ r, remainder? n divisor = some r ∧ r.toInt = n.toInt % divisor.toInt := by
  have hmin := n.minValue_le_toInt
  have hmax := n.toInt_le
  have hdivisor := divisor.toInt_le
  have hrange : Int64.minValue.toInt ≤ -Int64.maxValue.toInt ∧ 0 ≤ Int64.maxValue.toInt := by
    decide
  have hne : divisor ≠ 0 := by
    rintro rfl
    exact Int.lt_irrefl 0 hpos
  -- The quotient is no larger than the dividend, and the remainder is smaller than the divisor.
  have hquotient := tdiv_between n.toInt hpos
  have hlow := Int.lt_tmod_of_pos n.toInt hpos
  have hhigh := Int.tmod_lt_of_pos n.toInt hpos
  obtain ⟨q, hq, -⟩ := exists_narrow? (n := n.toInt.tdiv divisor.toInt) (by omega) (by omega)
  obtain ⟨r, hr, hrInt⟩ := exists_narrow? (n := n.toInt.tmod divisor.toInt) (by omega) (by omega)
  have hsteps : remainder? n divisor =
      if r < 0 then narrow? (r.toInt + divisor.toInt) else some r := by
    rw [remainder?, if_neg hne, hq, hr]
    rfl
  have hsign : r < 0 ↔ r.toInt < 0 := Int64.lt_iff_toInt_lt
  rw [hsteps, emod_eq_of_tmod _ hpos, ← hrInt]
  simp only [hsign]
  -- A negative remainder is less than one divisor below zero, so adding one does not overflow.
  split
  · exact exists_narrow? (by omega) (by omega)
  · exact ⟨r, rfl, rfl⟩

theorem exists_getElem?_emod {α : Type} (n : Int) {xs : List α} (hsome : 0 < xs.length) :
    ∃ x, xs[(n % xs.length).toNat]? = some x := by
  have hlow : 0 ≤ n % xs.length := Int.emod_nonneg _ (by omega)
  have hhigh : n % xs.length < xs.length := Int.emod_lt_of_pos _ (by omega)
  exact ⟨_, List.getElem?_eq_getElem (by omega)⟩

theorem cycle?_eq (position : Int64) {args : List Value} (hsome : 0 < args.length)
    (hfew : (args.length : Int) ≤ Int64.maxValue.toInt) :
    cycle? position args = some (cycle position args) := by
  have hrange : Int64.minValue.toInt ≤ 0 := by decide
  obtain ⟨count, hcount, hcountInt⟩ := exists_narrow? (n := args.length) (by omega) hfew
  have hpos : 0 < count.toInt := by omega
  obtain ⟨r, hr, hrInt⟩ := exists_remainder? position hpos
  rw [hcountInt] at hrInt
  have hnonneg : ¬r < 0 := by
    rw [Int64.lt_iff_toInt_lt, hrInt]
    exact Int.not_lt.mpr (Int.emod_nonneg _ (by omega))
  have hsteps : cycle? position args = args[r.toInt.toNat]? := by
    rw [cycle?, hcount]
    change remainder? position count >>= _ = _
    rw [hr]
    exact if_neg hnonneg
  obtain ⟨v, hv⟩ := exists_getElem?_emod position.toInt hsome
  rw [hsteps, hrInt, cycle, List.getD_eq_getElem?_getD, hv, Option.getD_some]

end Value

/-- What a call gives once its arguments have been evaluated from left to right; the first of them
that fails ends it. -/
structure Expr.AfterArguments (c : Context) (args : List Expr) (call : Expr)
    (result : Except EvalError Value) : Prop where
  eval_eq : (∀ a ∈ args, ∃ v, c.eval a = .ok v) → c.eval call = result
  eval_error : ∀ before a after error, args = before ++ a :: after →
    (∀ b ∈ before, ∃ v, c.eval b = .ok v) → c.eval a = .error error → c.eval call = .error error

namespace Expr

variable {c : Context} {object : Expr} {receiver : Value} {args : List Expr}

theorem afterArguments_method {name : String} {result : Except EvalError Value}
    (hobject : c.eval object = .ok receiver)
    (hresult : ∀ vs, evalAll c.lookup args = .ok vs → receiver.callMethod name vs = result) :
    AfterArguments c args (.method object name args) result := by
  have hcall : c.eval (.method object name args) =
      evalAll c.lookup args >>= receiver.callMethod name := by
    rw [Context.eval] at hobject ⊢
    rw [eval, hobject]
    rfl
  refine ⟨fun hargs => ?_, fun before a after error hsplit hbefore ha => ?_⟩
  · obtain ⟨vs, hvs⟩ := exists_evalAll_iff.mpr hargs
    rw [hcall, hvs]
    exact hresult vs hvs
  · rw [hcall, hsplit, evalAll_of_error hbefore ha]
    rfl

theorem afterArguments_cycle {position : Int64} (hsome : 0 < args.length)
    (hobject : c.eval object = .ok receiver)
    (hposition : receiver.subscript "index0" = .ok (.int position)) :
    ∃ a, args[(position.toInt % args.length).toNat]? = some a ∧
      AfterArguments c args (.method object "cycle" args) (c.eval a) := by
  obtain ⟨a, ha⟩ := Value.exists_getElem?_emod position.toInt hsome
  refine ⟨a, ha, afterArguments_method hobject fun vs hvs => ?_⟩
  have hlength : args.length = vs.length := (evalAll_eq_ok_iff.mp hvs).length_eq
  obtain ⟨v, hv, hvalue⟩ := getElem?_of_evalAll hvs ha
  rw [Value.callMethod_cycle, hposition, Context.eval, hvalue]
  change Except.ok (Value.cycle position vs) = .ok v
  rw [Value.cycle, ← hlength, List.getD_eq_getElem?_getD, hv, Option.getD_some]

theorem afterArguments_cycle_of_not_int (hobject : c.eval object = .ok receiver)
    (hposition : ∀ position, receiver.subscript "index0" ≠ .ok (.int position)) :
    AfterArguments c args (.method object "cycle" args)
      (.error (.undefinedMethod "cycle" receiver.typeName)) := by
  refine afterArguments_method hobject fun vs _ => ?_
  rw [Value.callMethod_cycle]
  cases hentry : receiver.subscript "index0" with
  | error e => rfl
  | ok v =>
    cases v with
    | int position => exact absurd hentry (hposition position)
    | _ => rfl

end Expr

namespace Loop

def boundNames (vars : List String) (item : Value) : List String :=
  if 1 < vars.length ∧ item.isMap then vars else vars.take 1

theorem bindItem_along_boundNames (vars : List String) (item : Value) :
    (bindItem vars item).Along (Context.ChangesOnly (boundNames vars item)) := by
  unfold bindItem boundNames
  split
  · exact Outcome.defineFields_along item fun name hn c v => Context.define_changesOnly hn c v
  · cases vars with
    | nil => exact Outcome.done_along
    | cons name rest =>
      exact fun _ c => Context.define_changesOnly (List.mem_singleton_self name) c item

theorem lookup_loop_of_starts {items : ListView Value} {vars : List String} {body : Rendering}
    {sink : Sink} {c : Context} {i : Nat} {start : Sink × Context}
    (hstart : (starts items vars body sink c)[i]? = some start)
    (hname : "loop" ∉ boundNames vars (items.item i)) :
    start.2.lookup "loop" = some (.ofBindings (fieldsAt items i)) := by
  obtain ⟨sink', c', -, hbind⟩ :=
    exists_start (P := fun _ _ => True) (fun _ _ _ _ _ _ _ => trivial) trivial hstart
  rw [Nat.zero_add] at hbind
  have hframe := bindItem_along_boundNames vars (items.item i) sink'
    (c'.define "loop" (.ofBindings (fieldsAt items i)))
  rw [hbind] at hframe
  have hlookup := hframe.lookup_eq hname
  rwa [Context.lookup_define, if_pos rfl] at hlookup

theorem subscript_index0_fieldsAt (items : ListView Value) {i : Nat}
    (hi : (i : Int) ≤ Int64.maxValue.toInt) : ∃ position : Int64, position.toInt = i ∧
      (Value.ofBindings (fieldsAt items i)).subscript "index0" = .ok (.int position) := by
  have hmin : Int64.minValue.toInt ≤ 0 := by decide
  refine ⟨.ofIntClamp i, Int64.toInt_ofIntClamp (by omega) hi, ?_⟩
  change Except.ok (((fieldsAt items i).get? "index0").getD .empty) = _
  rw [get?_fieldsAt]
  rfl

end Loop

theorem Stmt.lookup_loop_of_bodyStarts {vars : List String} {iterable : Expr} {body : Template}
    {sink : Sink} {c : Context} {source : Value} {i : Nat} {start : Sink × Context}
    (hsource : c.eval iterable = .ok source)
    (hstart : (bodyStarts vars iterable body sink c)[i]? = some start)
    (hname : "loop" ∉ Loop.boundNames vars (source.items.item i)) :
    start.2.lookup "loop" = some (.ofBindings (Loop.fieldsAt source.items i)) := by
  cases hopened : c.enter with
  | error e =>
    simp only [bodyStarts, hsource, hopened] at hstart
    cases hstart
  | ok opened =>
    rw [bodyStarts_of_ok hsource hopened] at hstart
    exact Loop.lookup_loop_of_starts hstart hname

/-- Where `loop` still means what it meant when the iteration began, `cycle` picks the argument at
the position of the iteration, counted round and round. -/
theorem Stmt.loop_cycle_picks {args : List Expr} (hsome : 0 < args.length)
    (hfew : (args.length : Int) ≤ Int64.maxValue.toInt) :
    (∀ vars iterable body sink c source (i : Nat) start (d : Context),
      c.eval iterable = .ok source → (bodyStarts vars iterable body sink c)[i]? = some start →
        "loop" ∉ Loop.boundNames vars (source.items.item i) → (i : Int) ≤ Int64.maxValue.toInt →
          d.lookup "loop" = start.2.lookup "loop" → ∃ a, args[i % args.length]? = some a ∧
            Expr.AfterArguments d args (.method (.var "loop") "cycle" args) (d.eval a)) ∧
      (∀ before sink c, "loop" ∉ Stmt.targetsAll before →
        (Stmt.renderAll before sink c).context.lookup "loop" = c.lookup "loop") ∧
      (∀ (c : Context) object receiver, c.eval object = .ok receiver →
        ∀ position : Int64, receiver.subscript "index0" = .ok (.int position) →
          ∃ a, args[(position.toInt % args.length).toNat]? = some a ∧
            Expr.AfterArguments c args (.method object "cycle" args) (c.eval a)) ∧
      (∀ position values, values.length = args.length →
        Value.cycle? position values = some (Value.cycle position values)) ∧
      ∀ (c : Context) object receiver, c.eval object = .ok receiver →
        (∀ position, receiver.subscript "index0" ≠ .ok (.int position)) →
          Expr.AfterArguments c args (.method object "cycle" args)
            (.error (.undefinedMethod "cycle" receiver.typeName)) := by
  refine ⟨?_, ?_, ?_, ?_, ?_⟩
  · intro vars iterable body sink c source i start d hsource hstart hname hi hd
    obtain ⟨position, hposition, hentry⟩ := Loop.subscript_index0_fieldsAt source.items hi
    have hobject : d.eval (.var "loop") = .ok (.ofBindings (Loop.fieldsAt source.items i)) := by
      rw [Context.eval, Expr.eval, hd, lookup_loop_of_bodyStarts hsource hstart hname]
      rfl
    have hpick := Expr.afterArguments_cycle hsome hobject hentry
    rwa [hposition, ← Int.natCast_emod, Int.toNat_natCast] at hpick
  · intro before sink c hbefore
    exact (Stmt.renderAll_along before sink c).lookup_eq hbefore
  · intro c object receiver hobject position hposition
    exact Expr.afterArguments_cycle hsome hobject hposition
  · intro position values hlength
    rw [← hlength] at hsome hfew
    exact Value.cycle?_eq position hsome hfew
  · intro c object receiver hobject hposition
    exact Expr.afterArguments_cycle_of_not_int hobject hposition

theorem Stmt.loop_cycle_picks_afterInner :
    let c := Context.new .empty
    let args : List Expr := [.const (.str "a"), .const (.str "b"), .var "x"]
    let source : Value := .list [.int 5, .int 6, .int 7, .int 8]
    let inner : Stmt :=
      .forLoop ["y"] (.const (.list [.empty])) [.assign ["loop"] (some (.var "y"))] none
    let starts := bodyStarts ["x"] (.const source) [inner] .empty c
    let least : Expr := .const (.map [("index0", .int Int64.minValue)])
    (∃ start, starts[3]? = some start ∧
      (Stmt.renderAll [inner] start.1 start.2).context.eval (.method (.var "loop") "cycle" args) =
        .ok (.str "a")) ∧
      c.eval (.method least "cycle" args) = .ok (.str "b") := by
  intro c args source inner starts least
  obtain ⟨iterations, keeps, receivers, -, -⟩ :=
    @Stmt.loop_cycle_picks args (by decide) (by decide)
  have hargs : ∀ {d : Context}, ∀ a ∈ args, ∃ v, d.eval a = .ok v := by
    intro d
    refine List.forall_mem_cons.mpr ⟨⟨_, rfl⟩, List.forall_mem_cons.mpr ⟨⟨_, rfl⟩, ?_⟩⟩
    exact List.forall_mem_singleton.mpr ⟨_, rfl⟩
  obtain ⟨start, hstart⟩ : ∃ start, starts[3]? = some start := ⟨_, rfl⟩
  refine ⟨⟨start, hstart, ?_⟩, ?_⟩
  · have hkept : "loop" ∉ Stmt.targetsAll [inner] := List.not_mem_nil
    obtain ⟨a, ha, hpick⟩ := iterations ["x"] (.const source) [inner] .empty c source 3 start _ rfl
      hstart (by decide) (by decide) (keeps [inner] start.1 start.2 hkept)
    have hfirst : args[3 % 3]? = some (.const (.str "a")) := rfl
    obtain rfl := Option.some.inj (hfirst.symm.trans ha)
    exact hpick.eval_eq hargs
  · obtain ⟨a, ha, hpick⟩ := receivers c least _ rfl Int64.minValue rfl
    have hsecond : args[(Int64.minValue.toInt % (3 : Nat)).toNat]? = some (.const (.str "b")) := rfl
    obtain rfl := Option.some.inj (hsecond.symm.trans ha)
    exact hpick.eval_eq hargs

theorem Stmt.loop_cycle_hidden :
    let c := Context.new .empty
    let argument : Expr := .const (.str "a")
    let call : Expr := .method (.var "loop") "cycle" [argument]
    let body : Template := [.output call]
    let starts := bodyStarts ["loop"] (.const (.list [.int 1])) body .empty c
    Stmt.targetsAll body = [] ∧ ∃ start, starts[0]? = some start ∧
      start.2.eval argument = .ok (.str "a") ∧
        start.2.eval call = .error (.undefinedMethod "cycle" "int") :=
  ⟨rfl, _, rfl, rfl, rfl⟩

end TextTemplate
