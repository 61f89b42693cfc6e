import MarineHil.Verified.Double
import MarineHil.Verified.Run
import Mathlib.Logic.Function.Basic

/-!
# What the nodes use of rclcpp

Parameters with their store and their set callbacks, clock readings, and the
`JointState` message.  A node's own validation and application of parameters
are its own code; this file only has the middleware around them:

* a parameter is declared once, with a value given at launch or its default;
* `set_parameters_atomically` refuses a batch with an undeclared name or a
  value of another type than the declared one, then asks the node's on-set
  callback, and only then stores the batch and calls the post-set callback.
-/

namespace MarineHil.Ports

open MarineHil.Verified

/-! ## Clock -/

/-- `rclcpp::Time`, in nanoseconds. -/
abbrev Time := ℤ

/-- `seconds()` of a time or of a duration. -/
def seconds {α : Type} [Double α] (ns : ℤ) : α := lit ((ns : ℚ) / 1000000000)

theorem seconds_sub (s t : ℤ) : (seconds (t - s) : ℚ) = seconds t - seconds s := by
  simp only [seconds, lit_rat, Int.cast_sub]
  ring

theorem seconds_le_iff {s t : ℤ} : (seconds s : ℚ) ≤ seconds t ↔ s ≤ t := by
  simp only [seconds, lit_rat]
  rw [div_le_div_iff_of_pos_right (by norm_num), Int.cast_le]

/-! ## Parameters -/

/-- `rclcpp::ParameterValue`, for the types the nodes declare. -/
inductive ParameterValue (α : Type) where
  | bool (b : Bool)
  | integer (i : ℤ)
  | double (x : α)
  | string (s : String)

/-- `rclcpp::ParameterType`. -/
inductive ParameterType where
  | bool
  | integer
  | double
  | string
  deriving DecidableEq

/-- `rclcpp::Parameter`. -/
structure Parameter (α : Type) where
  name : String
  value : ParameterValue α

/-- `std_srvs::srv::SetBool::Response`. -/
structure SetBoolResponse where
  success : Bool
  message : String
  deriving DecidableEq

/-- `rcl_interfaces::msg::SetParametersResult`. -/
structure SetParametersResult where
  successful : Bool
  reason : String
  deriving DecidableEq

namespace SetParametersResult

def success : SetParametersResult := ⟨true, ""⟩

def failure (reason : String) : SetParametersResult := ⟨false, reason⟩

end SetParametersResult

section Parameters

variable {α : Type}

namespace ParameterValue

def type : ParameterValue α → ParameterType
  | bool _ => .bool
  | integer _ => .integer
  | double _ => .double
  | string _ => .string

/-- `as_double()`, which throws on a value of another type. -/
def asDouble : ParameterValue α → Option α
  | double x => some x
  | _ => none

/-- `as_bool()`, which throws on a value of another type. -/
def asBool : ParameterValue α → Option Bool
  | bool b => some b
  | _ => none

/-- `as_int()`, which throws on a value of another type. -/
def asInteger : ParameterValue α → Option ℤ
  | integer i => some i
  | _ => none

/-- `as_string()`, which throws on a value of another type. -/
def asString : ParameterValue α → Option String
  | string s => some s
  | _ => none

end ParameterValue

/-- The value of a parameter of the given name, for an assignment
`if (p.get_name() == name) { member = p.as_double(); }`.  A value of another
type cannot get to such an assignment: the store has refused the batch. -/
def Parameter.doubleNamed (name : String) (p : Parameter α) : Option α :=
  if p.name = name then p.value.asDouble else none

def Parameter.boolNamed (name : String) (p : Parameter α) : Option Bool :=
  if p.name = name then p.value.asBool else none

/-- The values a launch file gives, by parameter name and type. -/
structure Launch (α : Type) where
  double : String → Option α
  bool : String → Option Bool
  integer : String → Option ℤ
  string : String → Option String

namespace Launch

/-- Nothing is overridden. -/
def empty : Launch α := ⟨fun _ => none, fun _ => none, fun _ => none, fun _ => none⟩

/-- `declare_parameter<double>(name, default)` followed by `get_parameter`. -/
def getDouble (l : Launch α) (name : String) (default : α) : α := (l.double name).getD default

def getBool (l : Launch α) (name : String) (default : Bool) : Bool := (l.bool name).getD default

def getInteger (l : Launch α) (name : String) (default : ℤ) : ℤ :=
  (l.integer name).getD default

def getString (l : Launch α) (name default : String) : String := (l.string name).getD default

/-- The launch with one value overridden. -/
def withBool (l : Launch α) (name : String) (b : Bool) : Launch α :=
  { l with bool := Function.update l.bool name (some b) }

def withDouble (l : Launch α) (name : String) (x : α) : Launch α :=
  { l with double := Function.update l.double name (some x) }

def withString (l : Launch α) (name s : String) : Launch α :=
  { l with string := Function.update l.string name (some s) }

@[simp] theorem getBool_withBool (l : Launch α) (name : String) (b default : Bool) :
    (l.withBool name b).getBool name default = b := by
  simp [getBool, withBool]

@[simp] theorem getDouble_withDouble (l : Launch α) (name : String) (x default : α) :
    (l.withDouble name x).getDouble name default = x := by
  simp [getDouble, withDouble]

@[simp] theorem getString_withString (l : Launch α) (name s default : String) :
    (l.withString name s).getString name default = s := by
  simp [getString, withString]

end Launch

/-! ## Validation loops -/

/-- The loop of every on-set callback: check the entries in order, return the
first objection, and throw (`none`) where a check throws. -/
def validateAll {β : Type} (check : β → Option SetParametersResult) :
    List β → Option SetParametersResult
  | [] => some .success
  | b :: bs =>
      match check b with
      | none => none
      | some r => if r.successful then validateAll check bs else some r

/-- The loop succeeds exactly when every check does. -/
theorem validateAll_successful_iff {β : Type} {check : β → Option SetParametersResult}
    {bs : List β} :
    (∃ r, validateAll check bs = some r ∧ r.successful = true) ↔
      ∀ b ∈ bs, ∃ r, check b = some r ∧ r.successful = true := by
  induction bs with
  | nil => simp [validateAll, SetParametersResult.success]
  | cons b bs ih =>
      rw [List.forall_mem_cons, ← ih]
      cases hb : check b with
      | none => simp [validateAll, hb]
      | some r =>
          cases hr : r.successful with
          | false => simp [validateAll, hb, hr]
          | true => simp [validateAll, hb, hr]

/-! ## The parameter store -/

/-- The declared parameters of a node and their stored values. -/
abbrev ParameterStore (α : Type) := String → Option (ParameterValue α)

namespace ParameterStore

/-- The store after the given declarations. -/
def declare (entries : List (String × ParameterValue α)) : ParameterStore α :=
  fun name => entries.lookup name

/-- `get_parameter(name).as_double()` on a name declared as a double: neither
call throws, because a declared parameter keeps its type. -/
def getDouble [Double α] (store : ParameterStore α) (name : String) : α :=
  ((store name).bind ParameterValue.asDouble).getD 0

def getBool (store : ParameterStore α) (name : String) : Bool :=
  ((store name).bind ParameterValue.asBool).getD false

def getInteger (store : ParameterStore α) (name : String) : ℤ :=
  ((store name).bind ParameterValue.asInteger).getD 0

def getString (store : ParameterStore α) (name : String) : String :=
  ((store name).bind ParameterValue.asString).getD ""

/-- Every name is declared, and its value has the declared type. -/
def admits (store : ParameterStore α) (batch : List (Parameter α)) : Bool :=
  batch.all fun p => decide ((store p.name).map ParameterValue.type = some p.value.type)

/-- Store the values of a batch, in order. -/
def setAll (store : ParameterStore α) (batch : List (Parameter α)) : ParameterStore α :=
  batch.foldl (fun st p => Function.update st p.name (some p.value)) store

/-- The types of the declared parameters. -/
def types (store : ParameterStore α) : String → Option ParameterType :=
  fun name => (store name).map ParameterValue.type

theorem admits_congr {store store' : ParameterStore α} (h : store.types = store'.types)
    (batch : List (Parameter α)) : store.admits batch = store'.admits batch := by
  have hname : ∀ name, (store name).map ParameterValue.type =
      (store' name).map ParameterValue.type := fun name => congrFun h name
  simp only [admits, hname]

theorem type_of_admits {store : ParameterStore α} {batch : List (Parameter α)}
    (h : store.admits batch = true) {p : Parameter α} (hp : p ∈ batch) :
    store.types p.name = some p.value.type :=
  of_decide_eq_true (List.all_eq_true.mp h p hp)

/-- Storing an admitted batch changes no declared type. -/
theorem types_setAll {store : ParameterStore α} {batch : List (Parameter α)}
    (h : store.admits batch = true) : (store.setAll batch).types = store.types := by
  induction batch generalizing store with
  | nil => rfl
  | cons p batch ih =>
      have hp : store.types p.name = some p.value.type :=
        type_of_admits h List.mem_cons_self
      have hstep : ParameterStore.types (Function.update store p.name (some p.value)) =
          store.types := by
        funext name
        by_cases hname : name = p.name
        · subst hname
          simpa [types] using hp.symm
        · simp [types, Function.update_of_ne hname]
      have htail : ParameterStore.admits (Function.update store p.name (some p.value)) batch =
          true := by
        rw [admits_congr hstep]
        exact List.all_eq_true.mpr fun q hq =>
          List.all_eq_true.mp h q (List.mem_cons_of_mem p hq)
      exact (ih htail).trans hstep

theorem setAll_concat (store : ParameterStore α) (batch : List (Parameter α)) (p : Parameter α) :
    store.setAll (batch ++ [p]) =
      Function.update (store.setAll batch) p.name (some p.value) :=
  List.foldl_concat _ _ _ _

/-- A batch leaves the parameters it does not name. -/
theorem setAll_of_not_mem {store : ParameterStore α} {batch : List (Parameter α)} {name : String}
    (h : ∀ p ∈ batch, p.name ≠ name) : store.setAll batch name = store name := by
  induction batch using List.reverseRecOn with
  | nil => rfl
  | append_singleton batch p ih =>
      rw [setAll_concat, Function.update_of_ne (Ne.symm (h p (by simp)))]
      exact ih fun q hq => h q (List.mem_append_left _ hq)

/-- After a batch a parameter is as it was, or as some entry of the batch has it. -/
theorem setAll_eq_or (store : ParameterStore α) (batch : List (Parameter α)) (name : String) :
    store.setAll batch name = store name ∨
      ∃ p ∈ batch, p.name = name ∧ store.setAll batch name = some p.value := by
  induction batch using List.reverseRecOn with
  | nil => exact Or.inl rfl
  | append_singleton batch p ih =>
      rw [setAll_concat]
      by_cases hp : p.name = name
      · subst hp
        exact Or.inr ⟨p, by simp, rfl, Function.update_self _ _ _⟩
      · rw [Function.update_of_ne (Ne.symm hp)]
        refine ih.imp_right ?_
        rintro ⟨q, hq, hname, hvalue⟩
        exact ⟨q, List.mem_append_left _ hq, hname, hvalue⟩

/-- What is read of a parameter after an admitted batch: the last value the batch
gives to its name, and otherwise what was read before.  `read` succeeds on the
declared type. -/
theorem bind_setAll {β : Type} {read : ParameterValue α → Option β} {type : ParameterType}
    (hread : ∀ v : ParameterValue α, v.type = type → (read v).isSome = true)
    {store : ParameterStore α} {batch : List (Parameter α)} (h : store.admits batch = true)
    {name : String} (hname : store.types name = some type) :
    (store.setAll batch name).bind read =
      (lastSome (fun p : Parameter α => if p.name = name then read p.value else none) batch).or
        ((store name).bind read) := by
  induction batch using List.reverseRecOn with
  | nil => rfl
  | append_singleton batch p ih =>
      have hbatch : store.admits batch = true :=
        List.all_eq_true.mpr fun q hq => List.all_eq_true.mp h q (List.mem_append_left _ hq)
      have hp : store.types p.name = some p.value.type := type_of_admits h (by simp)
      rw [setAll_concat, lastSome_concat]
      by_cases hpn : p.name = name
      · subst hpn
        have hsome := hread p.value (Option.some.inj (hp.symm.trans hname))
        rw [Function.update_self, if_pos rfl, Option.bind_some]
        cases hv : read p.value with
        | none =>
            rw [hv] at hsome
            exact absurd hsome Bool.false_ne_true
        | some b => rfl
      · rw [Function.update_of_ne (Ne.symm hpn), if_neg hpn, Option.none_or]
        exact ih hbatch

end ParameterStore

/-- A batch passes `set_parameters_atomically`: it is admitted by the store,
and the node's on-set callback neither throws (`none`) nor objects. -/
def accepts (store : ParameterStore α)
    (onValidate : List (Parameter α) → Option SetParametersResult)
    (batch : List (Parameter α)) : Bool :=
  store.admits batch && ((onValidate batch).map SetParametersResult.successful).getD false

/-- Acceptance depends on the store through the declared types alone. -/
theorem accepts_congr {store store' : ParameterStore α} (h : store.types = store'.types)
    (onValidate : List (Parameter α) → Option SetParametersResult) (batch : List (Parameter α)) :
    accepts store onValidate batch = accepts store' onValidate batch := by
  unfold accepts
  rw [ParameterStore.admits_congr h]

theorem accepts_iff {store : ParameterStore α}
    {onValidate : List (Parameter α) → Option SetParametersResult}
    {batch : List (Parameter α)} :
    accepts store onValidate batch = true ↔
      store.admits batch = true ∧ ∃ r, onValidate batch = some r ∧ r.successful = true := by
  unfold accepts
  rw [Bool.and_eq_true]
  cases onValidate batch with
  | none => simp
  | some r => simp

/-! ## The store over runs -/

section StoreRun

variable {ν ε β : Type} {onValidate : List (Parameter α) → Option SetParametersResult}
  {batchOf : ε → Option (List (Parameter α))} {step : ν → ε → ν} {store : ν → ParameterStore α}

/-- The batch of an event, where a node with the given store accepts it. -/
def acceptedBatch (onValidate : List (Parameter α) → Option SetParametersResult)
    (batchOf : ε → Option (List (Parameter α))) (store : ParameterStore α) (e : ε) :
    Option (List (Parameter α)) :=
  (batchOf e).filter fun batch => accepts store onValidate batch

theorem acceptedBatch_congr {st st' : ParameterStore α} (h : st.types = st'.types) (e : ε) :
    acceptedBatch onValidate batchOf st e = acceptedBatch onValidate batchOf st' e := by
  unfold acceptedBatch
  simp only [accepts_congr h]

theorem accepts_of_acceptedBatch {st : ParameterStore α} {e : ε} {batch : List (Parameter α)}
    (h : acceptedBatch onValidate batchOf st e = some batch) :
    accepts st onValidate batch = true :=
  (Option.filter_eq_some_iff.mp h).2

theorem acceptedBatch_bind {γ : Type} (st : ParameterStore α) (e : ε)
    (f : List (Parameter α) → Option γ) :
    (acceptedBatch onValidate batchOf st e).bind f =
      (batchOf e).bind fun batch => if accepts st onValidate batch then f batch else none := by
  unfold acceptedBatch
  cases batchOf e with
  | none => rfl
  | some batch =>
      show Option.bind (if accepts st onValidate batch then some batch else none) f =
        if accepts st onValidate batch then f batch else none
      split <;> rfl

/-- Events change the store of a node by accepted batches alone. -/
def StoresBatches (onValidate : List (Parameter α) → Option SetParametersResult)
    (batchOf : ε → Option (List (Parameter α))) (step : ν → ε → ν) (store : ν → ParameterStore α) :
    Prop :=
  ∀ s e, store (step s e) =
    ((acceptedBatch onValidate batchOf (store s) e).map (store s).setAll).getD (store s)

variable (h : StoresBatches onValidate batchOf step store) (s : ν) (es : List ε)

include h

theorem StoresBatches.types_step (e : ε) : (store (step s e)).types = (store s).types := by
  rw [h s e]
  cases hbatch : acceptedBatch onValidate batchOf (store s) e with
  | none => rfl
  | some batch =>
      exact ParameterStore.types_setAll (accepts_iff.mp (accepts_of_acceptedBatch hbatch)).1

theorem StoresBatches.types_run : (store (run step s es)).types = (store s).types :=
  invariant_run (I := fun t => (store t).types = (store s).types)
    (by intro t e ht; exact (h.types_step t e).trans ht) rfl es

/-- What is read of a parameter after a run: the last value an accepted batch gives
to its name, and before any what was read at first. -/
theorem StoresBatches.read_run {read : ParameterValue α → Option β} {type : ParameterType}
    (hread : ∀ v : ParameterValue α, v.type = type → (read v).isSome = true) {name : String}
    (hname : (store s).types name = some type) :
    (store (run step s es) name).bind read =
      (lastSome (fun e => (acceptedBatch onValidate batchOf (store s) e).bind
        (lastSome fun p : Parameter α => if p.name = name then read p.value else none)) es).or
          ((store s name).bind read) := by
  induction es using List.reverseRecOn with
  | nil => rfl
  | append_singleton es e ih =>
      have htypes := h.types_run s es
      rw [run_concat, lastSome_concat, Option.or_assoc, ← ih, h (run step s es) e,
        acceptedBatch_congr htypes]
      cases hbatch : acceptedBatch onValidate batchOf (store s) e with
      | none => rfl
      | some batch =>
          have hadmits : (store (run step s es)).admits batch = true := by
            rw [ParameterStore.admits_congr htypes]
            exact (accepts_iff.mp (accepts_of_acceptedBatch hbatch)).1
          exact ParameterStore.bind_setAll hread hadmits (by rw [htypes, hname])

theorem StoresBatches.getDouble_run [Double α] {name : String}
    (hname : (store s).types name = some .double) :
    (store (run step s es)).getDouble name =
      (lastSome (fun e => (acceptedBatch onValidate batchOf (store s) e).bind
        (lastSome (Parameter.doubleNamed name))) es).getD ((store s).getDouble name) := by
  have hread (v : ParameterValue α) (hv : v.type = .double) : v.asDouble.isSome = true := by
    cases v <;> first | rfl | cases hv
  unfold ParameterStore.getDouble
  rw [h.read_run s es hread hname, Option.getD_or]
  rfl

theorem StoresBatches.getBool_run {name : String} (hname : (store s).types name = some .bool) :
    (store (run step s es)).getBool name =
      (lastSome (fun e => (acceptedBatch onValidate batchOf (store s) e).bind
        (lastSome (Parameter.boolNamed name))) es).getD ((store s).getBool name) := by
  have hread (v : ParameterValue α) (hv : v.type = .bool) : v.asBool.isSome = true := by
    cases v <;> first | rfl | cases hv
  unfold ParameterStore.getBool
  rw [h.read_run s es hread hname, Option.getD_or]
  rfl

/-- A parameter that no accepted batch names keeps its value. -/
theorem StoresBatches.unnamed_run {name : String}
    (hname : ∀ batch, accepts (store s) onValidate batch = true → ∀ p ∈ batch, p.name ≠ name) :
    store (run step s es) name = store s name := by
  induction es using List.reverseRecOn with
  | nil => rfl
  | append_singleton es e ih =>
      rw [run_concat, h (run step s es) e, acceptedBatch_congr (h.types_run s es)]
      cases hbatch : acceptedBatch onValidate batchOf (store s) e with
      | none => exact ih
      | some batch =>
          refine Eq.trans (ParameterStore.setAll_of_not_mem ?_) ih
          exact hname batch (accepts_of_acceptedBatch hbatch)

end StoreRun

end Parameters

/-! ## Messages -/

/-- What the nodes read of `sensor_msgs::msg::JointState`. -/
structure JointState (α : Type) where
  stamp : Time
  name : List String
  position : List α
  velocity : List α

namespace JointState

variable {α : Type}

/-- The message lists the joint, and every entry of that name holds the
position `p` and the velocity `v`. -/
structure Carries (msg : JointState α) (joint : String) (p v : α) : Prop where
  listed : joint ∈ msg.name
  position : ∀ i : ℕ, msg.name[i]? = some joint → msg.position[i]? = some p
  velocity : ∀ i : ℕ, msg.name[i]? = some joint → msg.velocity[i]? = some v

/-- A message that carries the joint, with what it carries. -/
structure Sample (α : Type) (joint : String) where
  message : JointState α
  position : α
  velocity : α
  carries : message.Carries joint position velocity

/-- The message of a driver that owns one joint. -/
def single (stamp : Time) (joint : String) (p v : α) : JointState α :=
  ⟨stamp, [joint], [p], [v]⟩

theorem single_carries (stamp : Time) (joint : String) (p v : α) :
    (single stamp joint p v).Carries joint p v := by
  refine ⟨List.mem_singleton_self joint, ?_, ?_⟩
  · intro i hi
    cases i with
    | zero => rfl
    | succ i => simp [single] at hi
  · intro i hi
    cases i with
    | zero => rfl
    | succ i => simp [single] at hi

end JointState

end MarineHil.Ports
