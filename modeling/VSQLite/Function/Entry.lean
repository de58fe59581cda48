import VSQLite.Function.Model

/-!
# Callables of any signature

`function_entry` for a callable with any number of parameters, and what a call of it is meant
to come to: no parameter that takes no NULL is given one, and the callable is called on the
converted values.
-/

set_option autoImplicit false

namespace VSQLite
open Lib

/-- A parameter may also be the `sqlite3_value` itself. -/
inductive ParameterType where
  | converted (type : FunctionType)
  | sqlite3Value
deriving DecidableEq

def ParameterType.Val : ParameterType → Type
  | .converted type => type.Val
  | .sqlite3Value => Value

/-- `void`, `null_type` and `std::nullptr_t` are written as NULL. -/
inductive ReturnType where
  | void
  | written (type : FunctionType)
deriving DecidableEq

def ReturnType.Val : ReturnType → Type
  | .void => Unit
  | .written type => type.Val

def Arguments : List ParameterType → Type
  | [] => Unit
  | type :: rest => type.Val × Arguments rest

structure Callable where
  parameters : List ParameterType
  result : ReturnType
  call : Arguments parameters → Except Thrown result.Val

section Entry
variable (conversions : Conversions) (emptyNull : Bool)

def ParameterType.convert : (type : ParameterType) → Value → Except Thrown type.Val
  | .converted type, value => type.convert conversions value
  | .sqlite3Value, value => .ok value

/-- The arguments of `std::invoke`.  Which is converted first is left to the compiler, and does
not show, for every converter throws the same.  There are none where `argv` is too short. -/
def convertAll : (types : List ParameterType) → List Value →
    Option (Except Thrown (Arguments types))
  | [], _ => some (.ok ())
  | _ :: _, [] => none
  | type :: rest, value :: argv =>
      (convertAll rest argv).map fun later =>
        match type.convert conversions value with
        | .error thrown => .error thrown
        | .ok first => later.map fun converted => (first, converted)

def ReturnType.apply : (type : ReturnType) → type.Val → Option Value
  | .void, _ => some .null
  | .written type, value => type.apply emptyNull value

/-- What a callable returns or throws is reported to SQLite, and nothing leaves the entry. -/
def ReturnType.report (type : ReturnType) : Except Thrown type.Val → Option FunctionResult
  | .error thrown => some (.error thrown.message)
  | .ok returned => (type.apply emptyNull returned).map .value

def Callable.invokeWithArguments (callable : Callable) (argv : List Value) :
    Option (Except Thrown callable.result.Val) :=
  (convertAll conversions callable.parameters argv).map fun arguments =>
    arguments.bind callable.call

/-- `function_entry<Callable>` with the user data it finds. -/
def Callable.functionEntry (holder : Option Callable) (argv : List Value) :
    Option FunctionResult :=
  match holder with
  | none => some (.error (ascii "SQL function metadata missing."))
  | some callable =>
      if argv.length ≠ callable.parameters.length then
        some (.error (ascii "Unexpected number of arguments for SQL function."))
      else
        (callable.invokeWithArguments conversions argv).bind
          (callable.result.report emptyNull)

end Entry

/-! ## What a call is meant to come to -/

def ParameterType.takesNull : ParameterType → Bool
  | .converted (.base _) => false
  | .converted (.optional _) => true
  | .sqlite3Value => true

section Outcome
variable (conversions : Conversions) (emptyNull : Bool)

/-- What the callable is given for a value that is not NULL. -/
def FunctionBase.given : (type : FunctionBase) → Value → type.Val
  | .integer type, value => type.val.convert (sqlite3ColumnInt64 conversions value)
  | .bool, value => (sqlite3ColumnInt conversions value ≠ 0 : Bool)
  | .string, value => sqlite3ColumnText conversions value
  | .stringView, value => View.ofString (sqlite3ColumnText conversions value)
  | .unsignedCharSpan, value => sqlite3ColumnBlob conversions value
  | .byteSpan, value => sqlite3ColumnBlob conversions value
  | .unsignedCharVector, value => sqlite3ColumnText conversions value
  | .byteVector, value => sqlite3ColumnText conversions value

def ParameterType.given : (type : ParameterType) → Value → type.Val
  | .converted (.base type), value => type.given conversions value
  | .converted (.optional type), value =>
      if value = .null then none else some (type.given conversions value)
  | .sqlite3Value, value => value

def givenAll : (types : List ParameterType) → List Value → Arguments types
  | [], _ => ()
  | type :: rest, argv =>
      (type.given conversions (argv.headD .null), givenAll rest argv.tail)

/-- A parameter that takes no NULL would be given one. -/
def refusesNull (types : List ParameterType) (argv : List Value) : Bool :=
  (types.zip argv).any fun (type, value) => !type.takesNull && decide (value = .null)

/-- A call with as many arguments as there are parameters. -/
def Callable.outcome (callable : Callable) (argv : List Value) : Option FunctionResult :=
  if refusesNull callable.parameters argv then some (.error nullArgumentError.message)
  else
    callable.result.report emptyNull
      (callable.call (givenAll conversions callable.parameters argv))

/-! ## The entry does that -/

theorem base_convert (type : FunctionBase) (value : Value) :
    type.convert conversions value =
      if value = .null then .error nullArgumentError else .ok (type.given conversions value) := by
  by_cases null : value = .null
  · subst null
    cases type <;> rfl
  · rw [if_neg null]
    cases type <;>
      simp only [FunctionBase.convert, FunctionBase.given, convertText, convertSpan,
        if_neg null] <;>
      rfl

theorem parameter_convert (type : ParameterType) (value : Value) :
    type.convert conversions value =
      if type.takesNull = false ∧ value = .null then .error nullArgumentError
      else .ok (type.given conversions value) := by
  cases type with
  | sqlite3Value =>
      rw [if_neg fun impossible => by cases impossible.1]
      rfl
  | converted type =>
      cases type with
      | base type =>
          have same := base_convert conversions type value
          by_cases null : value = .null
          · rw [if_pos null] at same
            rw [if_pos ⟨rfl, null⟩]
            exact same
          · rw [if_neg null] at same
            rw [if_neg fun both => null both.2]
            exact same
      | optional type =>
          rw [if_neg fun impossible => by cases impossible.1]
          by_cases null : value = .null
          · subst null
            rfl
          · have same := base_convert conversions type value
            rw [if_neg null] at same
            have there : ParameterType.convert conversions (.converted (.optional type)) value =
                (type.convert conversions value).map some := if_neg null
            have given : ParameterType.given conversions (.converted (.optional type)) value =
                some (type.given conversions value) := if_neg null
            rw [there, given, same]
            rfl

theorem refusesNull_cons (type : ParameterType) (rest : List ParameterType) (value : Value)
    (values : List Value) :
    refusesNull (type :: rest) (value :: values) =
      ((!type.takesNull && decide (value = .null)) || refusesNull rest values) := rfl

theorem convertAll_eq (types : List ParameterType) (argv : List Value)
    (arity : argv.length = types.length) :
    convertAll conversions types argv =
      some (if refusesNull types argv then .error nullArgumentError
        else .ok (givenAll conversions types argv)) := by
  induction types generalizing argv with
  | nil => rfl
  | cons type rest ih =>
      obtain ⟨value, values, rfl⟩ := List.exists_cons_of_length_eq_add_one arity
      have later := ih values (Nat.succ.inj arity)
      rw [convertAll, later, Option.map_some, parameter_convert, refusesNull_cons]
      congr 1
      by_cases refused : type.takesNull = false ∧ value = .null
      · obtain ⟨strict, null⟩ := refused
        subst null
        rw [if_pos ⟨strict, rfl⟩, strict]
        rfl
      · have passed : (!type.takesNull && decide (value = .null)) = false := by
          simpa using refused
        rw [if_neg refused, passed, Bool.false_or]
        by_cases tail : refusesNull rest values = true
        · rw [if_pos tail, if_pos tail]
          rfl
        · rw [if_neg tail, if_neg tail]
          rfl

/-- With as many arguments as parameters the entry does what is meant. -/
theorem functionEntry_eq_outcome (callable : Callable) (argv : List Value)
    (arity : argv.length = callable.parameters.length) :
    Callable.functionEntry conversions emptyNull (some callable) argv =
      callable.outcome conversions emptyNull argv := by
  rw [Callable.functionEntry]
  simp only [ne_eq, arity, not_true_eq_false, if_false]
  rw [Callable.invokeWithArguments, convertAll_eq conversions callable.parameters argv arity,
    Option.map_some, Option.bind_some, Callable.outcome]
  split
  · rfl
  · rfl

def Callable.unary {argument result : FunctionType}
    (call : argument.Val → Except Thrown result.Val) : Callable :=
  ⟨[.converted argument], .written result, fun arguments => call arguments.1⟩

theorem unary_functionEntry {argument result : FunctionType}
    (call : argument.Val → Except Thrown result.Val) (argv : List Value) :
    Callable.functionEntry conversions emptyNull (some (Callable.unary call)) argv =
      functionEntry conversions emptyNull (some call) argv := by
  rcases argv with _ | ⟨value, _ | ⟨second, rest⟩⟩
  · rfl
  · have entered : Callable.functionEntry conversions emptyNull (some (Callable.unary call))
        [value] = ((convertAll conversions [.converted argument] [value]).map fun arguments =>
          arguments.bind fun converted => call converted.1).bind
            (ReturnType.report emptyNull (.written result)) := rfl
    rw [entered, functionEntry]
    cases done : argument.convert conversions value with
    | error thrown =>
        have refused : convertAll conversions [.converted argument] [value] =
            some (.error thrown) := by
          simp only [convertAll, ParameterType.convert, done, Option.map_some]
        rw [refused]
        rfl
    | ok converted =>
        have passed : convertAll conversions [.converted argument] [value] =
            some (.ok (converted, ())) := by
          simp only [convertAll, ParameterType.convert, done, Option.map_some]
          rfl
        rw [passed, Option.map_some, Option.bind_some]
        have given : (Except.ok (converted, ()) : Except Thrown (argument.Val × Unit)).bind
            (fun arguments => call arguments.1) = call converted := rfl
        refine (congrArg (ReturnType.report emptyNull (.written result)) given).trans ?_
        cases called : call converted with
        | error thrown =>
            simp only [called]
            rfl
        | ok returned =>
            simp only [called]
            rfl
  · rfl

end Outcome
end VSQLite
