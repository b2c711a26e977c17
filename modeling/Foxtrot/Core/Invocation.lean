import Foxtrot.Core.Device
import Foxtrot.Foundation.Fallible

/-!
# Invoking a device

`Device::Invoke` (`core/src/Device.cpp`) carries out a property or a method: a property is read, or
set if it can be written and there is an argument, and a method is invoked if it gets as many
arguments as it has parameters. Each argument is first converted to the type at its place
(`sanitize_arg`). What is then done to the device is an `Action`.

An invocation leads to the action that its arguments call for (`Delivers`), or it throws and
nothing is done to the device (`invoke_delivers`).

`Delivers` is an inductive relation with one case for each way in which an action can be called for,
and `invoke_delivers` says that the function does the action of that relation, or nothing and
throws. So later modules do not look at the conversions again.
-/

namespace Foxtrot.Core

open Fallible

/-- What is used of `rttr::variant` and `rttr::type`. -/
structure Rttr (Ty Val : Type) where
  getName : Ty → String
  isValid : Val → Bool
  getType : Val → Ty
  canConvert : Val → Ty → Bool
  /-- `convert`: the variant afterwards, if it succeeds. -/
  convert : Val → Ty → Option Val
  isWrapper : Ty → Bool
  extractWrappedValue : Val → Val

/-- What is done to a device. -/
inductive Action (Ty Val : Type) where
  | getValue (prop : Property Ty)
  | setValue (prop : Property Ty) (arg : Val)
  | invokeVariadic (meth : Method Ty) (args : List Val)

/-- How a device reacts: what it returns to an action, or throws. -/
structure Reactions (Ty Val Ret : Type) where
  getValue : Property Ty → Except Thrown Ret
  /-- Whether the property could be set. -/
  setValue : Property Ty → Val → Except Thrown Bool
  /-- The returned variant, if it is a valid one. -/
  invokeVariadic : Method Ty → List Val → Except Thrown (Option Ret)
  /-- What `void_helper_function` returns. -/
  voidValue : Ret

variable {Ty Val Ret : Type} [DecidableEq Ty]

/-- `sanitize_arg`. -/
def sanitizeArg (rttr : Rttr Ty Val) (argin : Val) (targetTp : Ty) (pos : ℕ) :
    Except Thrown Val :=
  if rttr.isValid argin = false then
    .error (.exception "argument variant is not valid! This should not happen")
  else if rttr.canConvert argin targetTp = false then
    .error (.exception ("argument at position: " ++ toString pos ++ "of type: " ++
      rttr.getName (rttr.getType argin) ++ "cannot be converted to needed type: " ++
      rttr.getName targetTp))
  else if rttr.getType argin ≠ targetTp then
    match rttr.convert argin targetTp with
    | some arg => .ok arg
    | none => .error (.exception ("failed to convert argument at position: " ++ toString pos))
  else .ok argin

/-- A wrapped value is taken out. -/
def Rttr.unwrapped (rttr : Rttr Ty Val) (a : Val) : Val :=
  if rttr.isWrapper (rttr.getType a) then rttr.extractWrappedValue a else a

/-- The loop over the arguments of a method and its parameters, from the argument number `i`. -/
def sanitizeArgs (rttr : Rttr Ty Val) : ℕ → List Val → List Ty → Except Thrown (List Val)
  | i, a :: args, targetTp :: types => do
    let arg ← sanitizeArg rttr (rttr.unwrapped a) targetTp i
    return arg :: (← sanitizeArgs rttr (i + 1) args types)
  | _, _, _ => .ok []

/-- `Invoke`, of a property. -/
def invokeProperty (rttr : Rttr Ty Val) (react : Reactions Ty Val Ret) (prop : Property Ty)
    (args : List Val) : List (Action Ty Val) × Except Thrown Ret :=
  if prop.readonly then ([.getValue prop], react.getValue prop)
  else
    match args with
    | [] => ([.getValue prop], react.getValue prop)
    | [arg] =>
      match sanitizeArg rttr arg prop.type 1 with
      | .error e => ([], .error e)
      | .ok arg =>
        ([.setValue prop arg], do
          if ← react.setValue prop arg then return react.voidValue
          else .error (.exception "failed to set property!"))
    | _ :: _ :: _ => ([], .error (.exception
        "require only 1 argument to writable property, this may be an error in your device driver"))

/-- `Invoke`, of a method. A registered method is valid. -/
def invokeMethod (rttr : Rttr Ty Val) (react : Reactions Ty Val Ret) (meth : Method Ty)
    (args : List Val) : List (Action Ty Val) × Except Thrown Ret :=
  if args.length ≠ meth.parameters.length then
    ([], .error (.exception "wrong number of arguments provided"))
  else
    match sanitizeArgs rttr 1 args (meth.parameters.map Prod.snd) with
    | .error e => ([], .error e)
    | .ok argvec =>
      ([.invokeVariadic meth argvec], do
        match ← react.invokeVariadic meth argvec with
        | some out => return out
        | none => .error (.exception "failed to invoke method!"))

/-- `Invoke`, of a property or a method: what is done to the device, and what is returned. -/
def invoke (rttr : Rttr Ty Val) (react : Reactions Ty Val Ret) (pm : Invokable Ty)
    (args : List Val) : List (Action Ty Val) × Except Thrown Ret :=
  match pm with
  | .property prop => invokeProperty rttr react prop args
  | .method meth => invokeMethod rttr react meth args

/-- `Invoke`, of a name. -/
def Device.invoke (rttr : Rttr Ty Val) (react : Reactions Ty Val Ret) (dev : Device Ty)
    (capname : String) (args : List Val) : List (Action Ty Val) × Except Thrown Ret :=
  match dev.invokable capname with
  | .error e => ([], .error e)
  | .ok pm => Core.invoke rttr react pm args

/-! ### What an invocation does -/

/-- A variant becomes an argument of a type. -/
def Rttr.ConvertsTo (rttr : Rttr Ty Val) (a : Val) (targetTp : Ty) (arg : Val) : Prop :=
  rttr.isValid a = true ∧ rttr.canConvert a targetTp = true ∧
    if rttr.getType a = targetTp then arg = a else rttr.convert a targetTp = some arg

/-- The action that arguments call for. -/
inductive Delivers (rttr : Rttr Ty Val) : Invokable Ty → List Val → Action Ty Val → Prop
  | read {prop : Property Ty} {args : List Val} (h : prop.readonly = true ∨ args = []) :
      Delivers rttr (.property prop) args (.getValue prop)
  | write {prop : Property Ty} {a arg : Val} (hwritable : prop.readonly = false)
      (h : rttr.ConvertsTo a prop.type arg) :
      Delivers rttr (.property prop) [a] (.setValue prop arg)
  | call {meth : Method Ty} {args argvec : List Val}
      (h : Aligned (fun a targetTp arg => rttr.ConvertsTo (rttr.unwrapped a) targetTp arg) args
        (meth.parameters.map Prod.snd) argvec) :
      Delivers rttr (.method meth) args (.invokeVariadic meth argvec)

section Delivery

variable {rttr : Rttr Ty Val} {react : Reactions Ty Val Ret}

/-- The number of an argument is only in the texts. -/
theorem sanitizeArg_eq_ok_iff {a arg : Val} {targetTp : Ty} {pos : ℕ} :
    sanitizeArg rttr a targetTp pos = .ok arg ↔ rttr.ConvertsTo a targetTp arg := by
  rw [sanitizeArg, Rttr.ConvertsTo]
  cases hvalid : rttr.isValid a with
  | false => simp
  | true =>
    cases hcan : rttr.canConvert a targetTp with
    | false => simp
    | true =>
      rw [if_neg Bool.true_eq_false.mp, if_neg Bool.true_eq_false.mp]
      by_cases htype : rttr.getType a = targetTp
      · rw [if_neg (not_not.mpr htype), if_pos htype, Except.ok.injEq]
        simp [eq_comm]
      · rw [if_pos htype, if_neg htype]
        cases rttr.convert a targetTp with
        | none => simp
        | some b => simp

/-- The arguments are sanitized exactly if each converts to its type. -/
private theorem sanitizeArgs_eq_ok_iff {i : ℕ} {args argvec : List Val} {types : List Ty}
    (hlen : args.length = types.length) :
    sanitizeArgs rttr i args types = .ok argvec ↔
      Aligned (fun a targetTp arg => rttr.ConvertsTo (rttr.unwrapped a) targetTp arg) args types
        argvec := by
  induction args generalizing i types argvec with
  | nil =>
    obtain rfl := List.eq_nil_of_length_eq_zero hlen.symm
    constructor
    · intro h
      obtain rfl := Except.ok.inj h
      exact .nil
    · rintro ⟨⟩
      rfl
  | cons a args ih =>
    obtain _ | ⟨targetTp, types⟩ := types
    · cases hlen
    rw [sanitizeArgs, bind_eq_ok_iff]
    constructor
    · rintro ⟨arg, harg, h⟩
      obtain ⟨argvec, hargs, h⟩ := bind_eq_ok_iff.mp h
      obtain rfl := Except.ok.inj h
      exact .cons (sanitizeArg_eq_ok_iff.mp harg) ((ih (Nat.succ.inj hlen)).mp hargs)
    · intro h
      cases h with
      | cons hd tl =>
        refine ⟨_, sanitizeArg_eq_ok_iff.mpr hd, bind_eq_ok_iff.mpr ⟨_, ?_, rfl⟩⟩
        exact (ih (Nat.succ.inj hlen)).mpr tl

/-- Arguments with which a property that can be written throws. -/
theorem not_delivers_property {prop : Property Ty} {args : List Val}
    (hwritable : prop.readonly = false) (hargs : args ≠ [])
    (hconv : ∀ a arg, args = [a] → ¬ rttr.ConvertsTo a prop.type arg) (act : Action Ty Val) :
    ¬ Delivers rttr (.property prop) args act := by
  intro hact
  cases hact with
  | read h =>
    rcases h with hro | hnil
    · cases hwritable.symm.trans hro
    · exact hargs hnil
  | write _ h => exact hconv _ _ rfl h

/-- **An invocation delivers its arguments or throws**: what is done to the device is the action
that the arguments call for, or nothing. -/
theorem invoke_delivers (rttr : Rttr Ty Val) (react : Reactions Ty Val Ret) (pm : Invokable Ty)
    (args : List Val) :
    (∃ act, Delivers rttr pm args act ∧ (invoke rttr react pm args).1 = [act]) ∨
      ((∀ act, ¬ Delivers rttr pm args act) ∧
        ∃ e, invoke rttr react pm args = ([], .error e)) := by
  cases pm with
  | property prop =>
    change (∃ act, _ ∧ (invokeProperty rttr react prop args).1 = _) ∨
      (_ ∧ ∃ e, invokeProperty rttr react prop args = _)
    cases hro : prop.readonly with
    | true => exact .inl ⟨_, .read (.inl hro), by simp [invokeProperty.eq_def, hro]⟩
    | false =>
      match args with
      -- without an argument a property is read, and with one it is written
      | [] => exact .inl ⟨_, .read (.inr rfl), by simp [invokeProperty.eq_def, hro]⟩
      | [a] =>
        cases harg : sanitizeArg rttr a prop.type 1 with
        | ok arg =>
          refine .inl ⟨_, .write hro (sanitizeArg_eq_ok_iff.mp harg), ?_⟩
          simp [invokeProperty.eq_def, hro, harg]
        | error e =>
          refine .inr ⟨not_delivers_property hro (List.cons_ne_nil _ _) fun b arg heq h => ?_,
            e, ?_⟩
          · obtain rfl := List.singleton_inj.mp heq
            cases harg.symm.trans (sanitizeArg_eq_ok_iff.mpr h)
          · simp [invokeProperty.eq_def, hro, harg]
      | _ :: _ :: _ =>
        refine .inr ⟨not_delivers_property hro (List.cons_ne_nil _ _) fun b arg heq _ => ?_, ?_⟩
        · cases heq
        · simp [invokeProperty.eq_def, hro]
  | method meth =>
    change (∃ act, _ ∧ (invokeMethod rttr react meth args).1 = _) ∨
      (_ ∧ ∃ e, invokeMethod rttr react meth args = _)
    rw [invokeMethod]
    split_ifs with hlen
    · refine .inr ⟨fun act hact => ?_, _, rfl⟩
      cases hact with
      | call h => exact hlen (by rw [h.length_left, List.length_map])
    · have hlen : args.length = (meth.parameters.map Prod.snd).length := by
        rw [List.length_map]
        exact not_not.mp hlen
      cases hargs : sanitizeArgs rttr 1 args (meth.parameters.map Prod.snd) with
      | ok argvec => exact .inl ⟨_, .call ((sanitizeArgs_eq_ok_iff hlen).mp hargs), rfl⟩
      | error e =>
        refine .inr ⟨fun act hact => ?_, e, rfl⟩
        cases hact with
        | call h => cases hargs.symm.trans ((sanitizeArgs_eq_ok_iff hlen).mpr h)

end Delivery

end Foxtrot.Core
