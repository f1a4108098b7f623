import Mathlib.Data.List.Basic
import Reckoner.Assertion

/-! Whether the assertion of a value holds is decided by a difference of doubles. A finite number minus
itself is zero, but an infinity minus any number is an infinity or no number. So an expression passes for its
own value if that is finite, and otherwise for no value. -/

namespace Reckoner.Assertion

open Float.Model (UnpackedFloat)

section Difference

variable {format : Float.Model.Format} {u : UnpackedFloat} {x : Float}

theorem unpacked_sub_self (h : u.isFinite = true) : u.sub format u = .zero .positive := by
  cases u with
  | notANumber => cases h
  | infinity sign => cases h
  | zero sign => cases sign <;> rfl
  | finite sign mantissa exponent hpos =>
    let aligned := sign.apply (UnpackedFloat.decreaseExponent mantissa exponent (min exponent exponent)).1
    show UnpackedFloat.normalize format (aligned - aligned) (min exponent exponent) .positive = _
    rw [Int.sub_self]
    rfl

theorem unpacked_sub_of_not_isFinite (h : u.isFinite = false) (v : UnpackedFloat) :
    u.sub format v = .notANumber ∨ ∃ sign, u.sub format v = .infinity sign := by
  cases u with
  | notANumber => exact .inl rfl
  | infinity sign =>
    cases v with
    | notANumber => exact .inl rfl
    | infinity sign' =>
      -- Infinities of one sign leave no number, and of two signs the first.
      by_cases hsign : (sign == -sign') = true
      · exact .inr ⟨sign, if_pos hsign⟩
      · exact .inl (if_neg hsign)
    | zero => exact .inr ⟨sign, rfl⟩
    | finite => exact .inr ⟨sign, rfl⟩
  | zero sign => cases h
  | finite => cases h

theorem sub_eq_pack (x y : Float) :
    x - y = .ofModel (.pack (x.toModel.unpack.sub .binary64 y.toModel.unpack)) := rfl

theorem abs_sub_self_lt (h : x.isFinite = true) : (x - x).abs < tolerance := by
  rw [sub_eq_pack, unpacked_sub_self h]
  decide +kernel

theorem not_abs_sub_lt (h : x.isFinite = false) (y : Float) : ¬ (x - y).abs < tolerance := by
  rw [sub_eq_pack]
  rcases unpacked_sub_of_not_isFinite h y.toModel.unpack with hsub | ⟨sign, hsub⟩
  · rw [hsub]
    decide +kernel
  · rw [hsub]
    cases sign <;> decide +kernel

end Difference

theorem checkRoot_evaluatesTo_eq_ok {e : Expr} {x : Float} :
    checkRoot e [evaluatesTo x] = .ok () ↔ (e.eval - x).abs < tolerance := by
  rw [checkRoot, checkAll, check, checkValue]
  by_cases hclose : (e.eval - x).abs < tolerance
  · rw [if_pos hclose]
    exact iff_of_true rfl hclose
  · rw [if_neg hclose]
    exact iff_of_false (by rintro ⟨⟩) hclose

/-- An expression passes the assertion of its own value exactly if the value is finite. If it is an infinity
or no number, the expression passes the assertion of no value. -/
theorem checkRoot_evaluatesTo (e : Expr) :
    (checkRoot e [evaluatesTo e.eval] = .ok () ↔ e.eval.isFinite = true) ∧
    ((∃ x, checkRoot e [evaluatesTo x] = .ok ()) ↔ e.eval.isFinite = true) := by
  have hself : e.eval.isFinite = true → checkRoot e [evaluatesTo e.eval] = .ok () :=
    fun hfinite => checkRoot_evaluatesTo_eq_ok.2 (abs_sub_self_lt hfinite)
  have hfinite : ∀ x, checkRoot e [evaluatesTo x] = .ok () → e.eval.isFinite = true := by
    intro x hok
    cases hvalue : e.eval.isFinite with
    | true => rfl
    | false => exact absurd (checkRoot_evaluatesTo_eq_ok.1 hok) (not_abs_sub_lt hvalue x)
  exact ⟨⟨hfinite _, hself⟩, ⟨fun ⟨x, hok⟩ => hfinite x hok, fun h => ⟨_, hself h⟩⟩⟩

/-- A division by zero has an infinite value, and fails the assertion of this value. -/
theorem checkRoot_evaluatesTo_infinity :
    let e : Expr := .binary .div (.literal 1) (.literal 0)
    e.eval.isNaN = false ∧ checkRoot e [evaluatesTo e.eval] =
      .error "root: Expected (1 / 0) to evaluate to inf, got inf" := by
  intro e
  exact ⟨by decide +kernel, by decide +kernel⟩

end Reckoner.Assertion
