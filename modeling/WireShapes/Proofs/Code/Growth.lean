import WireShapes.Code.Package
import WireShapes.Proofs.Code.Traversal

/-!
Functions that are written stay written.

* `Grows`: what was written is still there, in its place
* `grows_readerFunction`, `grows_writerFunction`: whatever shape they are for
* `grows_messageFunctions`: the functions for the messages of operations come after those that are there
-/

namespace WireShapes.Code

open Generator

/-- What was written is still there, in its place. -/
def Grows (f f' : Functions) : Prop := f.written <+: f'.written

theorem course_grows : Course Grows where
  refl f := List.prefix_refl f.written
  trans h k := List.IsPrefix.trans h k
  named f _ := List.prefix_refl f.written

theorem grows_request {id : ShapeId} {form : FunctionForm} {name : String} {write : Generator (List Step)}
    (hwrite : Moves Grows write) : Moves Grows (request id form name write) := by
  intro f result f' h
  rcases runs_request h with ⟨-, rfl⟩ | ⟨-, -, code, middle, hrun, rfl⟩
  · exact course_grows.refl _
  · have hmiddle := hwrite _ _ _ hrun
    exact List.IsPrefix.trans hmiddle (List.prefix_append _ _)

theorem grows_emit (id : ShapeId) (form : FunctionForm) (name : String) (code : List Step) :
    Moves Grows (emit id form name code) := by
  intro f u f' h
  rw [runs_emit h]
  exact List.prefix_append _ _

/-! ### Functions for values -/

theorem grows_readerWithin (s : Scope) (depth : Nat) (shape : Shape) :
    Moves Grows (readerWithin s depth shape) := by
  induction depth generalizing shape with
  | zero => exact moves_throw _
  | succ depth ih => exact grows_request (moves_readerCode course_grows (fun target _ => ih target) _ shape)

theorem grows_writerWithin (s : Scope) (depth : Nat) (shape : Shape) :
    Moves Grows (writerWithin s depth shape) := by
  induction depth generalizing shape with
  | zero => exact moves_throw _
  | succ depth ih => exact grows_request (moves_writerCode course_grows (fun target _ => ih target) _ shape)

theorem grows_readerFunction (s : Scope) (shape : Shape) : Moves Grows (readerFunction s shape) :=
  grows_readerWithin s _ shape

theorem grows_writerFunction (s : Scope) (shape : Shape) : Moves Grows (writerFunction s shape) :=
  grows_writerWithin s _ shape

theorem grows_documentReader (s : Scope) (shape : Shape) : Moves Grows (documentReader s shape) := by
  refine grows_request ((grows_readerFunction s shape).bind course_grows fun _ _ => ?_)
  exact (moves_lift course_grows _).bind course_grows fun _ _ => moves_pure course_grows _

theorem grows_bodyReader (s : Scope) (shape : Shape) (members : List Member) :
    Moves Grows (bodyReader s shape members) := by
  have hcalls : Calls s Grows (readerFunction s) := fun target _ => grows_readerFunction s target
  have hloop := moves_memberLoop course_grows hcalls members
  exact grows_request (hloop.bind course_grows fun _ _ => moves_pure course_grows _)

theorem grows_bodyWriter (s : Scope) (shape : Shape) (members : List Member) :
    Moves Grows (bodyWriter s shape members) := by
  have hcalls : Calls s Grows (writerFunction s) := fun target _ => grows_writerFunction s target
  exact grows_request (moves_structureWriter course_grows hcalls _ shape members)

/-! ### Functions for messages -/

namespace Http

open WireShapes.Http (Binding)

variable (s : Scope) (operation container : Shape) (bindings : List Binding)

theorem grows_payloadBytes (target : Shape) : Moves Grows (payloadBytes s target) := by
  unfold payloadBytes
  split
  · exact moves_pure course_grows _
  · exact moves_pure course_grows _
  · exact moves_pure course_grows _
  · exact (grows_writerFunction s target).bind course_grows fun _ _ => moves_pure course_grows _

theorem grows_writeBody (input : String) : Moves Grows (writeBody s container bindings input) := by
  unfold writeBody
  dsimp only
  split
  · split
    · exact moves_pure course_grows _
    · refine (grows_payloadBytes s _).bind course_grows fun _ _ => ?_
      split <;> exact moves_pure course_grows _
  · split
    · exact moves_pure course_grows _
    · exact (grows_bodyWriter s container _).bind course_grows fun _ _ => moves_pure course_grows _

theorem grows_readBody (body : String) : Moves Grows (readBody s container bindings body) := by
  unfold readBody
  dsimp only
  split
  · split
    · exact moves_pure course_grows _
    · split <;> refine Moves.bind course_grows ?_ fun _ _ => moves_pure course_grows _
      · exact moves_pure course_grows _
      · exact moves_pure course_grows _
      · exact moves_pure course_grows _
      · exact grows_documentReader s _
  · split
    · exact moves_pure course_grows _
    · exact (grows_bodyReader s container _).bind course_grows fun _ _ => moves_pure course_grows _

theorem grows_serverRequest : Moves Grows (serverRequest s operation) := by
  have hR := course_grows
  unfold serverRequest
  refine (moves_lift hR _).bind hR fun _ _ => (moves_lift hR _).bind hR fun _ _ => ?_
  refine (moves_lift hR _).bind hR fun _ _ => (moves_lift hR _).bind hR fun _ _ => ?_
  refine (moves_lift hR _).bind hR fun _ _ => (grows_readBody s _ _ _).bind hR fun _ _ => ?_
  exact grows_emit _ _ _ _

theorem grows_writeResponse (input : String) : Moves Grows (writeResponse s container bindings input) := by
  have hR := course_grows
  unfold writeResponse
  refine (moves_lift hR _).bind hR fun _ _ => ?_
  exact (grows_writeBody s container bindings input).bind hR fun _ _ => moves_pure hR _

theorem grows_serverResponse : Moves Grows (serverResponse s operation) := by
  have hR := course_grows
  unfold serverResponse
  refine (moves_lift hR _).bind hR fun _ _ => (moves_lift hR _).bind hR fun _ _ => ?_
  exact (grows_writeResponse s _ _ _).bind hR fun _ _ => grows_emit _ _ _ _

theorem grows_serverError (error : Shape) : Moves Grows (serverError s error) := by
  have hR := course_grows
  unfold serverError
  refine (grows_request ?_).bind hR fun _ _ => moves_pure hR _
  refine (moves_lift hR _).bind hR fun bindings _ => ?_
  dsimp only
  split
  · exact (grows_writeResponse s error bindings _).bind hR fun _ _ => moves_pure hR _
  · refine (moves_lift hR _).bind hR fun _ _ => ?_
    exact moves_pure hR _

theorem grows_operationErrors {α : Type} {each : ShapeId → Generator α} {rest : List α → Generator Unit}
    (heach : ∀ id, Moves Grows (each id)) (hrest : ∀ results, Moves Grows (rest results)) :
    Moves Grows (do
      let errors ← match operation.kind with
        | .operation op => pure op.errors
        | _ => throw (.unsupported operation.id .notOperation)
      let results ← errors.mapM each
      rest results) := by
  have hR := course_grows
  have hall : ∀ errors : List ShapeId, Moves Grows (errors.mapM each >>= rest) := by
    intro errors
    exact (Moves.mapM hR fun id _ => heach id).bind hR fun results _ => hrest results
  dsimp only
  split
  · exact (moves_pure hR _).bind hR fun errors _ => hall errors
  · exact (moves_throw _).bind hR fun errors _ => hall errors

theorem grows_serverErrors : Moves Grows (serverErrors s operation) := by
  have hR := course_grows
  unfold serverErrors
  refine grows_operationErrors operation (fun id => ?_) fun _ => grows_emit _ _ _ _
  refine (moves_lift hR _).bind hR fun shape _ => ?_
  exact (grows_serverError s shape).bind hR fun _ _ => moves_pure hR _

theorem grows_clientRequest : Moves Grows (clientRequest s operation) := by
  have hR := course_grows
  unfold clientRequest
  refine (moves_lift hR _).bind hR fun _ _ => (moves_lift hR _).bind hR fun _ _ => ?_
  refine (moves_lift hR _).bind hR fun _ _ => (moves_lift hR _).bind hR fun _ _ => ?_
  refine (moves_lift hR _).bind hR fun _ _ => (grows_writeBody s _ _ _).bind hR fun _ _ => ?_
  exact grows_emit _ _ _ _

theorem grows_readResponse : Moves Grows (readResponse s container bindings) := by
  have hR := course_grows
  unfold readResponse
  refine (moves_lift hR _).bind hR fun _ _ => ?_
  exact (grows_readBody s container bindings _).bind hR fun _ _ => moves_pure hR _

theorem grows_clientError (error : Shape) : Moves Grows (clientError s error) := by
  have hR := course_grows
  unfold clientError
  refine (grows_request ?_).bind hR fun _ _ => moves_pure hR _
  refine (moves_lift hR _).bind hR fun bindings _ => ?_
  exact (grows_readResponse s error bindings).bind hR fun _ _ => moves_pure hR _

theorem grows_clientResponse : Moves Grows (clientResponse s operation) := by
  have hR := course_grows
  unfold clientResponse
  refine (moves_lift hR _).bind hR fun _ _ => (moves_lift hR _).bind hR fun _ _ => ?_
  refine (grows_readResponse s _ _).bind hR fun _ _ => ?_
  refine grows_operationErrors operation (fun id => ?_) fun _ => grows_emit _ _ _ _
  refine (moves_lift hR _).bind hR fun shape _ => ?_
  exact (grows_clientError s shape).bind hR fun _ _ => moves_pure hR _

end Http

/-- **The functions for the messages of operations come after those that are there.** -/
theorem grows_messageFunctions (s : Scope) : Moves Grows s.messageFunctions := by
  have hR := course_grows
  unfold Scope.messageFunctions
  refine (moves_lift hR _).bind hR fun operations _ => Moves.forM hR fun operation _ => ?_
  split
  · refine (Http.grows_serverRequest s operation).bind hR fun _ _ => ?_
    refine (Http.grows_serverResponse s operation).bind hR fun _ _ => ?_
    exact Http.grows_serverErrors s operation
  · refine (Http.grows_clientRequest s operation).bind hR fun _ _ => ?_
    exact Http.grows_clientResponse s operation

end WireShapes.Code
