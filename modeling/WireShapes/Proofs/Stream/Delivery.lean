import WireShapes.Stream.Channel

/-!
What a receiver delivers, in whatever order messages are pushed in and taken out.

* `Received.ofOutcome`: what is delivered for a message
* `untilFailure`: deliveries up to the first failure, which is one of them
* `Call`, `run`, `results`, `pushed`: calls in a row, what taking gives and what is pushed
* `Progress`: what is delivered and what waits are the messages that were pushed, and the stream has
  ended if a failure was delivered
* `Progress.push`, `Progress.receive`: no call breaks it; `progress_run`: nor do calls in a row
* `receiver_delivers`: every message is delivered once, in order, up to the first failure
-/

namespace WireShapes.Stream

variable {ε φ : Type}

namespace Received

/-- What is delivered for a message that turns out to be this. -/
def ofOutcome : Except StreamFault (Outcome ε φ) → Received ε φ
  | .ok (.event e) => .event e
  | .ok (.failure f) => .modeled f
  | .error fault => .stream fault

/-- The stream ends with it. -/
def isFailure : Received ε φ → Bool
  | modeled _ => true
  | stream _ => true
  | _ => false

def isNothing : Received ε φ → Bool
  | nothing => true
  | _ => false

theorem isNothing_ofOutcome (o : Except StreamFault (Outcome ε φ)) : (ofOutcome o).isNothing = false := by
  rcases o with fault | ⟨e⟩ | ⟨f⟩ <;> rfl

end Received

/-! ### Deliveries -/

/-- What is delivered among the results of taking. -/
def delivered (xs : List (Received ε φ)) : List (Received ε φ) := xs.filter fun x => !x.isNothing

/-- Deliveries up to the first failure, which is one of them. -/
def untilFailure : List (Received ε φ) → List (Received ε φ)
  | [] => []
  | x :: rest => if x.isFailure then [x] else x :: untilFailure rest

theorem delivered_append (xs ys : List (Received ε φ)) :
    delivered (xs ++ ys) = delivered xs ++ delivered ys :=
  List.filter_append ..

/-- What comes after a failure does not count. -/
theorem untilFailure_append (xs ys : List (Received ε φ)) :
    untilFailure (xs ++ ys) =
      if xs.any Received.isFailure then untilFailure xs else xs ++ untilFailure ys := by
  induction xs with
  | nil => rfl
  | cons x xs ih =>
    rw [List.cons_append, untilFailure, untilFailure, ih, List.any_cons]
    cases x.isFailure with
    | true => rfl
    | false =>
      cases xs.any Received.isFailure with
      | true => rfl
      | false => rfl

theorem any_isFailure_delivered (xs : List (Received ε φ)) :
    (delivered xs).any Received.isFailure = xs.any Received.isFailure := by
  induction xs with
  | nil => rfl
  | cons x xs ih => cases x <;> simp_all [delivered, Received.isNothing, Received.isFailure]

/-! ### Calls -/

namespace Receiver

/-- What is done with a receiver. -/
inductive Call
  | push (m : Message)
  | receive
deriving DecidableEq, Repr

def Call.message? : Call → Option Message
  | push m => some m
  | receive => none

/-- The messages that are pushed, in order. -/
def pushed (calls : List Call) : List Message := calls.filterMap Call.message?

variable (unmarshall : Message → Except StreamFault (Outcome ε φ))

/-- What taking gives in a row of calls, and the receiver after them. -/
def run : Receiver → List Call → List (Received ε φ) × Receiver
  | r, [] => ([], r)
  | r, .push m :: calls => run (r.push m) calls
  | r, .receive :: calls =>
    let (x, next) := r.receive unmarshall
    let (xs, last) := run next calls
    (x :: xs, last)

/-- What taking gives in a row of calls of a new receiver. -/
def results (calls : List Call) : List (Received ε φ) := (run unmarshall empty calls).1

variable {unmarshall}

theorem run_append (r : Receiver) (calls more : List Call) :
    run unmarshall r (calls ++ more) =
      ((run unmarshall r calls).1 ++ (run unmarshall (run unmarshall r calls).2 more).1,
        (run unmarshall (run unmarshall r calls).2 more).2) := by
  induction calls generalizing r with
  | nil => rfl
  | cons call calls ih =>
    cases call with
    | push m => exact ih _
    | receive => simp only [List.cons_append, run, ih]

theorem pushed_append (calls more : List Call) : pushed (calls ++ more) = pushed calls ++ pushed more :=
  List.filterMap_append ..

theorem pushed_replicate (k : Nat) : pushed (List.replicate k .receive) = [] := by
  induction k with
  | zero => rfl
  | succ k ih => exact ih

/-- The receiver has nothing to give. -/
def Spent (r : Receiver) : Prop := r.ended = true ∨ r.waiting = []

/-- A receiver that has nothing to give stays as it is; any other delivers the first message that
waits. -/
theorem receive_cases (unmarshall : Message → Except StreamFault (Outcome ε φ)) (r : Receiver) :
    (r.Spent ∧ r.receive unmarshall = (.nothing, r)) ∨
      ∃ m rest, r.ended = false ∧ r.waiting = m :: rest ∧
        r.receive unmarshall = (.ofOutcome (unmarshall m),
          ⟨rest, (Received.ofOutcome (unmarshall m)).isFailure⟩) := by
  obtain ⟨waiting, ended⟩ := r
  cases ended with
  | true => exact .inl ⟨.inl rfl, rfl⟩
  | false =>
    cases waiting with
    | nil => exact .inl ⟨.inr rfl, rfl⟩
    | cons m rest =>
      refine .inr ⟨m, rest, rfl, rfl, ?_⟩
      simp only [receive, Bool.false_eq_true, if_false]
      rcases unmarshall m with fault | ⟨e⟩ | ⟨f⟩ <;> rfl

/-! ### What calls keep -/

/-- What is delivered for messages. -/
def deliveries (unmarshall : Message → Except StreamFault (Outcome ε φ)) (ms : List Message) :
    List (Received ε φ) :=
  ms.map fun m => .ofOutcome (unmarshall m)

/-- After `sent` has been pushed and taking has given `xs`: what has been delivered and what waits are
the messages that were pushed, the stream has ended if a failure was among the deliveries, and there is
none after a failure. -/
structure Progress (unmarshall : Message → Except StreamFault (Outcome ε φ)) (sent : List Message)
    (xs : List (Received ε φ)) (r : Receiver) : Prop where
  conserves : deliveries unmarshall sent = delivered xs ++ deliveries unmarshall r.waiting
  ended : r.ended = xs.any Received.isFailure
  stops : untilFailure (delivered xs) = delivered xs

theorem progress_empty : Progress unmarshall [] [] empty := ⟨rfl, rfl, rfl⟩

theorem Progress.push {sent : List Message} {xs : List (Received ε φ)} {r : Receiver}
    (h : Progress unmarshall sent xs r) (m : Message) :
    Progress unmarshall (sent ++ [m]) xs (r.push m) where
  conserves := by
    have hwaiting : (r.push m).waiting = r.waiting ++ [m] := rfl
    have hsent := h.conserves
    unfold deliveries at hsent ⊢
    rw [hwaiting, List.map_append, List.map_append, hsent, List.append_assoc]
  ended := h.ended
  stops := h.stops

theorem Progress.receive {sent : List Message} {xs : List (Received ε φ)} {r : Receiver}
    (h : Progress unmarshall sent xs r) :
    Progress unmarshall sent (xs ++ [(r.receive unmarshall).1]) (r.receive unmarshall).2 := by
  rcases receive_cases unmarshall r with ⟨-, hx⟩ | ⟨m, rest, hended, hwaiting, hx⟩
  · rw [hx]
    have hsame : delivered (xs ++ [.nothing]) = delivered xs := by
      rw [delivered_append]
      exact List.append_nil _
    exact ⟨by rw [hsame]; exact h.conserves, by simpa [Received.isFailure] using h.ended,
      by rw [hsame]; exact h.stops⟩
  · rw [hx]
    have hno : xs.any Received.isFailure = false := h.ended.symm.trans hended
    have hone : delivered (xs ++ [.ofOutcome (unmarshall m)]) =
        delivered xs ++ [.ofOutcome (unmarshall m)] := by
      rw [delivered_append]
      simp [delivered, Received.isNothing_ofOutcome]
    refine ⟨?_, by simp [hno], ?_⟩
    · rw [hone, List.append_assoc, h.conserves, hwaiting]
      rfl
    · rw [hone, untilFailure_append, any_isFailure_delivered, hno]
      simp [untilFailure]

/-- **No row of calls breaks the progress of a receiver.** -/
theorem progress_run {sent : List Message} {xs : List (Received ε φ)} {r : Receiver}
    (h : Progress unmarshall sent xs r) (calls : List Call) :
    Progress unmarshall (sent ++ pushed calls) (xs ++ (run unmarshall r calls).1)
      (run unmarshall r calls).2 := by
  induction calls generalizing sent xs r with
  | nil => simpa [pushed, run] using h
  | cons call calls ih =>
    cases call with
    | push m =>
      have hrest := ih (h.push m)
      rwa [List.append_assoc] at hrest
    | receive =>
      have hrest := ih h.receive
      rwa [List.append_assoc] at hrest

theorem progress_results (unmarshall : Message → Except StreamFault (Outcome ε φ)) (calls : List Call) :
    Progress unmarshall (pushed calls) (results unmarshall calls) (run unmarshall empty calls).2 := by
  exact progress_run progress_empty calls

/-- What is delivered comes in order, and ends with the first failure. -/
theorem Progress.prefix_untilFailure {sent : List Message} {xs : List (Received ε φ)} {r : Receiver}
    (h : Progress unmarshall sent xs r) : delivered xs <+: untilFailure (deliveries unmarshall sent) := by
  rw [h.conserves, untilFailure_append]
  split
  · exact ⟨[], by rw [List.append_nil, h.stops]⟩
  · exact List.prefix_append ..

/-- Once there is nothing to give, all is delivered that will ever be. -/
theorem Progress.delivered_of_spent {sent : List Message} {xs : List (Received ε φ)} {r : Receiver}
    (h : Progress unmarshall sent xs r) (hend : r.Spent) :
    delivered xs = untilFailure (deliveries unmarshall sent) := by
  rw [h.conserves, untilFailure_append, any_isFailure_delivered, ← h.ended]
  split
  · exact h.stops.symm
  · next hended =>
    rcases hend with hend | hend
    · exact absurd hend hended
    · simp [hend, deliveries, untilFailure]

/-- Before a failure, nothing is given only if all is delivered. -/
theorem Progress.delivered_of_nothing {sent : List Message} {xs : List (Received ε φ)} {r : Receiver}
    (h : Progress unmarshall sent xs r) (hno : xs.any Received.isFailure = false)
    (hx : (r.receive unmarshall).1 = .nothing) : delivered xs = deliveries unmarshall sent := by
  rcases receive_cases unmarshall r with ⟨hend | hend, -⟩ | ⟨m, rest, -, -, hm⟩
  · rw [h.ended, hno] at hend
    cases hend
  · rw [h.conserves, hend]
    exact (List.append_nil _).symm
  · have hsome := Received.isNothing_ofOutcome (unmarshall m)
    have hnone : Received.ofOutcome (unmarshall m) = .nothing := by simpa [hm] using hx
    rw [hnone] at hsome
    cases hsome

theorem Progress.nothing_of_failure {sent : List Message} {xs : List (Received ε φ)} {r : Receiver}
    (h : Progress unmarshall sent xs r) (hfailure : xs.any Received.isFailure = true) :
    (r.receive unmarshall).1 = .nothing := by
  rw [Receiver.receive, if_pos (h.ended.trans hfailure)]

theorem Progress.length_waiting_le {sent : List Message} {xs : List (Received ε φ)} {r : Receiver}
    (h : Progress unmarshall sent xs r) : r.waiting.length ≤ sent.length := by
  have hlength := congrArg List.length h.conserves
  simp only [deliveries, List.length_map, List.length_append] at hlength
  omega

/-! ### Taking all that waits -/

theorem run_of_spent {r : Receiver} (h : r.Spent) (k : Nat) :
    (run unmarshall r (List.replicate k .receive)).2 = r := by
  induction k with
  | zero => rfl
  | succ k ih =>
    rcases receive_cases unmarshall r with ⟨-, hx⟩ | ⟨m, rest, hended, hwaiting, -⟩
    · simp only [List.replicate_succ, run, hx]
      exact ih
    · rcases h with h | h
      · rw [hended] at h; cases h
      · rw [hwaiting] at h; cases h

theorem spent_of_receives {r : Receiver} {k : Nat} (h : r.waiting.length ≤ k) :
    (run unmarshall r (List.replicate k .receive)).2.Spent := by
  induction k generalizing r with
  | zero => exact .inr (List.eq_nil_of_length_eq_zero (Nat.le_zero.1 h))
  | succ k ih =>
    rcases receive_cases unmarshall r with ⟨hend, -⟩ | ⟨m, rest, -, hwaiting, hx⟩
    · rw [run_of_spent hend]
      exact hend
    · simp only [List.replicate_succ, run, hx]
      refine ih ?_
      rw [hwaiting, List.length_cons] at h
      exact Nat.le_of_succ_le_succ h

/-! ### All calls -/

/-- The result of a take stands among the results of all calls, after those of the calls before it. -/
theorem results_receive (unmarshall : Message → Except StreamFault (Outcome ε φ))
    (before after : List Call) : ∃ later, results unmarshall (before ++ .receive :: after) =
      results unmarshall before ++ ((run unmarshall empty before).2.receive unmarshall).1 :: later := by
  rw [results, run_append]
  exact ⟨_, rfl⟩

/-- **A receiver delivers every message once, in order, up to the first failure**, however pushes and
takes come after each other:

* what is delivered is what the messages that were pushed turn out to be, in the order in which they were
  pushed, as far as it goes and never beyond the first failure;
* before a failure a take gives nothing only if all that was pushed so far has been delivered;
* after a failure every take gives nothing, whatever is pushed;
* enough takes deliver all of it. -/
theorem receiver_delivers (unmarshall : Message → Except StreamFault (Outcome ε φ)) (calls : List Call) :
    delivered (results unmarshall calls) <+: untilFailure (deliveries unmarshall (pushed calls)) ∧
    (∀ before after, calls = before ++ .receive :: after →
      ∃ x later, results unmarshall calls = results unmarshall before ++ x :: later ∧
        (x = .nothing → (results unmarshall before).any Received.isFailure = false →
          delivered (results unmarshall before) = deliveries unmarshall (pushed before)) ∧
        ((results unmarshall before).any Received.isFailure = true → x = .nothing)) ∧
    ∀ k, (pushed calls).length ≤ k →
      delivered (results unmarshall (calls ++ List.replicate k .receive)) =
        untilFailure (deliveries unmarshall (pushed calls)) := by
  refine ⟨(progress_results unmarshall calls).prefix_untilFailure, fun before after hcalls => ?_,
    fun k hk => ?_⟩
  · obtain ⟨later, hlater⟩ := results_receive unmarshall before after
    have hbefore := progress_results unmarshall before
    exact ⟨_, later, hcalls ▸ hlater, fun hnothing hno => hbefore.delivered_of_nothing hno hnothing,
      hbefore.nothing_of_failure⟩
  · have hcalls := progress_results unmarshall calls
    have hall := progress_results unmarshall (calls ++ List.replicate k .receive)
    rw [pushed_append, pushed_replicate, List.append_nil] at hall
    refine hall.delivered_of_spent ?_
    rw [run_append]
    exact spent_of_receives (Nat.le_trans hcalls.length_waiting_le hk)

/-- Payloads as events; a message without one is refused. -/
def payloadEvent (m : Message) : Except StreamFault (Outcome (List UInt8) Unit) :=
  if m.payload.isEmpty then .error (.unmarshalling "no payload") else .ok (.event m.payload)

/-- A take too early, two messages of which the second is refused, and one that comes too late. -/
def mixedCalls : List Call :=
  [.receive, .push ⟨[], [1]⟩, .push ⟨[], []⟩, .receive, .receive, .push ⟨[], [2]⟩, .receive]

theorem mixedCalls_delivered :
    results payloadEvent mixedCalls =
      [.nothing, .event [1], .stream (.unmarshalling "no payload"), .nothing] ∧
    (results payloadEvent mixedCalls.dropLast).any Received.isFailure = true ∧
    delivered (results payloadEvent mixedCalls) <+:
      untilFailure (deliveries payloadEvent (pushed mixedCalls)) ∧
    delivered (results payloadEvent (mixedCalls ++ List.replicate 3 .receive)) =
      [.event [1], .stream (.unmarshalling "no payload")] :=
  ⟨by decide, by decide, (receiver_delivers payloadEvent mixedCalls).1,
    (receiver_delivers payloadEvent mixedCalls).2.2 3 (by decide)⟩

end Receiver

end WireShapes.Stream
