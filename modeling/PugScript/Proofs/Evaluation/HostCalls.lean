import PugScript.Proofs.Evaluation.Coupling

/-!
# What a run asks its host

A script knows its host by the answers alone: two hosts that answer alike, as far as it asks, lead
it to the same end. So any host can be replaced by one that also keeps a log of what it was asked
and what it answered, and a statement about the calls of a run is one about that log.
-/

namespace PugScript

variable {σ τ α : Type}

/-- One use of a host: what it was asked and what it answered. -/
inductive HostCall where
  | print (line : String) (answer : Except String Unit)
  | readLine (answer : Except String String)
  | clear (answer : Except String Unit)
  | randomUnit (answer : Float)
  | randomRange (lower upper answer : Int64)

/-- The same answer, in states that correspond to each other. -/
def AnswersAlike (states : σ → τ → Prop) (answer : α × σ) (other : α × τ) : Prop :=
  answer.1 = other.1 ∧ states answer.2 other.2

theorem AnswersAlike.map
    {β : Type} {states : σ → τ → Prop} {answer : α × σ} {other : α × τ}
    (same : AnswersAlike states answer other) (result : α → β) :
    AnswersAlike states (result answer.1, answer.2) (result other.1, other.2) :=
  ⟨congrArg result same.1, same.2⟩

theorem AnswersAlike.flip
    {states : σ → τ → Prop} {answer : α × σ} {other : α × τ}
    (same : AnswersAlike states answer other) :
    AnswersAlike (fun otherState state => states state otherState) other answer :=
  ⟨same.1.symm, same.2⟩

namespace Host

/-- From states that correspond to each other, the two hosts give the same answers and come to
states that correspond to each other. -/
structure Mimics (host : Host σ) (other : Host τ) (states : σ → τ → Prop) : Prop where
  print : ∀ line state otherState, states state otherState →
    AnswersAlike states (host.print line state) (other.print line otherState)
  readLine : ∀ state otherState, states state otherState →
    AnswersAlike states (host.readLine state) (other.readLine otherState)
  clear : ∀ state otherState, states state otherState →
    AnswersAlike states (host.clear state) (other.clear otherState)
  randomUnit : ∀ state otherState, states state otherState →
    AnswersAlike states (host.randomUnit state) (other.randomUnit otherState)
  randomRange : ∀ lower upper state otherState, states state otherState →
    AnswersAlike states (host.randomRange lower upper state)
      (other.randomRange lower upper otherState)

theorem Mimics.flip
    {host : Host σ} {other : Host τ} {states : σ → τ → Prop} (mimics : host.Mimics other states) :
    other.Mimics host fun otherState state => states state otherState where
  print := fun line _ _ correspond => (mimics.print line _ _ correspond).flip
  readLine := fun _ _ correspond => (mimics.readLine _ _ correspond).flip
  clear := fun _ _ correspond => (mimics.clear _ _ correspond).flip
  randomUnit := fun _ _ correspond => (mimics.randomUnit _ _ correspond).flip
  randomRange := fun lower upper _ _ correspond =>
    (mimics.randomRange lower upper _ _ correspond).flip

/-- The operation, with an entry in the log behind the state. -/
def logged (entry : α → HostCall) (operation : σ → α × σ) (state : σ × List HostCall) :
    α × σ × List HostCall :=
  ((operation state.1).1, (operation state.1).2, state.2 ++ [entry (operation state.1).1])

/-- The host together with a log of its uses, oldest first. -/
def logging (host : Host σ) : Host (σ × List HostCall) where
  print := fun line => logged (.print line) (host.print line)
  readLine := logged .readLine host.readLine
  clear := logged .clear host.clear
  randomUnit := logged .randomUnit host.randomUnit
  randomRange := fun lower upper => logged (.randomRange lower upper) (host.randomRange lower upper)
  written := fun state => host.written state.1

/-- A log changes nothing in what a host does. -/
theorem logging_mimics (host : Host σ) :
    host.Mimics host.logging fun state logged => state = logged.1 where
  print := by
    rintro line _ logged rfl
    exact ⟨rfl, rfl⟩
  readLine := by
    rintro _ logged rfl
    exact ⟨rfl, rfl⟩
  clear := by
    rintro _ logged rfl
    exact ⟨rfl, rfl⟩
  randomUnit := by
    rintro _ logged rfl
    exact ⟨rfl, rfl⟩
  randomRange := by
    rintro lower upper _ logged rfl
    exact ⟨rfl, rfl⟩

/-- A use of the host with a log adds to the log and takes nothing away. -/
theorem logged_extends
    {entry : α → HostCall} {operation : σ → α × σ} {calls : List HostCall}
    {state other : σ × List HostCall} (both : state = other ∧ calls <+: state.2) :
    AnswersAlike (fun state other => state = other ∧ calls <+: state.2)
      (logged entry operation state) (logged entry operation other) := by
  obtain ⟨rfl, extended⟩ := both
  exact ⟨rfl, rfl, extended.trans (List.prefix_append _ _)⟩

/-- Nothing is ever taken out of a log. -/
theorem logging_mimics_itself (host : Host σ) (calls : List HostCall) :
    host.logging.Mimics host.logging fun state other => state = other ∧ calls <+: state.2 where
  print := fun _ _ _ both => logged_extends both
  readLine := fun _ _ both => logged_extends both
  clear := fun _ _ both => logged_extends both
  randomUnit := fun _ _ both => logged_extends both
  randomRange := fun _ _ _ _ both => logged_extends both

end Host

/-! ## Calls of functions -/

namespace Builtin

variable {host : Host σ} {other : Host τ} {states : σ → τ → Prop}
  (mimics : host.Mimics other states) {state : σ} {otherState : τ}
  (correspond : states state otherState)

include mimics correspond

theorem randomNumber_answersAlike (arguments : List Value) :
    AnswersAlike states (randomNumber host arguments state)
      (randomNumber other arguments otherState) := by
  unfold randomNumber
  split
  · exact (mimics.randomUnit _ _ correspond).map fun number => Except.ok (Value.double number)
  · split
    · exact ⟨rfl, correspond⟩
    · split
      · exact ⟨rfl, correspond⟩
      · exact (mimics.randomRange _ _ _ _ correspond).map fun number =>
          Except.ok (Value.double (Decimal.wholeFloat number))
  · split
    · exact ⟨rfl, correspond⟩
    · exact ⟨rfl, correspond⟩
    · split
      · exact ⟨rfl, correspond⟩
      · exact (mimics.randomRange _ _ _ _ correspond).map fun number =>
          Except.ok (Value.double (Decimal.wholeFloat number))

theorem perform_answersAlike (builtin : Builtin) (arguments : List Value) :
    AnswersAlike states (builtin.perform host arguments state)
      (builtin.perform other arguments otherState) := by
  unfold perform
  split
  · exact (mimics.print _ _ _ correspond).map fun answer => (ofHost answer).map fun _ => Value.none
  · exact (mimics.readLine _ _ correspond).map fun answer => ofHost answer >>= Value.checkedString
  · exact (mimics.clear _ _ correspond).map fun answer => (ofHost answer).map fun _ => Value.none
  · exact randomNumber_answersAlike mimics correspond _
  · exact ⟨rfl, correspond⟩

/-- Hosts that answer alike make every function answer alike. -/
theorem invoke_answersAlike (name : String) (arguments : List Value) :
    AnswersAlike states (invoke host name arguments state)
      (invoke other name arguments otherState) := by
  unfold invoke
  split
  · exact ⟨rfl, correspond⟩
  · split
    · exact perform_answersAlike mimics correspond _ arguments
    · exact ⟨rfl, correspond⟩

end Builtin

/-- A call of a function adds to the log, if it does anything to it. -/
theorem Host.calls_isPrefix_of_invoke
    (host : Host σ) (name : String) (arguments : List Value) (state : σ × List HostCall) :
    state.2 <+: (Builtin.invoke host.logging name arguments state).2.2 :=
  (Builtin.invoke_answersAlike (host.logging_mimics_itself state.2) ⟨rfl, List.prefix_rfl⟩ name
    arguments).2.2

/-! ## Evaluations -/

namespace Evaluation

/-- An evaluation comes to the same end with a host that answers alike. -/
theorem exists_evaluate_of_mimics
    {host : Host σ} {other : Host τ} {states : σ → τ → Prop}
    (mimics : host.Mimics other states)
    {fuel : Nat} {preferences : EvaluationPreferences} {tokens : List Token}
    {bindings : VariableTable} {world : σ} {otherWorld : τ} {evaluation : Evaluation σ}
    (evaluated : evaluate fuel host preferences tokens bindings world = some evaluation)
    (correspond : states world otherWorld) :
    ∃ mimicked,
      evaluate fuel other preferences tokens bindings otherWorld = some mimicked ∧
      mimicked.result = evaluation.result ∧
      mimicked.bindings = evaluation.bindings ∧
      states evaluation.world mimicked.world := by
  let coupling := hostCoupling host other preferences tokens states (fun _ => True)
    fun token arguments _ _ _ _ worlds =>
      Builtin.invoke_answersAlike mimics worlds token.text arguments
  have worlds : coupling.worlds world otherWorld := correspond
  have couple := evaluate_couple coupling rfl rfl (fun _ _ => trivial) fuel bindings worlds
  rw [evaluated] at couple
  generalize evaluate fuel other preferences tokens bindings otherWorld = ended at couple ⊢
  cases couple with
  | some same => exact ⟨_, rfl, same.1.symm, same.2.1.symm, same.2.2⟩

/-- The uses that an evaluation makes of its host. -/
def hostCalls? (fuel : Nat) (host : Host σ) (preferences : EvaluationPreferences)
    (tokens : List Token) (bindings : VariableTable) (world : σ) : Option (List HostCall) :=
  (evaluate fuel host.logging preferences tokens bindings (world, [])).map (·.world.2)

section Logs

variable {fuel : Nat} {host : Host σ} {preferences : EvaluationPreferences} {tokens : List Token}
  {bindings : VariableTable} {world : σ}

/-- An evaluation and the same one with a log. -/
theorem exists_evaluate_logging
    {evaluation : Evaluation σ}
    (evaluated : evaluate fuel host preferences tokens bindings world = some evaluation) :
    ∃ logged,
      evaluate fuel host.logging preferences tokens bindings (world, []) = some logged ∧
      logged.result = evaluation.result ∧
      logged.bindings = evaluation.bindings ∧
      logged.world.1 = evaluation.world := by
  have correspond : world = (world, ([] : List HostCall)).1 := rfl
  obtain ⟨logged, evaluatedToo, sameResult, sameBindings, sameWorld⟩ :=
    exists_evaluate_of_mimics host.logging_mimics evaluated correspond
  exact ⟨logged, evaluatedToo, sameResult, sameBindings, sameWorld.symm⟩

/-- An evaluation with a log and the same one without. -/
theorem exists_evaluate_of_logging
    {logged : Evaluation (σ × List HostCall)}
    (evaluated :
      evaluate fuel host.logging preferences tokens bindings (world, []) = some logged) :
    ∃ evaluation,
      evaluate fuel host preferences tokens bindings world = some evaluation ∧
      evaluation.result = logged.result ∧
      evaluation.bindings = logged.bindings ∧
      evaluation.world = logged.world.1 :=
  exists_evaluate_of_mimics host.logging_mimics.flip evaluated rfl

/-- The log behind an evaluation holds the uses that the evaluation makes of the host. -/
theorem hostCalls?_of_logging
    {logged : Evaluation (σ × List HostCall)}
    (evaluated :
      evaluate fuel host.logging preferences tokens bindings (world, []) = some logged) :
    hostCalls? fuel host preferences tokens bindings world = some logged.world.2 := by
  rw [hostCalls?, evaluated]
  rfl

end Logs

end Evaluation

end PugScript
