import PugScript.Host.Memory
import PugScript.Proofs.Evaluation.Pairing
import PugScript.Proofs.Evaluation.Passing
import PugScript.Proofs.Lexing.Joining
import PugScript.Proofs.Run.Stages
import PugScript.Session

/-!
# Lines of a session and the joined source

Lines that are answered one by one in a session do what the source does that joins them with line
ends. The tokens of the source are those of the lines, and between two lines nothing is kept but
the variables and the host; an expression looks at one token behind its end, and a line that starts
afresh does not change what it finds there.
-/

namespace PugScript

open Evaluation Pairing

variable {σ : Type}

/-! ## A run as a run of statements -/

/-- What a run of statements over the given tokens results in. -/
def Evaluation.Progress.result (progress : Progress σ) (tokens : List Token) :
    Except RunError RunResult :=
  match progress.failure? with
  | none => .ok { tokens, values := presentValues progress.values }
  | some failure =>
    .error <| .evaluation
      { fault := failure.fault
        token := failure.token
        tokens
        bindings := progress.machine.bindings
        values := progress.values }

/-- The run ended as its statements did. -/
structure Run.EndsAs (run : Run σ) (tokens : List Token) (progress : Progress σ) : Prop where
  bindings : run.bindings = progress.machine.bindings
  world : run.world = progress.machine.world
  result : run.result = progress.result tokens

theorem Run.EndsAs.congr
    {run : Run σ} {tokens : List Token} {progress other : Progress σ}
    (ends : run.EndsAs tokens progress) (values : other.values = progress.values)
    (failure : other.failure? = progress.failure?)
    (states : SameState progress.machine other.machine) :
    run.EndsAs tokens other := by
  refine ⟨ends.bindings.trans states.bindings, ends.world.trans states.world, ?_⟩
  rw [ends.result, Progress.result, Progress.result, values, failure, states.bindings]

/-- The tokens of a source that can be split, with the mark at its end. -/
def closedTokens (detailed : Bool) (source : String) : List Token :=
  sourceTokens detailed source ++ [Token.endOfInput source.length]

theorem Run.Reports.endsAs
    {run : Run σ} {tokens : List Token} {progress : Progress σ}
    (reports : run.Reports tokens (ofProgress tokens progress)) :
    run.EndsAs tokens progress := by
  refine ⟨reports.bindings, reports.world, reports.result.trans ?_⟩
  rcases progress with ⟨values, failure?, machine⟩
  cases failure? with
  | none => rfl
  | some failure => rfl

/-- The context in which the tokens of a source are evaluated. -/
def sourceContext (settings : Settings) (host : Host σ) (source : String) : Context σ :=
  contextOf host settings.evaluation
    (closedTokens settings.lexical.collectDetailedMetrics source)

/-- The machine in front of the tokens of a source. -/
def sourceMachine (settings : Settings) (source : String) (bindings : VariableTable) (world : σ) :
    Machine σ :=
  initialMachine (closedTokens settings.lexical.collectDetailedMetrics source) bindings world

section Runs

variable {settings : Settings} {source : String}
  (splits : Splits settings.lexical.collectDetailedMetrics source)
include splits

/-- A run of a source that splits is a run of its statements. -/
theorem exists_progress_of_runSource
    {fuel : Nat} {elapsed : String} {host : Host σ} {bindings : VariableTable} {world : σ}
    {run : Run σ} (ran : runSource fuel elapsed settings host source bindings world = some run) :
    ∃ progress,
      statements (sourceContext settings host source) settings.evaluation.traceStatements fuel []
        (sourceMachine settings source bindings world) = some progress ∧
      run.EndsAs (closedTokens settings.lexical.collectDetailedMetrics source) progress := by
  obtain ⟨evaluation, evaluated, reports⟩ :=
    exists_evaluate_of_runSource fuel elapsed host bindings world splits.tokenize_eq ran
  obtain ⟨progress, reached, rfl⟩ := Option.map_eq_some_iff.mp evaluated
  exact ⟨progress, reached, reports.endsAs⟩

/-- A run of the statements of a source is a run of the source. -/
theorem exists_run_of_statements
    {fuel : Nat} (elapsed : String) {host : Host σ} {bindings : VariableTable} {world : σ}
    {progress : Progress σ}
    (reached :
      statements (sourceContext settings host source) settings.evaluation.traceStatements fuel []
        (sourceMachine settings source bindings world) = some progress) :
    ∃ run,
      runSource fuel elapsed settings host source bindings world = some run ∧
      run.EndsAs (closedTokens settings.lexical.collectDetailedMetrics source) progress := by
  let tokens := closedTokens settings.lexical.collectDetailedMetrics source
  have evaluated : evaluate fuel host settings.evaluation tokens bindings world =
      some (ofProgress tokens progress) :=
    Option.map_eq_some_iff.mpr ⟨progress, reached, rfl⟩
  obtain ⟨run, ran, reports⟩ :=
    exists_runSource_of_evaluate fuel elapsed host bindings world splits.tokenize_eq evaluated
  exact ⟨run, ran, reports.endsAs⟩

end Runs

/-- A successful statement comes back to the depth it started at. -/
theorem statements_depth
    {context : Context σ} (closed : context.IsClosed) {trace : Bool} {fuel : Nat}
    {values : List Value} {machine : Machine σ} {progress : Progress σ}
    (reached : statements context trace fuel values machine = some progress)
    (successful : progress.failure? = none) :
    progress.machine.depth = machine.depth := by
  induction fuel generalizing values machine with
  | zero => cases reached
  | succ fuel inductionHypothesis =>
      rcases statements_cases reached with
        ⟨_, rfl⟩ | ⟨_, ⟨failure, finish, _, rfl⟩ | ⟨value, finish, done, reached⟩⟩
      · rfl
      · cases successful
      · have passed := expression_passesInert closed fuel _ _ _ done
        have traced : (afterStatement context trace value finish).depth = finish.depth := by
          cases trace <;> rfl
        exact (inductionHypothesis reached).trans (traced.trans passed.depth_eq)

/-! ## Lines in a session -/

namespace Session

/-- A line that is neither empty nor a command. -/
structure IsSource (line : String) : Prop where
  notEmpty : line ≠ ""
  notQuit : Text.sameIgnoringAsciiCase (Text.trim line) "/quit" = false
  notClear : Text.sameIgnoringAsciiCase (Text.trim line) "/cls" = false
  notToggle : Text.sameIgnoringAsciiCase (Text.trim line) ":t" = false

theorem IsSource.request_eq {line : String} (isSource : IsSource line) :
    Request.ofLine line = .run line := by
  have notEmpty : line.isEmpty = false := by
    simpa using isSource.notEmpty
  simp [Request.ofLine, notEmpty, isSource.notQuit, isSource.notClear, isSource.notToggle]

/-- Answering a line is running it as a source. -/
theorem IsSource.handleLine_eq
    {line : String} (isSource : IsSource line)
    (fuel : Nat) (elapsed : String) (host : Host σ) (session : Session) (world : σ) :
    session.handleLine fuel elapsed host line world =
      (runSource fuel elapsed session.settings host line session.bindings world).map
        session.stepOfRun := by
  unfold handleLine
  rw [isSource.request_eq]

theorem exists_progress_of_handleLine
    {elapsed : String} {host : Host σ} {session : Session} {world : σ} {line : String}
    {fuel : Nat} {step : Step σ}
    (handled : session.handleLine fuel elapsed host line world = some step)
    (isSource : IsSource line)
    (splits : Splits session.settings.lexical.collectDetailedMetrics line) :
    ∃ progress run,
      statements (sourceContext session.settings host line)
        session.settings.evaluation.traceStatements fuel []
        (sourceMachine session.settings line session.bindings world) = some progress ∧
      run.EndsAs (closedTokens session.settings.lexical.collectDetailedMetrics line) progress ∧
      step = session.stepOfRun run := by
  rw [isSource.handleLine_eq, Option.map_eq_some_iff] at handled
  obtain ⟨run, ran, rfl⟩ := handled
  obtain ⟨progress, reached, ends⟩ := exists_progress_of_runSource splits ran
  exact ⟨progress, run, reached, ends, rfl⟩

theorem exists_step_of_statements
    (elapsed : String) {host : Host σ} {session : Session} {world : σ} {line : String}
    (isSource : IsSource line)
    (splits : Splits session.settings.lexical.collectDetailedMetrics line)
    {fuel : Nat} {progress : Progress σ}
    (reached :
      statements (sourceContext session.settings host line)
        session.settings.evaluation.traceStatements fuel []
        (sourceMachine session.settings line session.bindings world) = some progress) :
    ∃ run,
      session.handleLine fuel elapsed host line world = some (session.stepOfRun run) ∧
      run.EndsAs (closedTokens session.settings.lexical.collectDetailedMetrics line) progress := by
  obtain ⟨run, ran, ends⟩ := exists_run_of_statements splits elapsed reached
  refine ⟨run, ?_, ends⟩
  rw [isSource.handleLine_eq, ran]
  rfl

/-- The reply brings values. -/
def Reply.IsEvaluated : Reply → Prop
  | evaluated _ _ => True
  | _ => False

def Reply.values : Reply → List Value
  | evaluated result _ => result.values
  | _ => []

/-- Lines are answered one after another, each with fuel enough, and lead from a session and a
host to others. -/
inductive Conversation (elapsed : String) (host : Host σ) :
    Session → σ → List String → List Reply → Session → σ → Prop
  | nil (session : Session) (world : σ) :
      Conversation elapsed host session world [] [] session world
  | cons {session session' : Session} {world world' : σ} {line : String} {lines : List String}
      {replies : List Reply} {fuel : Nat} {step : Step σ} :
      session.handleLine fuel elapsed host line world = some step →
      Conversation elapsed host step.session step.world lines replies session' world' →
      Conversation elapsed host session world (line :: lines) (step.reply :: replies) session'
        world'

end Session

/-! ## A line among others -/

/-- The machine stands in front of the given tokens between two statements. -/
structure Machine.Rests (machine : Machine σ) (tokens : List Token) (bindings : VariableTable)
    (world : σ) : Prop where
  remaining : machine.remaining = tokens
  bindings : machine.bindings = bindings
  world : machine.world = world
  depth : machine.depth = 0

/-- The fault a distance further on in a source. -/
def EvaluationFault.shift (distance : Nat) : EvaluationFault → EvaluationFault
  | unexpectedPrimary kind offset => unexpectedPrimary kind (offset + distance)
  | fault => fault

/-- A context in which sources are evaluated with the given settings and host. -/
structure Context.Suits (context : Context σ) (settings : Settings) (host : Host σ) : Prop where
  closed : context.IsClosed
  host_eq : host = context.host
  loopLimit_eq : settings.evaluation.maxLoopIterations = context.loopLimit

theorem sourceContext_suits (settings : Settings) (host : Host σ) (source : String) :
    (sourceContext settings host source).Suits settings host :=
  ⟨contextOf_isClosed host _ _, rfl, rfl⟩

/-- A line alone on the left, and on the right the line at an offset with more tokens behind. -/
def linePairing
    {settings : Settings} {host : Host σ} (line : String) {context : Context σ}
    (suits : context.Suits settings host) (offset : Nat) {rest : List Token}
    (fresh : ¬ (context.front rest).kind.ContinuesExpression) :
    Pairing σ where
  left := sourceContext settings host line
  right := context
  same token other := token.kind ≠ .endOfInput ∧ other = token.shift offset
  overhang tokens others := tokens = [Token.endOfInput line.length] ∧ others = rest
  leftClosed := (sourceContext_suits settings host line).closed
  host_eq := suits.host_eq
  loopLimit_eq := suits.loopLimit_eq
  kind_eq := fun _ _ same => (congrArg Token.kind same.2).symm
  text_eq := fun _ _ same => (congrArg Token.text same.2).symm
  overhang_left := fun _ _ overhangs => overhangs.1 ▸ rfl
  overhang_right := fun _ _ overhangs => overhangs.2 ▸ fresh

/-- At the end of the line the right run is in front of what follows the line. -/
theorem linePairing_rest
    {settings : Settings} {host : Host σ} {line : String} {context : Context σ}
    {suits : context.Suits settings host} {offset : Nat} {rest : List Token}
    {fresh : ¬ (context.front rest).kind.ContinuesExpression} {tokens others : List Token}
    (facing : (linePairing line suits offset fresh).Facing tokens others)
    (isEnd : ((sourceContext settings host line).front tokens).kind = .endOfInput) :
    others = rest := by
  cases facing with
  | token same _ => exact absurd isEnd same.1
  | finish marks => exact absurd (linePairing line suits offset fresh).leftClosed marks.1
  | edge overhangs => exact overhangs.2

/-- A line that was evaluated alone does the same in front of other tokens. -/
theorem line_passes
    {settings : Settings} {host : Host σ} {line : String}
    (splits : Splits settings.lexical.collectDetailedMetrics line)
    {bindings : VariableTable} {world : σ} {fuel : Nat} {progress : Progress σ}
    (reached :
      statements (sourceContext settings host line) settings.evaluation.traceStatements fuel []
        (sourceMachine settings line bindings world) = some progress)
    (successful : progress.failure? = none)
    {context : Context σ} (suits : context.Suits settings host) (offset : Nat)
    {rest : List Token} (fresh : ¬ (context.front rest).kind.ContinuesExpression)
    (trace : Bool) (more : Nat) (before : List Value) {machine : Machine σ}
    (rests : machine.Rests
      ((sourceTokens settings.lexical.collectDetailedMetrics line).map (Token.shift offset) ++
        rest) bindings world) :
    ∃ left reached',
      Machine.Rests reached' rest progress.machine.bindings progress.machine.world ∧
      statements context trace (fuel + more) before machine =
        statements context trace (left + more) (progress.values.reverse ++ before) reached' := by
  have alike : (linePairing line suits offset fresh).Alike
      (sourceMachine settings line bindings world) machine := by
    refine ⟨⟨rests.bindings.symm, rests.world.symm, rests.depth.symm⟩, ?_⟩
    rw [rests.remaining]
    exact Facing.map_append
      (fun token member => ⟨splits.kind_ne_endOfInput member, rfl⟩) (.edge ⟨rfl, rfl⟩)
  obtain ⟨values, left, reached', valuesEq, isEnd, alikeReached, followed⟩ :=
    statements_pass _ trace more [] before alike reached successful
  have depth := statements_depth (sourceContext_suits settings host line).closed reached successful
  refine ⟨left, reached', ⟨?_, ?_, ?_, ?_⟩, ?_⟩
  · exact linePairing_rest alikeReached.facing isEnd
  · exact alikeReached.bindings.symm
  · exact alikeReached.world.symm
  · exact alikeReached.depth.symm.trans depth
  · rw [valuesEq]
    exact followed

namespace Session

/-- No token that could continue an expression stands in front of the line. -/
def StartsAfresh (detailed : Bool) (line : String) : Prop :=
  ∀ token, (sourceTokens detailed line).head? = some token → ¬ token.kind.ContinuesExpression

/-- If every line starts afresh, so do the joined lines, whatever fresh token follows them. -/
theorem front_joinedTokens_fresh
    {context : Context σ} {detailed : Bool} {rest : List Token}
    (fresh : ¬ (context.front rest).kind.ContinuesExpression)
    {lines : List String} (linesFresh : ∀ line ∈ lines, StartsAfresh detailed line)
    (offset : Nat) :
    ¬ (context.front (joinedTokens detailed offset lines ++ rest)).kind.ContinuesExpression := by
  induction lines generalizing offset with
  | nil => exact fresh
  | cons line lines inductionHypothesis =>
      have others := inductionHypothesis
        (fun other member => linesFresh other (List.mem_cons_of_mem _ member))
        (offset + line.length + 1)
      have first := linesFresh line List.mem_cons_self
      unfold StartsAfresh at first
      rw [joinedTokens]
      cases tokens : sourceTokens detailed line with
      | nil => exact others
      | cons token following =>
          rw [tokens] at first
          exact first token rfl

/-- What a line that was evaluated did. -/
theorem exists_progress_of_evaluated
    {elapsed : String} {host : Host σ} {session : Session} {world : σ} {line : String}
    {fuel : Nat} {step : Step σ}
    (handled : session.handleLine fuel elapsed host line world = some step)
    (isSource : IsSource line)
    (splits : Splits session.settings.lexical.collectDetailedMetrics line)
    (evaluated : step.reply.IsEvaluated) :
    ∃ progress,
      statements (sourceContext session.settings host line)
        session.settings.evaluation.traceStatements fuel []
        (sourceMachine session.settings line session.bindings world) = some progress ∧
      progress.failure? = none ∧
      step.session = { session with bindings := progress.machine.bindings } ∧
      step.world = progress.machine.world ∧
      step.reply.values = presentValues progress.values := by
  obtain ⟨progress, run, reached, ends, rfl⟩ :=
    exists_progress_of_handleLine handled isSource splits
  refine ⟨progress, reached, ?_⟩
  simp only [stepOfRun, ends.bindings, ends.world, ends.result, Progress.result] at evaluated ⊢
  cases failure : progress.failure? with
  | none => exact ⟨rfl, trivial, trivial, rfl⟩
  | some failure' =>
      rw [failure] at evaluated
      exact evaluated.elim

theorem presentValues_append (first second : List Value) :
    presentValues (first ++ second) = presentValues first ++ presentValues second :=
  List.filter_append first second

/-- Lines that are all evaluated do the same in front of other tokens. -/
theorem lines_pass
    {elapsed : String} {host : Host σ} {session session' : Session} {world world' : σ}
    {lines : List String} {replies : List Reply}
    (conversation : Conversation elapsed host session world lines replies session' world')
    (evaluated : ∀ reply ∈ replies, reply.IsEvaluated)
    (sources : ∀ line ∈ lines, IsSource line)
    (splits : ∀ line ∈ lines, Splits session.settings.lexical.collectDetailedMetrics line)
    (linesFresh : ∀ line ∈ lines,
      StartsAfresh session.settings.lexical.collectDetailedMetrics line)
    {context : Context σ} (suits : context.Suits session.settings host)
    {rest : List Token} (fresh : ¬ (context.front rest).kind.ContinuesExpression) :
    session'.settings = session.settings ∧
    ∃ bound values,
      presentValues values = replies.flatMap Reply.values ∧
      ∀ (trace : Bool) (offset more : Nat) (before : List Value) (machine : Machine σ),
        machine.Rests
          (joinedTokens session.settings.lexical.collectDetailedMetrics offset lines ++ rest)
          session.bindings world →
        ∃ left reached,
          Machine.Rests reached rest session'.bindings world' ∧
          statements context trace (bound + more) before machine =
            statements context trace (left + more) (values.reverse ++ before) reached := by
  induction conversation with
  | nil session world =>
      refine ⟨rfl, 0, [], rfl, fun trace offset more before machine rests => ?_⟩
      exact ⟨0, machine, rests, rfl⟩
  | @cons session session' world world' line lines replies fuel step handled _
      inductionHypothesis =>
      obtain ⟨progress, reached, successful, sessionEq, worldEq, valuesEq⟩ :=
        exists_progress_of_evaluated handled (sources line List.mem_cons_self)
          (splits line List.mem_cons_self) (evaluated step.reply List.mem_cons_self)
      rw [sessionEq, worldEq] at inductionHypothesis
      have othersFresh : ∀ other ∈ lines,
          StartsAfresh session.settings.lexical.collectDetailedMetrics other :=
        fun other member => linesFresh other (List.mem_cons_of_mem _ member)
      obtain ⟨settingsEq, bound, values, present, follow⟩ :=
        inductionHypothesis
          (fun reply member => evaluated reply (List.mem_cons_of_mem _ member))
          (fun other member => sources other (List.mem_cons_of_mem _ member))
          (fun other member => splits other (List.mem_cons_of_mem _ member))
          othersFresh suits
      refine ⟨settingsEq, fuel + bound, progress.values ++ values, ?_, ?_⟩
      · rw [presentValues_append, present, List.flatMap_cons, valuesEq]
      · intro trace offset more before machine rests
        rw [joinedTokens, List.append_assoc] at rests
        have freshRest := front_joinedTokens_fresh fresh othersFresh (offset + line.length + 1)
        obtain ⟨left, middle, middleRests, passed⟩ :=
          line_passes (splits line List.mem_cons_self) reached successful suits offset freshRest
            trace (bound + more) before rests
        obtain ⟨left', finish, finishRests, followed⟩ :=
          follow trace (offset + line.length + 1) (left + more)
            (progress.values.reverse ++ before) middle middleRests
        refine ⟨left' + left, finish, finishRests, ?_⟩
        rw [Nat.add_assoc fuel, passed, Nat.add_left_comm, followed, ← Nat.add_assoc,
          List.reverse_append, List.append_assoc]

/-! ## The last line -/

/-- Joined lines have the tokens of all lines but the last, and then those of the last with the mark
at its end. -/
theorem closedTokens_intercalate
    {detailed : Bool} {lines : List String} {last : String}
    (splits : ∀ line ∈ lines ++ [last], Splits detailed line)
    (room : tokenCount detailed (lines ++ [last]) ≤ Limits.maxTokenCount) :
    Splits detailed ("\n".intercalate (lines ++ [last])) ∧
    closedTokens detailed ("\n".intercalate (lines ++ [last])) =
      joinedTokens detailed 0 lines ++
        (closedTokens detailed last).map (Token.shift (charactersOf lines)) := by
  have result := tokenize_intercalate splits room
  have joined : Splits detailed ("\n".intercalate (lines ++ [last])) := ⟨_, result⟩
  refine ⟨joined, ?_⟩
  rw [joined.tokenize_eq, Except.ok.injEq] at result
  rw [closedTokens, result, joinedTokens_concat, length_intercalate_concat, Nat.zero_add,
    closedTokens, List.map_append, List.append_assoc, List.map_singleton, Token.shift,
    Token.endOfInput, Token.endOfInput, Nat.add_comm]

/-- A source alone on the left, and on the right the same tokens at a distance. -/
def shiftPairing
    {settings : Settings} {host : Host σ} (source : String) {context : Context σ}
    (suits : context.Suits settings host) (distance : Nat) :
    Pairing σ :=
  withoutOverhang (sourceContext settings host source) context
    (fun token other => other = token.shift distance)
    (sourceContext_suits settings host source).closed suits.host_eq suits.loopLimit_eq
    (fun _ _ same => (congrArg Token.kind same).symm)
    (fun _ _ same => (congrArg Token.text same).symm)

theorem not_shiftPairing_overhangs
    {settings : Settings} {host : Host σ} {source : String} {context : Context σ}
    {suits : context.Suits settings host} {distance : Nat} :
    ¬ (shiftPairing source suits distance).Overhangs :=
  not_overhangs_withoutOverhang

/-- The last line and what is left of the joined lines begin alike. -/
theorem shiftPairing_alike
    {settings : Settings} {host : Host σ} {source : String} {context : Context σ}
    (suits : context.Suits settings host) {distance : Nat}
    (mark : context.endMark = (sourceContext settings host source).endMark.shift distance)
    {bindings : VariableTable} {world : σ} {machine : Machine σ}
    (rests : machine.Rests
      ((closedTokens settings.lexical.collectDetailedMetrics source).map (Token.shift distance))
      bindings world) :
    (shiftPairing source suits distance).Alike (sourceMachine settings source bindings world)
      machine := by
  refine ⟨⟨rests.bindings.symm, rests.world.symm, rests.depth.symm⟩, ?_⟩
  have facing : (shiftPairing source suits distance).Facing
      (closedTokens settings.lexical.collectDetailedMetrics source ++ [])
      ((closedTokens settings.lexical.collectDetailedMetrics source).map (Token.shift distance) ++
        []) :=
    Facing.map_append (fun _ _ => rfl) (.finish mark)
  rw [List.append_nil, List.append_nil, ← rests.remaining] at facing
  exact facing

theorem shift_of_sameFailure
    {settings : Settings} {host : Host σ} {source : String} {context : Context σ}
    {suits : context.Suits settings host} {distance : Nat} {failure other : Failure}
    (failures : SameFailure (shiftPairing source suits distance).same failure other) :
    other = ⟨failure.fault.shift distance, failure.token.shift distance⟩ := by
  cases failures with
  | @placeless fault token _ isPlaceless same =>
      cases same
      cases fault <;> first | rfl | cases isPlaceless
  | unexpected same =>
      cases same
      rfl

/-! ## The whole conversation -/

/-- One more line is answered at the end of a conversation. -/
theorem Conversation.concat
    {elapsed : String} {host : Host σ} {session session' : Session} {world world' : σ}
    {lines : List String} {replies : List Reply}
    (conversation : Conversation elapsed host session world lines replies session' world')
    {fuel : Nat} {last : String} {step : Step σ}
    (handled : session'.handleLine fuel elapsed host last world' = some step) :
    Conversation elapsed host session world (lines ++ [last]) (replies ++ [step.reply])
      step.session step.world := by
  induction conversation with
  | nil session world => exact .cons handled (.nil _ _)
  | cons first _ inductionHypothesis => exact .cons first (inductionHypothesis handled)

theorem Conversation.exists_last
    {elapsed : String} {host : Host σ} {session session' : Session} {world world' : σ}
    {lines : List String} {last : String} {replies : List Reply}
    (conversation :
      Conversation elapsed host session world (lines ++ [last]) replies session' world') :
    ∃ earlier middle middleWorld fuel step,
      Conversation elapsed host session world lines earlier middle middleWorld ∧
      middle.handleLine fuel elapsed host last middleWorld = some step ∧
      replies = earlier ++ [step.reply] ∧
      session' = step.session ∧
      world' = step.world := by
  induction lines generalizing session world replies with
  | nil =>
      cases conversation with
      | @cons _ _ _ _ _ _ _ fuel step handled rest =>
          cases rest
          exact ⟨[], session, world, fuel, step, .nil _ _, handled, rfl, rfl, rfl⟩
  | cons line lines inductionHypothesis =>
      cases conversation with
      | cons first rest =>
          obtain ⟨earlier, middle, middleWorld, fuel, step, before, handled, rfl, rfl, rfl⟩ :=
            inductionHypothesis rest
          exact ⟨_, middle, middleWorld, fuel, step, .cons first before, handled, rfl, rfl, rfl⟩

/-- The result of a run that joins lines, compared with the replies to them. All lines are
evaluated, and the values are those of the lines one after another; or the last one fails, and the
run fails for the same reason at the token that stands as far further on as the last line does. -/
inductive SameResult (distance : Nat) : List Reply → Except RunError RunResult → Prop
  | evaluated {replies : List Reply} {result : RunResult} :
      (∀ reply ∈ replies, reply.IsEvaluated) →
      result.values = replies.flatMap Reply.values →
      SameResult distance replies (.ok result)
  | failed {earlier : List Reply} {error joined : EvaluationError} :
      (∀ reply ∈ earlier, reply.IsEvaluated) →
      joined.fault = error.fault.shift distance →
      joined.token = error.token.shift distance →
      joined.bindings = error.bindings →
      presentValues joined.values =
        earlier.flatMap Reply.values ++ presentValues error.values →
      SameResult distance (earlier ++ [.failed (.evaluation error)])
        (.error (.evaluation joined))

/-- A run that joins lines ends as the conversation about them does. -/
structure SameCourse (distance : Nat) (replies : List Reply) (session : Session) (world : σ)
    (run : Run σ) : Prop where
  bindings : run.bindings = session.bindings
  world : run.world = world
  result : SameResult distance replies run.result

/-- Two runs of the last line, alone and in the joined lines, give the same course if they
correspond. -/
theorem sameCourse_of_progress
    {settings : Settings} {host : Host σ} {source : String} {context : Context σ}
    {suits : context.Suits settings host} {distance : Nat}
    {earlier : List Reply} (evaluated : ∀ reply ∈ earlier, reply.IsEvaluated)
    {before values : List Value}
    (present : presentValues before = earlier.flatMap Reply.values)
    {progress joined : Progress σ} {tokens joinedTokens : List Token} {run joinedRun : Run σ}
    (ends : run.EndsAs tokens progress) (joinedEnds : joinedRun.EndsAs joinedTokens joined)
    (valuesEq : progress.values = values) (joinedValuesEq : joined.values = before ++ values)
    (failures : Option.Rel (SameFailure (shiftPairing source suits distance).same)
      progress.failure? joined.failure?)
    (states : SameState progress.machine joined.machine) (session : Session) :
    SameCourse distance (earlier ++ [(session.stepOfRun run).reply])
      (session.stepOfRun run).session (session.stepOfRun run).world joinedRun := by
  refine ⟨?_, ?_, ?_⟩
  · exact joinedEnds.bindings.trans (states.bindings.symm.trans ends.bindings.symm)
  · exact joinedEnds.world.trans (states.world.symm.trans ends.world.symm)
  · rw [joinedEnds.result]
    simp only [stepOfRun, ends.result, Progress.result]
    generalize progress.failure? = failure at failures
    generalize joined.failure? = joinedFailure at failures
    cases failures with
    | none =>
        refine .evaluated ?_ ?_
        · intro reply member
          rcases List.mem_append.mp member with member | member
          · exact evaluated reply member
          · rw [List.mem_singleton.mp member]
            trivial
        · rw [List.flatMap_append, ← present, joinedValuesEq, presentValues_append, valuesEq]
          exact congrArg _ (List.append_nil _).symm
    | some same =>
        cases shift_of_sameFailure same
        refine .failed evaluated rfl rfl states.bindings.symm ?_
        rw [joinedValuesEq, presentValues_append, present, valuesEq]

section Joined

variable {elapsed : String} {host : Host σ} {session session' : Session} {world world' : σ}
  {lines : List String} {last : String} {replies : List Reply}
  (conversation : Conversation elapsed host session world lines replies session' world')
  (evaluated : ∀ reply ∈ replies, reply.IsEvaluated)
  (sources : ∀ line ∈ lines ++ [last], IsSource line)
  (splits : ∀ line ∈ lines ++ [last],
    Splits session.settings.lexical.collectDetailedMetrics line)
  (linesFresh : ∀ line ∈ lines ++ [last],
    StartsAfresh session.settings.lexical.collectDetailedMetrics line)
  (room : tokenCount session.settings.lexical.collectDetailedMetrics (lines ++ [last]) ≤
    Limits.maxTokenCount)
include conversation evaluated sources splits linesFresh room

/-- The run of the joined lines comes to the last line with what the others have done. -/
theorem joined_reaches_last (trace : Bool) :
    session'.settings = session.settings ∧
    ∃ bound values,
      presentValues values = replies.flatMap Reply.values ∧
      ∀ more, ∃ left reached,
        (shiftPairing last
            (sourceContext_suits session.settings host ("\n".intercalate (lines ++ [last])))
            (charactersOf lines)).Alike
          (sourceMachine session.settings last session'.bindings world') reached ∧
        statements
            (sourceContext session.settings host ("\n".intercalate (lines ++ [last]))) trace
            (bound + more) []
            (sourceMachine session.settings ("\n".intercalate (lines ++ [last]))
              session.bindings world) =
          statements
            (sourceContext session.settings host ("\n".intercalate (lines ++ [last]))) trace
            (left + more) values.reverse reached := by
  have earlier : ∀ line ∈ lines, line ∈ lines ++ [last] :=
    fun line member => List.mem_append_left [last] member
  have isLast : last ∈ lines ++ [last] := List.mem_append_right lines (List.mem_singleton_self last)
  obtain ⟨_, tokens⟩ := closedTokens_intercalate splits room
  have suits :=
    sourceContext_suits session.settings host ("\n".intercalate (lines ++ [last]))
  have fresh : ¬ ((sourceContext session.settings host
      ("\n".intercalate (lines ++ [last]))).front
        ((closedTokens session.settings.lexical.collectDetailedMetrics last).map
          (Token.shift (charactersOf lines)))).kind.ContinuesExpression := by
    have first := linesFresh last isLast
    unfold StartsAfresh at first
    rw [closedTokens]
    cases lastTokens : sourceTokens session.settings.lexical.collectDetailedMetrics last with
    | nil =>
        rintro (isAssign | ⟨tier, accepted⟩)
        · cases isAssign
        · exact (isPlain_of_accepts accepted).1 rfl
    | cons token following =>
        rw [lastTokens] at first
        exact first token rfl
  obtain ⟨settingsEq, bound, values, present, follow⟩ :=
    lines_pass conversation evaluated (fun line member => sources line (earlier line member))
      (fun line member => splits line (earlier line member))
      (fun line member => linesFresh line (earlier line member)) suits fresh
  refine ⟨settingsEq, bound, values, present, fun more => ?_⟩
  obtain ⟨left, reached, rests, followed⟩ :=
    follow trace 0 more []
      (sourceMachine session.settings ("\n".intercalate (lines ++ [last])) session.bindings
        world) ⟨tokens, rfl, rfl, rfl⟩
  rw [List.append_nil] at followed
  refine ⟨left, reached, shiftPairing_alike suits ?_ rests, followed⟩
  change endMark _ = (endMark _).shift _
  rw [tokens, closedTokens, List.map_append, List.map_singleton, ← List.append_assoc]
  exact (endMark_concat_endOfInput _ _).trans
    (congrArg (Token.shift _) (endMark_concat_endOfInput _ _)).symm

/-- If the last line is answered, the joined lines have a run with the same course. -/
theorem exists_run_of_last
    {fuel : Nat} {step : Step σ}
    (handled : session'.handleLine fuel elapsed host last world' = some step) :
    ∃ fuel' run,
      runSource fuel' elapsed session.settings host ("\n".intercalate (lines ++ [last]))
        session.bindings world = some run ∧
      SameCourse (charactersOf lines) (replies ++ [step.reply]) step.session step.world run := by
  have isLast : last ∈ lines ++ [last] := List.mem_append_right lines (List.mem_singleton_self last)
  obtain ⟨settingsEq, bound, values, present, follow⟩ :=
    joined_reaches_last conversation evaluated sources splits linesFresh room
      session.settings.evaluation.traceStatements
  obtain ⟨progress, lastRun, reached, ends, rfl⟩ :=
    exists_progress_of_handleLine handled (sources last isLast)
      (settingsEq ▸ splits last isLast)
  rw [settingsEq] at reached ends
  obtain ⟨left, start, alike, followed⟩ := follow fuel
  obtain ⟨joined, found, joinedReached, valuesEq, joinedValuesEq, failures, states⟩ :=
    statements_agree not_shiftPairing_overhangs _
      session.settings.evaluation.traceStatements (Nat.le_add_left fuel left) []
      values.reverse alike reached
  rw [List.reverse_reverse] at joinedValuesEq
  obtain ⟨run, joinedRan, joinedEnds⟩ :=
    exists_run_of_statements (closedTokens_intercalate splits room).1 elapsed
      (followed.trans joinedReached)
  exact ⟨bound + fuel, run, joinedRan, sameCourse_of_progress evaluated present ends joinedEnds
    valuesEq joinedValuesEq failures states session'⟩

/-- If the joined lines have a run, the last line is answered, with the same course. -/
theorem exists_last_of_run
    {fuel : Nat} {run : Run σ}
    (joinedRan :
      runSource fuel elapsed session.settings host ("\n".intercalate (lines ++ [last]))
        session.bindings world = some run) :
    ∃ fuel' step,
      session'.handleLine fuel' elapsed host last world' = some step ∧
      SameCourse (charactersOf lines) (replies ++ [step.reply]) step.session step.world run := by
  have isLast : last ∈ lines ++ [last] := List.mem_append_right lines (List.mem_singleton_self last)
  obtain ⟨settingsEq, bound, values, present, follow⟩ :=
    joined_reaches_last conversation evaluated sources splits linesFresh room
      session.settings.evaluation.traceStatements
  have suits :=
    sourceContext_suits session.settings host ("\n".intercalate (lines ++ [last]))
  obtain ⟨progress, reached, ends⟩ :=
    exists_progress_of_runSource (closedTokens_intercalate splits room).1 joinedRan
  obtain ⟨joined, joinedReached, sameValues, sameFailure, sameStates⟩ :=
    statements_of_le suits.closed (Nat.le_add_left fuel bound) reached
  obtain ⟨left, start, alike, followed⟩ := follow fuel
  rw [followed] at joinedReached
  obtain ⟨lastProgress, lastReached⟩ :=
    exists_statements_of_right not_shiftPairing_overhangs _
      session.settings.evaluation.traceStatements [] values.reverse alike joinedReached
  obtain ⟨found, values', foundReached, valuesEq, joinedValuesEq, failures, states⟩ :=
    statements_agree not_shiftPairing_overhangs _
      session.settings.evaluation.traceStatements (Nat.le_refl _) [] values.reverse alike
      lastReached
  obtain rfl := Option.some.inj (joinedReached.symm.trans foundReached)
  rw [List.reverse_reverse] at joinedValuesEq
  have lastReached' :
      statements (sourceContext session'.settings host last)
        session'.settings.evaluation.traceStatements (left + fuel) []
        (sourceMachine session'.settings last session'.bindings world') = some lastProgress := by
    rw [settingsEq]
    exact lastReached
  obtain ⟨lastRun, handled, lastEnds⟩ :=
    exists_step_of_statements elapsed (sources last isLast)
      (settingsEq ▸ splits last isLast) lastReached'
  exact ⟨left + fuel, session'.stepOfRun lastRun, handled,
    sameCourse_of_progress evaluated present lastEnds
      (ends.congr sameValues sameFailure sameStates) valuesEq joinedValuesEq
      failures states session'⟩

end Joined

/-! ### No lines at all -/

theorem splits_empty (detailed : Bool) : Splits detailed "" :=
  ⟨_, tokenize_of_scan (scanFrom_nil 0 {})⟩

theorem front_sourceMachine_empty
    (settings : Settings) (host : Host σ) (bindings : VariableTable) (world : σ) :
    ((sourceContext settings host "").front
      (sourceMachine settings "" bindings world).remaining).kind = .endOfInput := by
  have tokens := (splits_empty settings.lexical.collectDetailedMetrics).tokenize_eq
  rw [tokenize_of_scan (scanFrom_nil 0 {}), Except.ok.injEq] at tokens
  change ((sourceContext settings host "").front (closedTokens _ "")).kind = _
  rw [closedTokens, ← tokens]
  rfl

theorem sameCourse_of_empty
    {tokens : List Token} {session : Session} {world : σ} {run : Run σ} (distance : Nat)
    (ends : run.EndsAs tokens
      ⟨[], none, sourceMachine session.settings "" session.bindings world⟩) :
    SameCourse distance [] session world run := by
  refine ⟨ends.bindings, ends.world, ?_⟩
  rw [ends.result]
  exact .evaluated (List.forall_mem_nil _) rfl

/-- Lines in a session and the source that joins them take the same course: they leave the same
variables and the same host, and give the same values or fail at the same token. A conversation
whose lines but the last were evaluated is one the joined source has, and the other way round. -/
theorem joined_source_follows_conversation
    (elapsed : String) (host : Host σ) (session : Session) (world : σ) (lines : List String)
    (sources : ∀ line ∈ lines, IsSource line)
    (splits : ∀ line ∈ lines, Splits session.settings.lexical.collectDetailedMetrics line)
    (linesFresh : ∀ line ∈ lines,
      StartsAfresh session.settings.lexical.collectDetailedMetrics line)
    (room : tokenCount session.settings.lexical.collectDetailedMetrics lines ≤
      Limits.maxTokenCount) :
    (∀ replies session' world',
      Conversation elapsed host session world lines replies session' world' →
      (∀ reply ∈ replies.dropLast, reply.IsEvaluated) →
      ∃ fuel run,
        runSource fuel elapsed session.settings host ("\n".intercalate lines) session.bindings
          world = some run ∧
        SameCourse (charactersOf lines.dropLast) replies session' world' run) ∧
    (∀ earlier middle middleWorld,
      Conversation elapsed host session world lines.dropLast earlier middle middleWorld →
      (∀ reply ∈ earlier, reply.IsEvaluated) →
      ∀ fuel run,
        runSource fuel elapsed session.settings host ("\n".intercalate lines) session.bindings
          world = some run →
        ∃ replies session' world',
          Conversation elapsed host session world lines replies session' world' ∧
          replies.dropLast = earlier ∧
          SameCourse (charactersOf lines.dropLast) replies session' world' run) := by
  rcases List.eq_nil_or_concat lines with rfl | ⟨lines, last, split⟩
  · have splitsEmpty := splits_empty session.settings.lexical.collectDetailedMetrics
    have isEnd := front_sourceMachine_empty session.settings host session.bindings world
    constructor
    · intro replies session' world' conversation _
      cases conversation
      obtain ⟨run, ran, ends⟩ :=
        exists_run_of_statements splitsEmpty elapsed (statements_of_endOfInput 0 [] isEnd)
      exact ⟨1, run, ran, sameCourse_of_empty _ ends⟩
    · intro earlier middle middleWorld conversation _ fuel run ran
      obtain ⟨progress, reached, ends⟩ := exists_progress_of_runSource splitsEmpty ran
      cases conversation
      cases fuel with
      | zero => cases reached
      | succ fuel =>
          rw [statements_of_endOfInput fuel [] isEnd] at reached
          cases reached
          exact ⟨[], session, world, .nil session world, rfl, sameCourse_of_empty _ ends⟩
  · rw [List.concat_eq_append] at split
    subst split
    rw [List.dropLast_concat]
    constructor
    · intro replies session' world' conversation evaluated
      obtain ⟨earlier, middle, middleWorld, fuel, step, before, handled, rfl, rfl, rfl⟩ :=
        conversation.exists_last
      rw [List.dropLast_concat] at evaluated
      exact exists_run_of_last before evaluated sources splits linesFresh room handled
    · intro earlier middle middleWorld before evaluated fuel run ran
      obtain ⟨fuel', step, handled, course⟩ :=
        exists_last_of_run before evaluated sources splits linesFresh room ran
      exact ⟨_, _, _, before.concat handled, List.dropLast_concat, course⟩

/-- Two lines, the first with a comment, the second with a word where no expression can start. -/
def failingLines : List String :=
  ["bool a = true // on", "a end"]

theorem joined_source_follows_failingLines :
    ∃ replies session' world' fuel run,
      Conversation "" seededHost (ofSettings {}) (.seeded 0) failingLines replies session' world' ∧
      runSource fuel "" {} seededHost ("\n".intercalate failingLines) .empty (.seeded 0) =
        some run ∧
      SameCourse 20 replies session' world' run := by
  have sources : ∀ line ∈ failingLines, IsSource line := by
    simp only [failingLines, List.forall_mem_cons]
    refine ⟨?_, ?_, List.forall_mem_nil _⟩ <;> constructor <;> cbv
  have firstSplit : (tokenize true "bool a = true // on").result =
      .ok [⟨.dataType, "bool", 0⟩, ⟨.identifier, "a", 5⟩, ⟨.assign, "=", 7⟩, ⟨.bool, "true", 9⟩,
        ⟨.endOfInput, "", 19⟩] := by
    cbv
  have secondSplit : (tokenize true "a end").result =
      .ok [⟨.identifier, "a", 0⟩, ⟨.endWord, "end", 2⟩, ⟨.endOfInput, "", 5⟩] := by
    cbv
  have firstTokens : sourceTokens true "bool a = true // on" =
      [⟨.dataType, "bool", 0⟩, ⟨.identifier, "a", 5⟩, ⟨.assign, "=", 7⟩, ⟨.bool, "true", 9⟩] := by
    rw [sourceTokens, firstSplit]
    rfl
  have secondTokens : sourceTokens true "a end" =
      [⟨.identifier, "a", 0⟩, ⟨.endWord, "end", 2⟩] := by
    rw [sourceTokens, secondSplit]
    rfl
  have detailed : (ofSettings {}).settings.lexical.collectDetailedMetrics = true := rfl
  have splits : ∀ line ∈ failingLines, Splits true line := by
    simp only [failingLines, List.forall_mem_cons]
    exact ⟨⟨_, firstSplit⟩, ⟨_, secondSplit⟩, List.forall_mem_nil _⟩
  have fresh : ∀ line ∈ failingLines, StartsAfresh true line := by
    simp only [failingLines, List.forall_mem_cons]
    refine ⟨?_, ?_, List.forall_mem_nil _⟩
    · intro token isFirst
      rw [firstTokens] at isFirst
      cases isFirst
      decide
    · intro token isFirst
      rw [secondTokens] at isFirst
      cases isFirst
      decide
  have room : tokenCount true failingLines ≤ Limits.maxTokenCount := by
    rw [tokenCount, failingLines, List.map_cons, List.map_singleton, firstTokens, secondTokens]
    decide
  have first :
      statements (sourceContext (ofSettings {}).settings seededHost "bool a = true // on")
          (ofSettings {}).settings.evaluation.traceStatements 9 []
          (sourceMachine (ofSettings {}).settings "bool a = true // on" (ofSettings {}).bindings
            (.seeded 0)) =
        some ⟨[.bool true], none, initialMachine [⟨.endOfInput, "", 19⟩]
          (VariableTable.empty.declare "a" (.bool true)) (.seeded 0)⟩ := by
    rw [sourceContext, sourceMachine, closedTokens, detailed, firstTokens]
    cbv
  obtain ⟨run₁, handled₁, ends₁⟩ :=
    exists_step_of_statements "" (sources _ List.mem_cons_self) (splits _ List.mem_cons_self) first
  have second :
      statements (sourceContext (ofSettings {}).settings seededHost "a end")
          (ofSettings {}).settings.evaluation.traceStatements 9 []
          (sourceMachine (ofSettings {}).settings "a end" run₁.bindings run₁.world) =
        some ⟨[.bool true], some ⟨.unexpectedPrimary .endWord 2, ⟨.endWord, "end", 2⟩⟩,
          initialMachine [⟨.endWord, "end", 2⟩, ⟨.endOfInput, "", 5⟩]
            (VariableTable.empty.declare "a" (.bool true)) (.seeded 0)⟩ := by
    rw [ends₁.bindings, ends₁.world, sourceContext, sourceMachine, closedTokens, detailed,
      secondTokens]
    cbv
  have isSecond : "a end" ∈ failingLines := List.mem_cons_of_mem _ List.mem_cons_self
  obtain ⟨run₂, handled₂, _⟩ :
      ∃ run₂, ((ofSettings {}).stepOfRun run₁).session.handleLine 9 "" seededHost "a end"
        ((ofSettings {}).stepOfRun run₁).world =
          some (((ofSettings {}).stepOfRun run₁).session.stepOfRun run₂) ∧ _ :=
    exists_step_of_statements "" (sources _ isSecond) (splits _ isSecond) second
  have conversation := Conversation.cons handled₁ (Conversation.cons handled₂ (.nil _ _))
  have evaluated : ∀ reply ∈
      [((ofSettings {}).stepOfRun run₁).reply], reply.IsEvaluated := by
    simp only [List.forall_mem_singleton, stepOfRun, ends₁.result]
    trivial
  obtain ⟨fuel, run, ran, course⟩ :=
    (joined_source_follows_conversation "" seededHost (ofSettings {}) (.seeded 0) failingLines
      sources splits fresh room).1 _ _ _ conversation evaluated
  exact ⟨_, _, _, fuel, run, conversation, ran, course⟩

end Session

end PugScript
