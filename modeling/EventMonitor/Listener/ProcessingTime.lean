import EventMonitor.Listener.IncomingEventListener

/-!
# The configured processing time

The UPDATE of a message simulates its processing time: it sleeps for the initial time and a
random part, both of which are configured. The range of the random part must not be empty, and
the sum is taken in 32 bits. A configuration for which one of the two goes wrong makes the
listener throw although nothing outside has failed, after the INSERT has been committed.
-/

namespace EventMonitor

open Library

/-- The delay is configured by two non-negative `int` values. -/
structure ApplicationProperties.DelayInRange (props : ApplicationProperties) : Prop where
  initial_nonneg : 0 ≤ props.initial
  initial_lt : props.initial < 2 ^ 31
  maxRandom_nonneg : 0 ≤ props.maxRandom
  maxRandom_lt : props.maxRandom < 2 ^ 31

/-- No library call fails and the thread is not interrupted. -/
def CallEnv.Undisturbed (env : CallEnv) : Prop := env.fault = none

/-- None of the three calls for a message is disturbed from outside. -/
structure MessageEnv.Undisturbed (env : MessageEnv) : Prop where
  insert : env.insert.Undisturbed
  update : env.update.Undisturbed
  delete : env.delete.Undisturbed

/-- An undisturbed call passes every point of failure. -/
theorem CallEnv.Undisturbed.failsAt {env : CallEnv} (henv : env.Undisturbed) (point : FaultPoint) :
    env.failsAt point = false := by
  unfold CallEnv.failsAt
  rw [henv]
  rfl

/-- A sum of non-negative `int` values is exact, or it wraps around once and is negative. -/
theorem addInt_eq {a b : Int} (ha : 0 ≤ a) (ha' : a < 2 ^ 31) (hb : 0 ≤ b) (hb' : b < 2 ^ 31) :
    addInt a b = if a + b < 2 ^ 31 then a + b else a + b - 2 ^ 32 := by
  unfold addInt
  split
  next hfits => exact Int.bmod_eq_of_le_mul_two (by omega) (by omega)
  next hwraps =>
    rw [← Int.sub_bmod_right]
    exact Int.bmod_eq_of_le_mul_two (by omega) (by omega)

namespace EventServiceImpl

/-- A draw from a range that is not empty lies in it. -/
theorem draw_bounds (draw : ℕ) {bound : Int} (hbound : 0 < bound) :
    0 ≤ (draw : Int) % bound ∧ (draw : Int) % bound < bound :=
  ⟨Int.emod_nonneg _ (Int.ne_of_gt hbound), Int.emod_lt_of_pos _ hbound⟩

/-- A range that is not empty can be drawn from. -/
theorem nextInt_of_pos (draw : ℕ) {bound : Int} (hbound : 0 < bound) :
    nextInt bound draw = .ok (draw % bound) := by
  rw [nextInt, if_neg (Int.not_le.mpr hbound)]

/-- Drawing from an empty range throws. -/
theorem nextInt_of_not_pos (draw : ℕ) {bound : Int} (hbound : ¬ 0 < bound) :
    nextInt bound draw = .error (.illegalArgument "bound must be positive") := by
  rw [nextInt, if_pos (Int.not_lt.mp hbound)]

/-- The configuration and the draw make a delay: the range of the draw is not empty, and the sum is
an `int`. -/
def DelayFits (props : ApplicationProperties) (env : CallEnv) : Prop :=
  0 < props.maxRandom ∧ props.initial + env.delayDraw % props.maxRandom < 2 ^ 31

/-- The delay sleeps for the sum of the initial time and the draw, if there is such an `int`. -/
theorem delayResult_of_fits {props : ApplicationProperties} {env : CallEnv} (hprops : props.DelayInRange)
    (henv : env.Undisturbed) (henabled : props.enableDelay) (hfits : DelayFits props env) :
    delayResult props env = .ok [props.initial + env.delayDraw % props.maxRandom] := by
  obtain ⟨hpos, hsum⟩ := hfits
  obtain ⟨hdraw, hdraw'⟩ := draw_bounds env.delayDraw hpos
  have hadd : addInt props.initial (env.delayDraw % props.maxRandom) =
      props.initial + env.delayDraw % props.maxRandom := by
    rw [addInt_eq hprops.initial_nonneg hprops.initial_lt hdraw
      (Int.lt_trans hdraw' hprops.maxRandom_lt), if_pos hsum]
  have hinitial := hprops.initial_nonneg
  have hnonneg : ¬ props.initial + env.delayDraw % props.maxRandom < 0 := by omega
  simp only [delayResult, henabled, if_true, nextInt_of_pos env.delayDraw hpos, hadd, if_neg hnonneg,
    henv.failsAt, Bool.false_eq_true, if_false]

/-- The delay throws when there is no such `int`. -/
theorem delayResult_of_not_fits {props : ApplicationProperties} {env : CallEnv}
    (hprops : props.DelayInRange) (henabled : props.enableDelay) (hfits : ¬ DelayFits props env) :
    ∃ message, delayResult props env = .error (.illegalArgument message) := by
  by_cases hpos : 0 < props.maxRandom
  · have hsum : ¬ props.initial + env.delayDraw % props.maxRandom < 2 ^ 31 :=
      fun hsum => hfits ⟨hpos, hsum⟩
    obtain ⟨hdraw, hdraw'⟩ := draw_bounds env.delayDraw hpos
    have hinitial := hprops.initial_lt
    have hmax := hprops.maxRandom_lt
    have hadd : addInt props.initial (env.delayDraw % props.maxRandom) < 0 := by
      rw [addInt_eq hprops.initial_nonneg hinitial hdraw (Int.lt_trans hdraw' hmax), if_neg hsum]
      omega
    refine ⟨"timeout value is negative", ?_⟩
    simp only [delayResult, henabled, if_true, nextInt_of_pos env.delayDraw hpos, if_pos hadd]
  · refine ⟨"bound must be positive", ?_⟩
    simp only [delayResult, henabled, if_true, nextInt_of_not_pos env.delayDraw hpos]

/-- An undisturbed call succeeds unless its delay throws. -/
theorem succeeds_of_undisturbed {env : CallEnv} (henv : env.Undisturbed) (props : ApplicationProperties)
    (action : Action) : succeeds props env action = !delayFails props env action := by
  cases action <;> simp [succeeds, returns, sends, henv.failsAt, delayFails]

/-- An undisturbed UPDATE succeeds exactly when its delay is off or fits. -/
theorem succeeds_update_iff {props : ApplicationProperties} {env : CallEnv} (hprops : props.DelayInRange)
    (henv : env.Undisturbed) :
    succeeds props env .update ↔ (props.enableDelay = false ∨ DelayFits props env) := by
  rw [succeeds_of_undisturbed henv, delayFails]
  by_cases henabled : props.enableDelay
  · by_cases hfits : DelayFits props env
    · simp [delayResult_of_fits hprops henv henabled hfits, hfits]
    · obtain ⟨message, hdelay⟩ := delayResult_of_not_fits hprops henabled hfits
      simp [hdelay, henabled, hfits]
  · simp [delayResult, henabled]

end EventServiceImpl

namespace IncomingEventListener

open EventServiceImpl

/-- The listener returns, and with the delay it has slept once, within the configured bounds. -/
def ProcessedInTime (props : ApplicationProperties) (env : MessageEnv) (eventDto : EventDto)
    (w : World) : Prop :=
  ∃ v, Effect.outcome (onMessage props env (.ok (.eventDto eventDto))) w = (.ok (), v) ∧
    (props.enableDelay → ∃ millis, v.slept = w.slept ++ [millis] ∧
      props.initial ≤ millis ∧ millis ≤ props.initial + props.maxRandom)

/-- A message whose three calls succeed has slept in its UPDATE only. -/
theorem onMessage_slept {props : ApplicationProperties} {env : MessageEnv}
    (hinsert : succeeds props env.insert .insert) (hupdate : succeeds props env.update .update)
    (hdelete : succeeds props env.delete .delete) (eventDto : EventDto) (w : World) :
    ∃ v, Effect.outcome (onMessage props env (.ok (.eventDto eventDto))) w = (.ok (), v) ∧
      v.slept = w.slept ++ sleeps props env.update .update := by
  simp only [onMessage, Effect.outcome_tryCatch, Effect.outcome_bind, Effect.outcome_ofExcept,
    Effect.outcome_pure, outcome_of_succeeds hinsert, outcome_of_succeeds hupdate,
    outcome_of_succeeds hdelete]
  refine ⟨_, rfl, ?_⟩
  simp [sleeps]

/-- Undisturbed, a message is processed in time exactly when the delay is off or fits. -/
theorem processedInTime_iff_delayFits {props : ApplicationProperties} {env : MessageEnv}
    (hprops : props.DelayInRange) (henv : env.Undisturbed) (eventDto : EventDto) (w : World) :
    ProcessedInTime props env eventDto w ↔ (props.enableDelay = false ∨ DelayFits props env.update) := by
  rw [← succeeds_update_iff hprops henv.update]
  constructor
  · intro h
    obtain ⟨v, hrun, -⟩ := h
    rcases onMessage_cases hrun with ⟨-, ⟨e, he⟩, -⟩ | ⟨-, -, ⟨e, he⟩, -⟩ | ⟨-, -, -, ⟨e, he⟩, -⟩ |
      ⟨-, hupdate, -⟩
    · contradiction
    · contradiction
    · contradiction
    · exact hupdate
  · intro hupdate
    have hinsert : succeeds props env.insert .insert := succeeds_of_undisturbed henv.insert _ _
    have hdelete : succeeds props env.delete .delete := succeeds_of_undisturbed henv.delete _ _
    obtain ⟨v, hrun, hslept⟩ := onMessage_slept hinsert hupdate hdelete eventDto w
    refine ⟨v, hrun, fun henabled => ?_⟩
    have hfits : DelayFits props env.update := by
      apply ((succeeds_update_iff hprops henv.update).mp hupdate).resolve_left
      simp [henabled]
    rw [sleeps, delayResult_of_fits hprops henv.update henabled hfits] at hslept
    obtain ⟨hdraw, hdraw'⟩ := draw_bounds env.update.delayDraw hfits.1
    exact ⟨_, hslept, by omega, by omega⟩

/-- A message whose delay does not fit makes the listener throw and leaves the row of its INSERT
behind, although nothing outside has failed. -/
theorem row_left_of_not_fits {props : ApplicationProperties} {env : MessageEnv}
    (hprops : props.DelayInRange) (henv : env.Undisturbed) (henabled : props.enableDelay)
    (hfits : ¬ DelayFits props env.update) (eventDto : EventDto) (w : World) :
    ∃ e v, Effect.outcome (onMessage props env (.ok (.eventDto eventDto))) w = (.error e, v) ∧
      v.events = w.events.put (insertKey env w.events eventDto) (insertColumns env eventDto) := by
  have hinsert : succeeds props env.insert .insert := succeeds_of_undisturbed henv.insert _ _
  have hupdate : ¬ succeeds props env.update .update := by
    rw [succeeds_update_iff hprops henv.update]
    simp [henabled, hfits]
  rcases hrun : Effect.outcome (onMessage props env (.ok (.eventDto eventDto))) w with ⟨r, v⟩
  rcases onMessage_cases hrun with ⟨hfails, -⟩ | ⟨-, -, ⟨e, rfl⟩, hevents⟩ | ⟨-, hreturns, -⟩ |
    ⟨-, hreturns, -⟩
  · exact absurd hinsert (by simp [hfails])
  · exact ⟨e, v, rfl, hevents⟩
  · exact absurd hreturns hupdate
  · exact absurd hreturns hupdate

/-- A configuration lets every undisturbed message through exactly when the delay is off, or no draw
can leave the range of `int`. -/
theorem processedInTime_forall_iff {props : ApplicationProperties} (hprops : props.DelayInRange) :
    (∀ env eventDto w, env.Undisturbed → ProcessedInTime props env eventDto w) ↔
      (props.enableDelay = false ∨
        (0 < props.maxRandom ∧ props.initial + props.maxRandom ≤ 2 ^ 31)) := by
  constructor
  · intro h
    -- The largest draw decides.
    let largest : CallEnv := { quietEnv with delayDraw := props.maxRandom.toNat - 1 }
    have henv : MessageEnv.Undisturbed ⟨quietEnv, largest, quietEnv⟩ := ⟨rfl, rfl, rfl⟩
    refine ((processedInTime_iff_delayFits hprops henv .empty emptyWorld).mp
      (h _ .empty emptyWorld henv)).imp_right fun hfits => ?_
    obtain ⟨hpos, hsum⟩ := hfits
    have hdraw : ((props.maxRandom.toNat - 1 : ℕ) : Int) % props.maxRandom = props.maxRandom - 1 := by
      rw [Int.emod_eq_of_lt (by omega) (by omega)]
      omega
    change props.initial + ((props.maxRandom.toNat - 1 : ℕ) : Int) % props.maxRandom < 2 ^ 31 at hsum
    exact ⟨hpos, by omega⟩
  · intro hconfig env eventDto w henv
    rw [processedInTime_iff_delayFits hprops henv]
    refine hconfig.imp_right fun hfits => ⟨hfits.1, ?_⟩
    have hdraw := (draw_bounds env.update.delayDraw hfits.1).2
    omega

/-- The shipped configurations let every undisturbed message through. -/
theorem shipped_processedInTime (env : MessageEnv) (eventDto : EventDto) (w : World)
    (henv : env.Undisturbed) :
    ProcessedInTime .dev env eventDto w ∧ ProcessedInTime .prod env eventDto w := by
  have hdev : ApplicationProperties.dev.DelayInRange := by constructor <;> decide
  have hprod : ApplicationProperties.prod.DelayInRange := by constructor <;> decide
  exact ⟨(processedInTime_forall_iff hdev).mpr (by decide) env eventDto w henv,
    (processedInTime_forall_iff hprod).mpr (by decide) env eventDto w henv⟩

/-- Undisturbed messages are processed in time exactly when the delay is off, or its random part
has a non-empty range and the sum that is drawn is an `int`; a configuration lets all of them
through when this is so for every draw. -/
theorem processedInTime_iff {props : ApplicationProperties} (hprops : props.DelayInRange) :
    (∀ env eventDto w, env.Undisturbed →
      (ProcessedInTime props env eventDto w ↔ (props.enableDelay = false ∨ (0 < props.maxRandom ∧
        props.initial + env.update.delayDraw % props.maxRandom < 2 ^ 31)))) ∧
    ((∀ env eventDto w, env.Undisturbed → ProcessedInTime props env eventDto w) ↔
      (props.enableDelay = false ∨
        (0 < props.maxRandom ∧ props.initial + props.maxRandom ≤ 2 ^ 31))) :=
  ⟨fun _ eventDto w henv => processedInTime_iff_delayFits hprops henv eventDto w,
    processedInTime_forall_iff hprops⟩

/-- With 500 ms and a draw of 7 from a range of 500 ms, a message is processed in time. -/
theorem processedInTime_prod :
    ProcessedInTime .prod ⟨quietEnv, { quietEnv with delayDraw := 7 }, quietEnv⟩ .empty emptyWorld := by
  have hprops : ApplicationProperties.prod.DelayInRange := by constructor <;> decide
  have hdraw := (processedInTime_iff hprops).1 ⟨quietEnv, { quietEnv with delayDraw := 7 }, quietEnv⟩
    .empty emptyWorld ⟨rfl, rfl, rfl⟩
  exact hdraw.mpr (by decide)

/-- Without a random part the listener throws for every message; with a large initial time it throws
for some draws. -/
theorem delay_without_outside_reason_throws :
    (∃ props env, props.DelayInRange ∧ env.Undisturbed ∧ props.initial = 500 ∧ props.maxRandom = 0 ∧
      ¬ ProcessedInTime props env .empty emptyWorld) ∧
    (∃ props env, props.DelayInRange ∧ env.Undisturbed ∧ props.initial = 2147483647 ∧
      props.maxRandom = 2 ∧ env.update.delayDraw = 1 ∧
      ¬ ProcessedInTime props env .empty emptyWorld) := by
  constructor
  · let props : ApplicationProperties := ⟨true, 500, 0, 1, 10⟩
    let env : MessageEnv := ⟨quietEnv, quietEnv, quietEnv⟩
    have hprops : props.DelayInRange := by constructor <;> decide
    have henv : env.Undisturbed := ⟨rfl, rfl, rfl⟩
    refine ⟨props, env, hprops, henv, rfl, rfl, ?_⟩
    rw [processedInTime_iff_delayFits hprops henv, DelayFits]
    decide
  · let props : ApplicationProperties := ⟨true, 2147483647, 2, 1, 10⟩
    let env : MessageEnv := ⟨quietEnv, { quietEnv with delayDraw := 1 }, quietEnv⟩
    have hprops : props.DelayInRange := by constructor <;> decide
    have henv : env.Undisturbed := ⟨rfl, rfl, rfl⟩
    refine ⟨props, env, hprops, henv, rfl, rfl, rfl, ?_⟩
    rw [processedInTime_iff_delayFits hprops henv, DelayFits]
    decide

end IncomingEventListener

end EventMonitor
