import EventMonitor.Library.DecimalText
import EventMonitor.Library.SeparatedText
import EventMonitor.Service.ProcessEvent

/-!
# The timestamp of an inserted event

An INSERT takes the hour from one clock reading and the minute from a later one. The text is carried
unchanged through the row, the published data and the later steps of the event. It is a time of the
insertion unless the minute has been reset between the readings: an hour has ended there, and the
minute of the second reading has not come round again within an hour of the same name.
-/

namespace EventMonitor

open Library EventEventDtoMapper

namespace LocalDateTime

/-- The hours since the epoch, in local time. -/
def epochHour (t : LocalDateTime) : Int := t.epochDay * 24 + t.hour.val

/-- The nanoseconds since the epoch, in local time. -/
def epochNano (t : LocalDateTime) : Int :=
  (t.epochHour * 60 + t.minute.val) * 60000000000 + t.nanoOfMinute.val

/-- Readings are ordered in time. -/
instance : LE LocalDateTime := ⟨fun s t => s.epochNano ≤ t.epochNano⟩

/-- The order is decided by the numbers of nanoseconds. -/
instance (s t : LocalDateTime) : Decidable (s ≤ t) :=
  inferInstanceAs (Decidable (s.epochNano ≤ t.epochNano))

/-- The order of two readings, by their hours, minutes and nanoseconds. -/
theorem le_iff (s t : LocalDateTime) : s ≤ t ↔
    s.epochHour < t.epochHour ∨ (s.epochHour = t.epochHour ∧
      (s.minute.val < t.minute.val ∨ (s.minute.val = t.minute.val ∧
        s.nanoOfMinute.val ≤ t.nanoOfMinute.val))) := by
  change s.epochNano ≤ t.epochNano ↔ _
  have hs := s.minute.isLt
  have ht := t.minute.isLt
  have hs' := s.nanoOfMinute.isLt
  have ht' := t.nanoOfMinute.isLt
  unfold epochNano
  omega

/-- The readings of one hour name differ by whole days. -/
theorem epochHour_emod (t : LocalDateTime) : t.epochHour % 24 = t.hour.val := by
  have := t.hour.isLt
  unfold epochHour
  omega

/-- The beginning of a minute. -/
def startOfMinute (epochDay : Int) (hour : Fin 24) (minute : Fin 60) : LocalDateTime :=
  ⟨epochDay, hour, minute, ⟨0, by decide⟩⟩

/-- A minute has begun. -/
theorem startOfMinute_le_iff {epochDay : Int} {hour : Fin 24} {minute : Fin 60} (t : LocalDateTime) :
    startOfMinute epochDay hour minute ≤ t ↔ epochDay * 24 + hour.val < t.epochHour ∨
      (epochDay * 24 + hour.val = t.epochHour ∧ minute.val ≤ t.minute.val) := by
  rw [le_iff]
  change epochDay * 24 + hour.val < _ ∨ (epochDay * 24 + hour.val = _ ∧
    (minute.val < _ ∨ (minute.val = _ ∧ 0 ≤ t.nanoOfMinute.val))) ↔ _
  rw [and_iff_left (Nat.zero_le _), ← Nat.le_iff_lt_or_eq]

/-- Between two readings lies a time with the hour of the first and the minute of the second, unless
the minute has been reset and the hour has not come round again. -/
theorem exists_between_iff {s t : LocalDateTime} (h : s ≤ t) :
    (∃ u, s ≤ u ∧ u ≤ t ∧ u.hour = s.hour ∧ u.minute = t.minute) ↔
      (s.minute ≤ t.minute ∨ s.epochHour + 24 ≤ t.epochHour) := by
  have horder := (le_iff s t).mp h
  rw [Fin.le_def]
  constructor
  · intro hbetween
    obtain ⟨u, hsu, hut, hhour, hminute⟩ := hbetween
    have hname := u.epochHour_emod
    rw [hhour, ← s.epochHour_emod] at hname
    rw [le_iff, hminute] at hsu hut
    omega
  · intro hcondition
    rcases Nat.lt_trichotomy s.minute.val t.minute.val with hlater | hsame | hearlier
    · -- The minute of the second reading begins within the hour of the first.
      refine ⟨startOfMinute s.epochDay s.hour t.minute, ?_, ?_, rfl, rfl⟩
      · rw [le_iff]
        exact Or.inr ⟨rfl, Or.inl hlater⟩
      · rw [startOfMinute_le_iff]
        change s.epochHour < _ ∨ s.epochHour = _ ∧ _
        omega
    · exact ⟨s, (le_iff s s).mpr (by omega), h, rfl, Fin.ext hsame⟩
    · -- The hour of the first reading comes round again on the next day.
      have hday : s.epochHour + 24 ≤ t.epochHour := by omega
      refine ⟨startOfMinute (s.epochDay + 1) s.hour t.minute, ?_, ?_, rfl, rfl⟩
      · rw [le_iff]
        left
        change s.epochDay * 24 + s.hour.val < (s.epochDay + 1) * 24 + s.hour.val
        omega
      · rw [startOfMinute_le_iff]
        unfold epochHour at hday
        unfold epochHour
        omega

end LocalDateTime

namespace EventServiceImpl

/-- The text determines the hour and the minute. -/
theorem timestampText_inj {s t s' t' : LocalDateTime} :
    timestampText s t = timestampText s' t' ↔ s.hour = s'.hour ∧ t.minute = t'.minute := by
  have hdigits : ∀ n : ℕ, ':' ∉ (toString n).toList := by
    intro n h
    have hdigit : ':'.isDigit := DecimalText.isDigit_of_mem (Nat.toList_repr ▸ h)
    contradiction
  have hnumber : ∀ m n : ℕ, toString m = toString n ↔ m = n := by
    intro m n
    rw [← String.toList_inj]
    change (Nat.repr m).toList = (Nat.repr n).toList ↔ m = n
    rw [Nat.toList_repr, Nat.toList_repr, DecimalText.toDigits_injective.eq_iff]
  rw [← String.toList_inj]
  simp only [timestampText, String.toList_append, List.append_assoc]
  change (toString s.hour.val).toList ++ ':' :: (toString t.minute.val).toList =
    (toString s'.hour.val).toList ++ ':' :: (toString t'.minute.val).toList ↔ _
  rw [SeparatedText.append_cons_inj_of_notMem_before (hdigits _) (hdigits _), String.toList_inj,
    String.toList_inj, hnumber, hnumber, Fin.ext_iff, Fin.ext_iff]

/-- The row of the returned data has this timestamp. -/
def StoredWith (timestamp : Option String) (returned : EventDto) (v : World) : Prop :=
  ∃ id columns, returned.id = some id ∧ v.events.lookup id = some columns ∧
    columns.timestamp = timestamp

/-- The call has published one status change, and its data has this timestamp. -/
def PublishedWith (timestamp : Option String) (action : Action) (w v : World) : Prop :=
  ∃ change, v.processedEventQueue = w.processedEventQueue ++ [change] ∧ change.action = action ∧
    change.eventDto.timestamp = timestamp

/-- The data of an INSERT, and of the UPDATE and the DELETE that it is passed on to whenever they
return, is stored and published with this timestamp. -/
structure TimestampIs (props : ApplicationProperties) (timestamp : Option String)
    (inserted : EventDto) (w v : World) : Prop where
  stored : StoredWith timestamp inserted v
  published : PublishedWith timestamp .insert w v
  carried : ∀ env w₁ v₁ updated,
    Effect.outcome (processEvent props env inserted .update) w₁ = (.ok updated, v₁) →
      StoredWith timestamp updated v₁ ∧ PublishedWith timestamp .update w₁ v₁ ∧
        ∀ env w₂ v₂ deleted,
          Effect.outcome (processEvent props env updated .delete) w₂ = (.ok deleted, v₂) →
            PublishedWith timestamp .delete w₂ v₂

/-- A row has one timestamp. -/
theorem StoredWith.unique {timestamp timestamp' : Option String} {returned : EventDto} {v : World}
    (h : StoredWith timestamp returned v) (h' : StoredWith timestamp' returned v) :
    timestamp = timestamp' := by
  obtain ⟨id, columns, hid, hrow, htimestamp⟩ := h
  obtain ⟨id', columns', hid', hrow', htimestamp'⟩ := h'
  obtain rfl := Option.some.inj (hid.symm.trans hid')
  obtain rfl := Option.some.inj (hrow.symm.trans hrow')
  exact htimestamp.symm.trans htimestamp'

/-- An UPDATE stores, publishes and returns the timestamp that it is given. -/
theorem update_timestamp {props : ApplicationProperties} {env : CallEnv} {eventDto updated : EventDto}
    {w v : World}
    (h : Effect.outcome (processEvent props env eventDto .update) w = (.ok updated, v)) :
    StoredWith eventDto.timestamp updated v ∧ PublishedWith eventDto.timestamp .update w v ∧
      updated.timestamp = eventDto.timestamp := by
  obtain ⟨-, hreturned, hevents, hqueue, -⟩ := processEvent_ok h
  subst hreturned
  refine ⟨⟨_, eventDto.columns, rfl, ?_, rfl⟩, ⟨_, hqueue, rfl, rfl⟩, rfl⟩
  rw [hevents]
  exact KeyedTable.lookup_put_self _ _ _

/-- A DELETE publishes the timestamp that it is given. -/
theorem delete_timestamp {props : ApplicationProperties} {env : CallEnv} {eventDto deleted : EventDto}
    {w v : World}
    (h : Effect.outcome (processEvent props env eventDto .delete) w = (.ok deleted, v)) :
    PublishedWith eventDto.timestamp .delete w v := by
  obtain ⟨-, -, -, hqueue, -⟩ := processEvent_ok h
  exact ⟨_, hqueue, rfl, rfl⟩

/-- The text of the two readings of an INSERT is its timestamp throughout. -/
theorem timestampIs_timestampText {props : ApplicationProperties} {env : CallEnv}
    {eventDto inserted : EventDto} {w v : World}
    (h : Effect.outcome (processEvent props env eventDto .insert) w = (.ok inserted, v)) :
    TimestampIs props (some (timestampText env.hourReading env.minuteReading)) inserted w v := by
  obtain ⟨-, hreturned, hevents, hqueue, -⟩ := processEvent_ok h
  subst hreturned
  refine ⟨⟨_, (stampEvent env (drawnUser env) (convertDtoToEntity eventDto)).columns, rfl, ?_, rfl⟩,
    ⟨_, hqueue, rfl, rfl⟩, fun env₁ w₁ v₁ updated hupdate => ?_⟩
  · rw [hevents]
    exact KeyedTable.lookup_put_self _ _ _
  · obtain ⟨hstored, hpublished, hupdated⟩ := update_timestamp hupdate
    refine ⟨hstored, hpublished, fun env₂ w₂ v₂ deleted hdelete => ?_⟩
    have hdeleted := delete_timestamp hdelete
    rw [hupdated] at hdeleted
    exact hdeleted

/-- An INSERT has one timestamp. -/
theorem timestampIs_iff {props : ApplicationProperties} {env : CallEnv}
    {eventDto inserted : EventDto} {w v : World} {text : String}
    (h : Effect.outcome (processEvent props env eventDto .insert) w = (.ok inserted, v)) :
    TimestampIs props (some text) inserted w v ↔
      text = timestampText env.hourReading env.minuteReading := by
  have hactual := timestampIs_timestampText h
  constructor
  · intro htimestamp
    exact Option.some.inj (htimestamp.stored.unique hactual.stored)
  · intro htext
    rw [htext]
    exact hactual

/-- The timestamp of an INSERT is the hour and minute of a time between its two clock readings
exactly when the second reading does not have the smaller minute, or is not before the same hour of
the next day. -/
theorem insertedTimestamp_iff {props : ApplicationProperties} {env : CallEnv}
    {eventDto inserted : EventDto} {w v : World} (hclock : env.hourReading ≤ env.minuteReading)
    (h : Effect.outcome (processEvent props env eventDto .insert) w = (.ok inserted, v)) :
    (∃ t, env.hourReading ≤ t ∧ t ≤ env.minuteReading ∧
        TimestampIs props (some (timestampText t t)) inserted w v) ↔
      (env.hourReading.minute ≤ env.minuteReading.minute ∨
        env.hourReading.epochHour + 24 ≤ env.minuteReading.epochHour) := by
  rw [← LocalDateTime.exists_between_iff hclock]
  simp only [timestampIs_iff h, timestampText_inj]

/-- A call whose two clock readings are a quarter of an hour apart. -/
def quarterEnv : CallEnv where
  __ := quietEnv
  hourReading := ⟨0, ⟨10, by decide⟩, ⟨5, by decide⟩, ⟨0, by decide⟩⟩
  minuteReading := ⟨0, ⟨10, by decide⟩, ⟨20, by decide⟩, ⟨0, by decide⟩⟩

/-- The timestamp of that call is a time between its readings. -/
theorem insertedTimestamp_quarter : ∃ t, quarterEnv.hourReading ≤ t ∧ t ≤ quarterEnv.minuteReading ∧
    TimestampIs .test (some (timestampText t t))
      (effect quarterEnv emptyWorld.events .empty .insert).2.1 emptyWorld
      (Effect.outcome (processEvent .test quarterEnv .empty .insert) emptyWorld).2 :=
  (insertedTimestamp_iff (by decide) (by
    rw [outcome_of_succeeds (by decide)])).mpr (Or.inl (by decide))

/-- A call whose clock readings lie a nanosecond apart, on both sides of the end of an hour. -/
def boundaryEnv : CallEnv where
  __ := quietEnv
  hourReading := ⟨0, ⟨10, by decide⟩, ⟨59, by decide⟩, ⟨59999999999, by decide⟩⟩
  minuteReading := ⟨0, ⟨11, by decide⟩, ⟨0, by decide⟩, ⟨0, by decide⟩⟩

/-- The timestamp of that call is `10:0`, which is no time between its readings. -/
theorem insertedTimestamp_boundary :
    boundaryEnv.hourReading ≤ boundaryEnv.minuteReading ∧
    ∃ inserted v, Effect.outcome (processEvent .test boundaryEnv .empty .insert) emptyWorld =
        (.ok inserted, v) ∧
      inserted.timestamp = some "10:0" ∧
      ¬ ∃ t, boundaryEnv.hourReading ≤ t ∧ t ≤ boundaryEnv.minuteReading ∧
        TimestampIs .test (some (timestampText t t)) inserted emptyWorld v := by
  have hclock : boundaryEnv.hourReading ≤ boundaryEnv.minuteReading := by decide
  have hinsert := outcome_of_succeeds (show succeeds .test boundaryEnv .insert by decide) .empty emptyWorld
  refine ⟨hclock, _, _, hinsert, rfl, ?_⟩
  simp only [timestampIs_iff hinsert, timestampText_inj]
  rw [LocalDateTime.exists_between_iff hclock]
  decide

end EventServiceImpl

end EventMonitor
